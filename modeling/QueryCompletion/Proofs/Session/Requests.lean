import QueryCompletion.Proofs.Session.Events
import QueryCompletion.Proofs.Session.Tracked

/-!
Requests in flight over a run of the value service. In every state a key has at most one unfinished
request, which is the one on record, and whatever is marked as being loaded has one.
-/

namespace QueryCompletion

open Loop (Quiet)
open ValueService (Settles)

/-- The key of a task that is an unfinished request. -/
def Loop.requestKey? (loop : Loop Job) (id : TaskId) : Option Text :=
  match loop.tasks[id]? with
  | some { job := .request asked _, outcome := none, .. } => some asked.query.key
  | _ => none

theorem Loop.requestKey?_eq_some_iff {loop : Loop Job} {id : TaskId} {key : Text}
    (native : loop.standing? id ≠ some .foreign) :
    loop.requestKey? id = some key ↔ loop.standing? id = some (.fetching key) := by
  unfold requestKey?
  rw [standing?] at native ⊢
  cases found : loop.tasks[id]? with
  | none => simp
  | some task =>
    rw [found, Option.map_some] at native
    rw [Option.map_some]
    obtain ⟨job, wait, cancelled, watchers, outcome⟩ := task
    cases outcome with
    | some outcome => simp [Task.standing]
    | none =>
      cases job with
      | request asked stage =>
        cases cancelled with
        | true => exact absurd rfl native
        | false => simp [Task.standing]
      | debounce query loadMore waited => simp [Task.standing]
      | schema url stage => simp [Task.standing]
      | idle => simp [Task.standing]
      | close stage => simp [Task.standing]

namespace Session

variable {session : Session}

/-- A value service at its start, inside a running event loop. -/
structure Fresh (session : Session) : Prop where
  running : session.loop.running = true
  tasks : session.loop.tasks = []
  ready : session.loop.ready = []
  pending : session.service.pending = none
  entries : session.service.cache.entries = []

theorem Fresh.tracked (fresh : session.Fresh) : Tracked session.loop session.service := by
  have nobody : ∀ id, session.loop.standing? id = none := by
    intro id
    rw [Loop.standing?, fresh.tasks]
    rfl
  refine ⟨fresh.running, fun id => ?_, fun id inside => ?_, fun id waits => ?_, fun id key fetching => ?_,
    fun entry inside => ?_⟩
  · rw [nobody]
    exact (Option.some_ne_none _).symm
  · rw [fresh.ready] at inside
    cases inside
  · rw [fresh.pending] at waits
    cases waits
  · rw [nobody] at fetching
    cases fetching
  · rw [fresh.entries] at inside
    cases inside

/-- Whatever the answer to a request is, it settles the key. -/
theorem settles_takePage (session : Session) (asked : PageRequest) (url : Option String) (answer : Answer) :
    Settles asked.query.key session.service (session.takePage asked url answer).service := by
  rcases session.takePage_cases asked url answer with ⟨message, _, failed⟩ | ⟨page, _, applied⟩
  · rw [failed]
    exact ValueService.settles_clearLoading _ _
  · rw [applied, applyPage_service]
    exact ValueService.settles_applyPage _ _ _

theorem tracked_cancelPending (tracked : Tracked session.loop session.service) :
    Tracked session.cancelPending.loop session.cancelPending.service := by
  have cancelled : Quiet session.loop session.cancelPending.loop := by
    show Quiet _ (session.service.pending.elim session.loop session.loop.cancel)
    cases waits : session.service.pending with
    | none => exact .refl _
    | some id => exact Loop.quiet_cancel (tracked.pending id waits)
  exact { tracked.quiet cancelled with pending := fun id waits => by cases waits }

theorem tracked_scheduleLoad (tracked : Tracked session.loop session.service) (query : ValueQuery)
    (loadMore : Bool) :
    Tracked (session.scheduleLoad query loadMore).2.loop (session.scheduleLoad query loadMore).2.service := by
  unfold scheduleLoad
  rw [if_pos tracked.running]
  exact (tracked_cancelPending tracked).debounce query loadMore

theorem tracked_valueOptions (tracked : Tracked session.loop session.service) (query : ValueQuery)
    (loadMore : Bool) :
    Tracked (session.valueOptions query loadMore).2.loop (session.valueOptions query loadMore).2.service := by
  have touched := tracked.touch query.key
  unfold valueOptions
  dsimp only
  split
  · exact tracked_scheduleLoad touched query loadMore
  · exact touched

/-- Without an unfinished request on record there is none at all. -/
theorem not_fetching_of_inFlight (tracked : Tracked session.loop session.service) {key : Text}
    (absent : session.inFlight key = false) (id : TaskId) :
    session.loop.standing? id ≠ some (.fetching key) := by
  intro fetching
  have live : session.loop.isLive id = true := by
    rw [Loop.standing?, Option.map_eq_some_iff] at fetching
    obtain ⟨task, found, standing⟩ := fetching
    rw [Loop.isLive, found]
    exact Option.isNone_iff_eq_none.mpr (Task.unfinished_of_fetching standing).1
  rw [inFlight, tracked.recorded id key fetching, Option.map_some, Option.getD_some, live] at absent
  cases absent

theorem tracked_loadPage (tracked : Tracked session.loop session.service) (query : ValueQuery)
    (loadMore : Bool) :
    Tracked (session.loadPage query loadMore).2.loop (session.loadPage query loadMore).2.service := by
  have touched := tracked.touch query.key
  unfold loadPage
  dsimp only
  split
  · exact tracked
  · rename_i free
    rw [Bool.not_eq_true, Bool.or_eq_false_iff] at free
    split
    · exact touched
    · rename_i page _
      rw [if_pos tracked.running]
      refine tracked.request ⟨query, page⟩ (not_fetching_of_inFlight tracked free.2) fun entry inside _ => ?_
      rcases Cache.mem_of_mem_set inside with rfl | ⟨old, _⟩
      · exact Or.inl rfl
      · exact Or.inr (Cache.mem_of_mem_touch old)

theorem standing?_loadPage {id : TaskId} {standing : Standing} (query : ValueQuery) (loadMore : Bool)
    (found : session.loop.standing? id = some standing) :
    (session.loadPage query loadMore).2.loop.standing? id = some standing := by
  unfold loadPage
  dsimp only
  split
  · exact found
  · split
    · exact found
    · split
      · exact Loop.standing?_spawn_of_some found
      · exact found

/-- A turn of a fetch that waits for typing to pause: it waits on, or it sends its request and ends. -/
theorem tracked_debounceTurn {id : TaskId} {query : ValueQuery} {loadMore : Bool}
    (tracked : Tracked session.loop session.service) (aims : session.loop.purpose? id = some (.load query loadMore))
    (resting : session.loop.standing? id = some .resting) (waited : Bool) :
    Tracked (session.jobTurn id (.debounce query loadMore waited)).loop
      (session.jobTurn id (.debounce query loadMore waited)).service := by
  unfold jobTurn
  dsimp only
  split
  · have slept := session.loop.continues_sleep id session.service.fetchDelay
    exact tracked.quiet (slept.setJob aims).quiet
  · have loaded := tracked_loadPage tracked query loadMore
    refine loaded.finish .done fun entry _ _ fetching => ?_
    rw [standing?_loadPage query loadMore resting] at fetching
    cases fetching

/-- A turn of a request: it waits on, or it takes in its answer and ends. -/
theorem tracked_requestTurn {id : TaskId} {asked : PageRequest}
    (tracked : Tracked session.loop session.service) (aims : session.loop.purpose? id = some (.fetch asked))
    (fetching : session.loop.standing? id = some (.fetching asked.query.key)) (stage : FetchStage) :
    Tracked (session.jobTurn id (.request asked stage)).loop
      (session.jobTurn id (.request asked stage)).service := by
  have fetched := session.onward_fetchTurn id session.service.apiUrl (some asked) stage
  unfold jobTurn
  dsimp only
  split
  · rename_i next after turned
    rw [turned] at fetched
    rw [setJob_service, fetched.service]
    exact tracked.quiet (fetched.loop.setJob aims).quiet
  · rename_i url answer after turned
    rw [turned] at fetched
    have quiet := fetched.loop.quiet
    have settles := after.settles_takePage asked url answer
    have taken : Tracked after.loop (after.takePage asked url answer).service := by
      refine Tracked.settle ?_ settles
      rw [fetched.service]
      exact tracked.quiet quiet
    rw [← after.takePage_loop asked url answer] at taken
    refine taken.finish .done fun entry inside marked other => ?_
    rw [takePage_loop, quiet.standing, fetching, Option.some.injEq, Standing.fetching.injEq] at other
    exact (settles.loading entry inside marked).2 other.symm

theorem tracked_taskTurn (tracked : Tracked session.loop session.service) (id : TaskId) :
    Tracked (session.taskTurn id).loop (session.taskTurn id).service := by
  rcases session.taskTurn_cases id with ⟨_, same⟩ | ⟨task, live, turn⟩
  · rw [same]
    exact tracked
  obtain ⟨found, unended⟩ := Loop.live?_eq_some_iff.mp live
  have standing : session.loop.standing? id = some task.standing := by rw [Loop.standing?, found]; rfl
  have aims : session.loop.purpose? id = some task.job.aim := by rw [Loop.purpose?, found]; rfl
  rcases task.standing_cases with ⟨_, ended⟩ | ⟨resting, query, loadMore, waited, job⟩ |
    ⟨_, kept, asked, stage, fetching, job⟩ | foreign
  · rw [unended] at ended
    cases ended
  · rw [resting] at standing
    rcases turn with ⟨_, ends⟩ | ⟨_, works⟩
    · rw [ends]
      refine tracked.finish .cancelled fun entry _ _ fetching => ?_
      rw [standing] at fetching
      cases fetching
    · rw [job] at aims works
      rw [works]
      exact tracked_debounceTurn tracked aims standing waited
  · rw [fetching] at standing
    rw [job] at aims
    rw [taskTurn_of_live? live kept, job]
    exact tracked_requestTurn tracked aims standing stage
  · rw [foreign] at standing
    exact absurd standing (tracked.native id)

theorem tracked_after (tracked : Tracked session.loop session.service) (event : ValueEvent) :
    Tracked (session.after event).loop (session.after event).service := by
  cases event with
  | options query loadMore => exact tracked_valueOptions tracked query loadMore
  | schedule query loadMore => exact tracked_scheduleLoad tracked query loadMore
  | cancelPending => exact tracked_cancelPending tracked
  | load query loadMore => exact tracked_loadPage tracked query loadMore
  | deliver key page =>
    show Tracked (session.applyPage key page).2.loop (session.applyPage key page).2.service
    rw [applyPage_loop, applyPage_service]
    exact tracked.settle (ValueService.settles_applyPage _ _ _)
  | respond call reply =>
    show Tracked (session.respond call reply).2.loop (session.respond call reply).2.service
    have sent := session.onward_respond call reply
    rw [sent.service]
    exact tracked.quiet sent.loop.quiet
  | round time => exact tracked.quiet ((session.loop.continues_passTo time).trans (Loop.continues_startRound _)).quiet
  | turn index =>
    unfold after
    dsimp only
    cases found : session.loop.ready[index]? with
    | none => exact tracked
    | some next =>
      have taken : Tracked (session.taking index).loop (session.taking index).service :=
        tracked.quiet ⟨rfl, fun _ => rfl, fun _ inside => List.mem_of_mem_eraseIdx inside⟩
      cases next with
      | run id => exact tracked_taskTurn taken id
      | elapse id => exact taken.quiet (Loop.continues_elapse _ id).quiet
      | count id => exact taken.quiet (Loop.continues_countDown _ id).quiet
      | strike id => exact taken.strike (tracked.struck id (List.mem_of_getElem? found))

theorem tracked_foldl (tracked : Tracked session.loop session.service) (events : List ValueEvent) :
    Tracked (events.foldl after session).loop (events.foldl after session).service := by
  induction events generalizing session with
  | nil => exact tracked
  | cons event events ih => exact ih (tracked_after tracked event)

/-- In every state of every run a key has at most one unfinished request, the one on record under the
key, and every entry that is marked as being loaded has one. -/
theorem one_request_per_key {start : Session} (fresh : start.Fresh) (events : List ValueEvent) :
    (∀ id key, (events.foldl after start).loop.requestKey? id = some key →
      (events.foldl after start).service.inFlight.lookup key = some id ∧
        ∀ other, (events.foldl after start).loop.requestKey? other = some key → other = id) ∧
      ∀ key entry, (key, entry) ∈ (events.foldl after start).service.cache.entries →
        entry.loading = true → ∃ id, (events.foldl after start).loop.requestKey? id = some key := by
  have tracked := tracked_foldl fresh.tracked events
  have recorded : ∀ {id key}, (events.foldl after start).loop.requestKey? id = some key →
      (events.foldl after start).service.inFlight.lookup key = some id := fun {id key} unfinished =>
    tracked.recorded id key ((Loop.requestKey?_eq_some_iff (tracked.native id)).mp unfinished)
  constructor
  · intro id key unfinished
    refine ⟨recorded unfinished, fun other another => ?_⟩
    exact Option.some.inj ((recorded another).symm.trans (recorded unfinished))
  · intro key entry inside marked
    obtain ⟨id, fetching⟩ := tracked.loading (key, entry) inside marked
    exact ⟨id, (Loop.requestKey?_eq_some_iff (tracked.native id)).mpr fetching⟩

/-- A request that failed is followed by the next one for its key before it is struck off, while the
request of a forgotten entry is still under way. -/
theorem one_request_per_key_before_striking :
    let books : ValueQuery := ⟨"core.book".toList, "name".toList, []⟩
    let users : ValueQuery := ⟨"auth.user".toList, "name".toList, []⟩
    let start : Session := { service := { apiUrl := some "/values", cache := ⟨1, []⟩, fetchDelay := .zero } }
    let events : List ValueEvent := [.schedule books false, .turn 0, .load users false, .turn 0, .turn 0,
      .load books false, .respond 0 { answer := .refused "down" }, .turn 0, .load books false]
    start.Fresh ∧ Turn.strike 1 ∈ (events.foldl after start).loop.ready ∧
      (events.foldl after start).loop.requestKey? 2 = some users.key ∧
      (events.foldl after start).service.inFlight.lookup books.key = some 3 ∧
      (books.key, { loading := true }) ∈ (events.foldl after start).service.cache.entries ∧
      ∃ id, (events.foldl after start).loop.requestKey? id = some books.key := by
  intro books users start events
  have fresh : start.Fresh := ⟨rfl, rfl, rfl, rfl, rfl⟩
  have struck : Turn.strike 1 ∈ (events.foldl after start).loop.ready := by decide +kernel
  have other : (events.foldl after start).loop.requestKey? 2 = some users.key := by decide +kernel
  have sent : (events.foldl after start).loop.requestKey? 3 = some books.key := by decide +kernel
  have marked : (books.key, { loading := true }) ∈ (events.foldl after start).service.cache.entries := by
    decide +kernel
  obtain ⟨recorded, loading⟩ := one_request_per_key fresh events
  exact ⟨fresh, struck, other, (recorded 3 books.key sent).1, marked, loading books.key _ marked rfl⟩

end Session

end QueryCompletion
