import QueryCompletion.Proofs.Session.Fetching

/-!
Asking for more, round after round. In each round the next page, if there is one, is waited for, asked for and
merged, and every round ends by itself.
-/

namespace QueryCompletion.Session

variable {session : Session} {query : ValueQuery} {earlier : List Call} {url : Option String}
  {held rest : List (List Text)}

section Runs

variable {waiter : TaskId} {vigil : Vigil} {load : Load}

theorem Closer.mono {bound limit : Nat} (closer : Closer query earlier url held rest waiter bound session)
    (below : bound ≤ limit) : Closer query earlier url held rest waiter limit session := by
  obtain ⟨vigil, load, underway, less⟩ := closer
  exact ⟨vigil, load, underway, Nat.lt_of_lt_of_le less below⟩

/-- Running turns leads no further from the end. -/
theorem Underway.run (underway : Underway query earlier url held rest waiter vigil load session) (fuel : Nat) :
    Closer query earlier url held rest waiter (roundWeight vigil load + 1) (run fuel session) := by
  induction fuel generalizing session vigil load with
  | zero => exact ⟨vigil, load, underway, Nat.lt_succ_self _⟩
  | succ fuel ih =>
    unfold Session.run step?
    cases first : session.loop.ready with
    | nil => exact ⟨vigil, load, underway, Nat.lt_succ_self _⟩
    | cons next others =>
      obtain ⟨_, _, later, less⟩ := underway.turn first
      exact (ih later).mono (Nat.succ_le_succ (Nat.le_of_lt less))

/-- Running at least one turn leads closer to the end. -/
theorem Underway.run_of_ready (underway : Underway query earlier url held rest waiter vigil load session)
    (some : session.loop.ready ≠ []) {fuel : Nat} (positive : 0 < fuel) :
    Closer query earlier url held rest waiter (roundWeight vigil load) (Session.run fuel session) := by
  obtain ⟨fuel, rfl⟩ := Nat.exists_eq_succ_of_ne_zero (Nat.ne_of_gt positive)
  obtain ⟨next, others, first⟩ := List.exists_cons_of_ne_nil some
  unfold Session.run step?
  rw [first]
  obtain ⟨_, _, later, less⟩ := underway.turn first
  exact (later.run fuel).mono less

/-- At the start of a round nothing changes, or the working task is woken. -/
theorem Underway.startRound (underway : Underway query earlier url held rest waiter vigil load session) :
    session.loop.startRound = session.loop ∧
        (∀ timer ∈ session.loop.timers, ¬ timer.due < Instant.after session.loop.now Instant.resolution) ∨
      ∃ id stage due, load = .loading id stage (.timed due) ∧
        due < Instant.after session.loop.now Instant.resolution ∧
        Underway query earlier url held rest waiter vigil (.loading id stage .rung)
          (session.withLoop session.loop.startRound) := by
  refine underway.attended.startRound_cases.imp_right ?_
  rintro ⟨worker, due, working, timed, late, started⟩
  cases load with
  | finished struck => cases working
  | loading id stage readiness =>
    cases working
    cases timed
    refine ⟨id, stage, due, rfl, late, started.perm ?_, (underway.fetching.moved .rung).withLoop (.refl _)⟩
    exact List.perm_append_comm

/-- A round in which something is ready leads closer to the end. -/
theorem Underway.round (underway : Underway query earlier url held rest waiter vigil load session)
    (some : session.loop.ready ≠ []) :
    Closer query earlier url held rest waiter (roundWeight vigil load) session.round := by
  have longer : session.loop.startRound.ready ≠ [] := fun none => some (List.append_eq_nil_iff.mp none).1
  have positive := List.length_pos_iff.mpr longer
  rcases underway.startRound with ⟨same, _⟩ | ⟨id, stage, due, rfl, _, started⟩
  · have started : Underway query earlier url held rest waiter vigil load
        (session.withLoop session.loop.startRound) := by
      rw [same]
      exact underway
    exact started.run_of_ready longer positive
  · exact (started.run_of_ready longer positive).mono (Nat.le_of_lt (roundWeight_rung_lt vigil id stage due))

/-- Where nothing is ready, the round has ended or the working task sleeps. -/
theorem Underway.of_ready_nil (underway : Underway query earlier url held rest waiter vigil load session)
    (unready : session.loop.ready = []) :
    vigil = .ended ∧ load = .finished none ∨
      vigil = .watching ∧ ∃ id stage due, load = .loading id stage (.timed due) := by
  obtain ⟨attended, _⟩ := underway
  have noTurns := attended.ready
  rw [unready, List.nil_perm, List.append_eq_nil_iff] at noTurns
  obtain ⟨working, waiting⟩ := noTurns
  cases vigil with
  | ready => cases waiting
  | counting => cases waiting
  | watching =>
    cases load with
    | finished struck => cases attended.watched rfl
    | loading id stage readiness =>
      cases readiness with
      | ready => cases working
      | rung => cases working
      | timed due => exact Or.inr ⟨rfl, id, stage, due, rfl⟩
  | ended =>
    cases load with
    | loading id stage readiness => cases (attended.finished rfl).2
    | finished struck =>
      cases struck with
      | none => exact Or.inl ⟨rfl, rfl⟩
      | some id => cases working

theorem Underway.ready_nil_of_weight (underway : Underway query earlier url held rest waiter vigil load session)
    (ended : roundWeight vigil load = 0) : session.loop.ready = [] := by
  obtain ⟨working, waiting⟩ := Nat.add_eq_zero_iff.mp ended
  have unwaited : vigil.turns waiter = [] := by
    cases vigil <;> first | rfl | cases waiting
  have unworked : load.turns = [] := by
    cases load with
    | loading id stage readiness =>
      have positive := stage.weight_pos
      have none : 4 * (stage.weight + readiness.weight) = 0 := working
      omega
    | finished struck =>
      cases struck with
      | none => rfl
      | some id => cases working
  have ready := underway.attended.ready
  rwa [unworked, unwaited, List.nil_append, List.perm_nil] at ready

/-- Until nothing is ready any more. -/
theorem Underway.settleWithin {fuel : Nat}
    (underway : Underway query earlier url held rest waiter vigil load session)
    (enough : roundWeight vigil load ≤ fuel) :
    Closer query earlier url held rest waiter (roundWeight vigil load + 1) (settleWithin fuel session) ∧
      (Session.settleWithin fuel session).loop.ready = [] := by
  induction fuel generalizing session vigil load with
  | zero =>
    exact ⟨⟨vigil, load, underway, Nat.lt_succ_self _⟩, underway.ready_nil_of_weight (Nat.le_zero.mp enough)⟩
  | succ fuel ih =>
    unfold Session.settleWithin
    split
    · rename_i none
      exact ⟨⟨vigil, load, underway, Nat.lt_succ_self _⟩, List.isEmpty_iff.mp none⟩
    · rename_i some
      obtain ⟨_, _, later, less⟩ := underway.round (fun none => some (List.isEmpty_iff.mpr none))
      obtain ⟨closer, none⟩ := ih later (Nat.le_of_lt_succ (Nat.lt_of_lt_of_le less enough))
      exact ⟨closer.mono (Nat.succ_le_succ (Nat.le_of_lt less)), none⟩

theorem Underway.potential_ge (underway : Underway query earlier url held rest waiter vigil load session) :
    100 ≤ session.potential := by
  have started : 0 < session.loop.tasks.length := Nat.zero_lt_of_lt underway.attended.waiter_lt
  unfold potential
  dsimp only
  generalize turns : 2 * session.loop.tasks.length + session.loop.ready.length + 1 = bound
  have room : 3 ≤ bound := by omega
  have squared := Nat.mul_le_mul room room
  rw [Nat.mul_assoc]
  omega

theorem Underway.settle (underway : Underway query earlier url held rest waiter vigil load session) :
    Closer query earlier url held rest waiter (roundWeight vigil load + 1) session.settle ∧
      session.settle.loop.ready = [] :=
  underway.settleWithin (by have := roundWeight_le vigil load; have := underway.potential_ge; omega)

theorem settle_of_ready_nil (unready : session.loop.ready = []) : session.settle = session := by
  unfold Session.settle
  cases session.potential with
  | zero => rfl
  | succ fuel => rw [Session.settleWithin, unready]; rfl

theorem Underway.passTo (underway : Underway query earlier url held rest waiter vigil load session)
    (time : Instant) :
    Underway query earlier url held rest waiter vigil load (session.withLoop (session.loop.passTo time)) :=
  ⟨underway.attended.passTo time, underway.fetching.withLoop (.refl _)⟩

/-- The working task is woken by its timer. -/
theorem Underway.wakeAt {id : TaskId} {stage : Stage} {due : Instant}
    (underway : Underway query earlier url held rest waiter vigil (.loading id stage (.timed due)) session)
    (late : due < Instant.after (session.loop.passTo due).now Instant.resolution) :
    Closer query earlier url held rest waiter (roundWeight vigil (.loading id stage (.timed due)))
      (session.wakeAt due) := by
  have single : (session.loop.passTo due).timers = [⟨due, id⟩] := underway.attended.timers
  rcases (underway.passTo due).startRound with ⟨_, early⟩ | ⟨id, stage, due, same, _, started⟩
  · exact absurd late (early ⟨due, id⟩ (by simp [withLoop, single]))
  · cases same
    obtain ⟨_, _, later, less⟩ := started.run _
    exact ⟨_, _, later, Nat.lt_of_lt_of_le less (roundWeight_rung_lt vigil id stage due)⟩

/-- The clock is moved on, but it is not fine enough to tell that the time of the timer has come. -/
theorem Underway.wakeAt_of_stuck {id : TaskId} {stage : Stage} {due : Instant}
    (underway : Underway query earlier url held rest waiter vigil (.loading id stage (.timed due)) session)
    (unready : session.loop.ready = [])
    (stuck : ¬ due < Instant.after (session.loop.passTo due).now Instant.resolution) :
    session.wakeAt due = session.withLoop (session.loop.passTo due) := by
  rcases (underway.passTo due).startRound with ⟨same, _⟩ | ⟨id, stage, due, same, late, _⟩
  · unfold Session.wakeAt Session.round
    dsimp only
    rw [same]
    show Session.run session.loop.ready.length _ = _
    rw [unready]
    rfl
  · cases same
    exact absurd late stuck

/-- A clock that cannot tell that the time of a timer has come stays where it is. -/
theorem Underway.runUntil_stuck {id : TaskId} {stage : Stage} {due : Instant}
    (underway : Underway query earlier url held rest waiter .watching (.loading id stage (.timed due)) session)
    (unready : session.loop.ready = []) (past : due ≤ session.loop.now)
    (stuck : ¬ due < Instant.after session.loop.now Instant.resolution) (fuel : Nat) :
    Session.runUntil waiter fuel session = session := by
  have here : session.loop.passTo due = session.loop := by
    unfold Loop.passTo
    rw [Nat.max_eq_left past]
  have unmoved : session.wakeAt due = session := by
    rw [underway.wakeAt_of_stuck unready (by rwa [here]), here]
    rfl
  induction fuel with
  | zero => rfl
  | succ fuel ih =>
    have live := Loop.isLive_of_live? (underway.attended.waiting nofun)
    unfold Session.runUntil
    dsimp only
    rw [settle_of_ready_nil unready, if_pos live, underway.attended.nextTimer?_of_timed rfl]
    dsimp only
    rw [unmoved, ih]

/-- A round ends as long as the clock tells times apart. -/
theorem Underway.runUntil {fuel : Nat} (underway : Underway query earlier url held rest waiter vigil load session)
    (enough : roundWeight vigil load < fuel) (ticks : (Session.runUntil waiter fuel session).loop.ticks) :
    Underway query earlier url held rest waiter .ended (.finished none) (Session.runUntil waiter fuel session) ∧
      (Session.runUntil waiter fuel session).loop.ready = [] := by
  induction fuel generalizing session vigil load with
  | zero => exact absurd enough (Nat.not_lt_zero _)
  | succ fuel ih =>
    obtain ⟨⟨vigil, load, settled, less⟩, unready⟩ := underway.settle
    unfold Session.runUntil at ticks ⊢
    dsimp only at ticks ⊢
    rcases settled.of_ready_nil unready with ⟨rfl, rfl⟩ | ⟨rfl, id, stage, due, rfl⟩
    · have ended := Loop.isLive_of_outcome? (settled.attended.finished rfl).1
      rw [if_neg (by rw [ended]; exact Bool.false_ne_true)]
      exact ⟨settled, unready⟩
    · have live := Loop.isLive_of_live? (settled.attended.waiting nofun)
      rw [if_pos live, settled.attended.nextTimer?_of_timed rfl] at ticks ⊢
      dsimp only at ticks ⊢
      -- Where the clock cannot tell that the time of the timer has come, it stays there for good.
      by_cases late : due < Instant.after (session.settle.loop.passTo due).now Instant.resolution
      · obtain ⟨_, _, later, closer⟩ := settled.wakeAt late
        exact ih later (by omega) ticks
      · rw [settled.wakeAt_of_stuck unready late,
          (settled.passTo due).runUntil_stuck unready (Nat.le_max_right _ _) late] at ticks
        exact absurd (Nat.lt_of_le_of_lt (Nat.le_max_right _ _) ticks) late

end Runs

/-- Nothing is ready, no timer is set, and no fetch waits or is in flight. -/
structure Resting (session : Session) : Prop where
  running : session.loop.running = true
  ready : session.loop.ready = []
  timers : session.loop.timers = []
  unpending : session.Unpending
  inFlight : session.service.inFlight = []

/-- More values are asked for, and the end of all fetches is waited for. -/
def moreRound (query : ValueQuery) (session : Session) : Option Outcome × Session :=
  (session.valueOptions query true).2.complete .idle

/-- The session after so many rounds. -/
def afterRounds (query : ValueQuery) : Nat → Session → Session
  | 0, session => session
  | count + 1, session => ((afterRounds query count session).moreRound query).2

/-- Some pages are held, the rest is still served, and nothing is under way. -/
structure Gathered (query : ValueQuery) (earlier : List Call) (url : Option String) (held rest : List (List Text))
    (session : Session) : Prop where
  resting : session.Resting
  holds : session.service.cache.Holds query.key (.gathered held !rest.isEmpty)
  asked : Asked query earlier url held.length rest session

/-- There is nothing to cancel. -/
theorem cancelPending_of_unpending (unpending : session.Unpending) :
    session.cancelPending = { session with service := { session.service with pending := none } } := by
  unfold cancelPending
  cases waits : session.service.pending with
  | none => rfl
  | some id =>
    obtain ⟨outcome, ended⟩ := unpending id waits
    rw [Option.elim_some, Loop.cancel_of_outcome? ended]

/-- Values that are asked for change nothing but the task that waits to fetch them. -/
theorem valueOptions_keeps (session : Session) (query : ValueQuery) :
    (session.valueOptions query true).2.client = session.client ∧
      (session.valueOptions query true).2.journal.calls = session.journal.calls ∧
      (session.valueOptions query true).2.service.apiUrl = session.service.apiUrl ∧
      (session.valueOptions query true).2.service.inFlight = session.service.inFlight ∧
      (session.valueOptions query true).2.service.cache = session.service.cache.touch query.key := by
  unfold valueOptions scheduleLoad
  dsimp only
  split
  · split <;> exact ⟨rfl, rfl, rfl, rfl, rfl⟩
  · exact ⟨rfl, rfl, rfl, rfl, rfl⟩

/-- What is wanted is waited for by a task of its own. -/
theorem valueOptions_of_wants (resting : session.Resting)
    (wants : (session.service.cache.known query.key).wantsLoad true = true) :
    (session.valueOptions query true).2.loop = (session.loop.spawn (.debounce query true false) []).2 ∧
      (session.valueOptions query true).2.service.pending = some session.loop.tasks.length := by
  have cleared := @cancelPending_of_unpending { session with service := (session.service.lookUp query.key).2 }
    resting.unpending
  unfold valueOptions scheduleLoad
  dsimp only
  rw [if_pos (show (session.service.lookUp query.key).1.wantsLoad true = true from wants), if_pos resting.running,
    cleared]
  exact ⟨rfl, rfl⟩

theorem valueOptions_of_not_wants (settled : (session.service.cache.known query.key).wantsLoad true = false) :
    (session.valueOptions query true).2.loop = session.loop ∧
      (session.valueOptions query true).2.service.pending = session.service.pending := by
  unfold valueOptions
  dsimp only
  rw [if_neg (show ¬ (session.service.lookUp query.key).1.wantsLoad true = true from Bool.eq_false_iff.mp settled)]
  exact ⟨rfl, rfl⟩

/-- The call of the host begins a round. -/
theorem Gathered.begin (gathered : Gathered query earlier url held rest session) (served : held = [] → rest ≠ []) :
    ∃ load, Underway query earlier url held rest (session.valueOptions query true).2.loop.tasks.length .ready load
      ((session.valueOptions query true).2.withLoop
        ((session.valueOptions query true).2.loop.spawn .idle []).2) := by
  obtain ⟨resting, holds, asked⟩ := gathered
  have wants : (session.service.cache.known query.key).wantsLoad true = !rest.isEmpty := by
    rw [holds.known]
    exact ValueEntry.wantsLoad_gathered held _ fun none => by simpa using served none
  obtain ⟨client, calls, apiUrl, inFlight, cache⟩ := session.valueOptions_keeps query
  cases rest with
  | nil =>
    obtain ⟨loop, pending⟩ := valueOptions_of_not_wants wants
    generalize (session.valueOptions query true).2 = called at *
    rw [loop]
    refine ⟨.finished none, .begin resting.running resting.timers (.of_eq resting.ready), .finished ?_ ?_ nofun ?_ ?_⟩
    · exact resting.unpending.keep pending (Loop.remembers_spawn _ _ _)
    · exact inFlight.trans resting.inFlight
    · rw [List.take_nil, List.append_nil]
      show called.service.cache.Holds _ _
      rw [cache]
      exact holds.touch
    · rw [List.take_nil, List.append_nil]
      exact asked.congr client calls apiUrl
  | cons items more =>
    obtain ⟨loop, pending⟩ := valueOptions_of_wants resting wants
    generalize (session.valueOptions query true).2 = called at *
    have live : called.loop.live? session.loop.tasks.length = some { job := .debounce query true false } := by
      rw [loop]
      exact session.loop.live?_spawn_self _ _
    have ready : called.loop.ready = [.run session.loop.tasks.length] := by
      rw [loop]
      exact congrArg (· ++ [Turn.run session.loop.tasks.length]) resting.ready
    have running : called.loop.running = true := by
      rw [loop]
      exact resting.running
    have timers : called.loop.timers = [] := by
      rw [loop]
      exact resting.timers
    refine ⟨.loading session.loop.tasks.length (.pausing false) .ready,
      (Attended.begin running timers (.of_eq ready)).adopt nofun rfl (Nat.ne_of_lt (Loop.lt_length_of_live? live))
        (Loop.live?_spawn _ _ live), .pausing pending (inFlight.trans resting.inFlight) ?_
      (asked.congr client calls apiUrl)⟩
    show called.service.cache.Holds _ _
    rw [cache]
    exact holds.touch

/-- A round adds the next page, if there is one. -/
theorem Gathered.moreRound (gathered : Gathered query earlier url held rest session) (served : held = [] → rest ≠ [])
    (ticks : (session.moreRound query).2.loop.ticks) :
    (session.moreRound query).1 = some .done ∧
      Gathered query earlier url (held ++ rest.take 1) (rest.drop 1) (session.moreRound query).2 := by
  obtain ⟨load, begun⟩ := gathered.begin served
  have enough := Nat.lt_of_le_of_lt (roundWeight_le .ready load)
    (Nat.lt_of_lt_of_le (by decide : 50 < 100) begun.potential_ge)
  obtain ⟨⟨attended, fetching⟩, unready⟩ := begun.runUntil enough ticks
  cases fetching with
  | finished unpending flying _ holds asked =>
    exact ⟨(attended.finished rfl).1, ⟨⟨attended.running, unready, attended.timers, unpending, flying⟩, holds, asked⟩⟩

/-- What is known after any number of rounds. -/
theorem gathered_afterRounds {start : Session} {pages : List (List Text)} (served : pages ≠ [])
    (gathered : Gathered query earlier url [] pages start) (rounds : Nat)
    (ticks : ∀ round < rounds, (afterRounds query (round + 1) start).loop.ticks) :
    Gathered query earlier url (pages.take rounds) (pages.drop rounds) (afterRounds query rounds start) := by
  induction rounds with
  | zero => exact gathered
  | succ rounds ih =>
    have before := ih fun round earlier => ticks round (Nat.lt_succ_of_lt earlier)
    have after := (before.moreRound ?_ (ticks rounds (Nat.lt_succ_self _))).2
    · rwa [List.drop_drop, ← List.take_add] at after
    · intro none rest
      exact served (by rw [← List.take_append_drop rounds pages, none, rest, List.nil_append])

/-- A list of values that is served page by page comes whole and once. After any number of rounds, in each of
which more is asked for and the end of the fetches is waited for, the values of as many pages are known, each of
these pages was asked for once and in order, and none is being loaded. Every round ends, as long as the clock
tells times apart. -/
theorem rounds_gather_pages {start : Session} (resting : start.Resting) (api : start.service.hasApi = true)
    (empty : start.service.cache.entries = []) (room : 0 < start.service.cache.capacity) {query : ValueQuery}
    {pages : List (List Text)} (served : pages ≠ []) (serves : Serves query pages 1 start) (rounds : Nat)
    (ticks : ∀ round < rounds, (afterRounds query (round + 1) start).loop.ticks) :
    (∀ round < rounds, ((afterRounds query round start).moreRound query).1 = some .done) ∧
      ((afterRounds query rounds start).service.cache.known query.key).items = (pages.take rounds).flatten ∧
      (afterRounds query rounds start).journal.calls =
        start.journal.calls ++ requests query start.service.apiUrl (min rounds pages.length) ∧
      ∀ entry ∈ (afterRounds query rounds start).service.cache.entries, entry.2.loading = false := by
  have gathered : Gathered query start.journal.calls start.service.apiUrl [] pages start :=
    ⟨resting, ⟨room, Or.inl ⟨empty, rfl⟩⟩, api, rfl, (List.append_nil _).symm, serves⟩
  obtain ⟨_, holds, asked⟩ := gathered_afterRounds served gathered rounds ticks
  refine ⟨fun round earlier => ?_, ?_, ?_, fun entry inside => ?_⟩
  · have before := gathered_afterRounds served gathered round fun past less => ticks past (Nat.lt_trans less earlier)
    refine (before.moreRound (fun none rest => served ?_) (ticks round earlier)).1
    rw [← List.take_append_drop round pages, none, rest, List.nil_append]
  · rw [holds.known, ValueEntry.items_gathered]
  · rw [asked.calls, List.length_take]
  · rcases holds.entries with ⟨none, _⟩ | single
    · rw [none] at inside
      cases inside
    · rw [single, List.mem_singleton] at inside
      rw [inside]
      exact ValueEntry.loading_gathered _ _

/-- Two pages of titles come in three rounds: each is put off while typing goes on and takes a while to come,
and the third round asks for nothing more. -/
theorem rounds_gather_pages_of_titles :
    let page (items : List Json) (number : Int) (hasNext : Bool) : Option Reply :=
      some ⟨.document (.obj [("items", .arr items), ("page", .int number), ("has_next", .bool hasNext)]),
        .ofDecimal false 1 (-1)⟩
    let books : ValueQuery := ⟨"core.book".toList, "name".toList, []⟩
    let start : Session :=
      { service := { apiUrl := some "/values", cache := ⟨2, []⟩, fetchDelay := .ofDecimal false 3 (-1) }
        client := .scripted [page [.str "Emma", .str "Persuasion"] 1 true, page [.str "Ulysses"] 2 false] }
    ((afterRounds books 3 start).service.cache.known books.key).items =
        ["Emma".toList, "Persuasion".toList, "Ulysses".toList] ∧
      (afterRounds books 3 start).journal.calls = requests books (some "/values") 2 := by
  intro page books start
  have serves : Serves books [["Emma".toList, "Persuasion".toList], ["Ulysses".toList]] 1 start :=
    ⟨⟨_, rfl, by decide +kernel⟩, ⟨_, rfl, by decide +kernel⟩, trivial⟩
  have early : ∀ round < 3, (afterRounds books (round + 1) start).loop.now < twoTo 23 * Binary64.unit := by
    decide +kernel
  obtain ⟨_, items, calls, _⟩ := @rounds_gather_pages start ⟨rfl, rfl, rfl, nofun, rfl⟩ rfl rfl (by decide) books _
    (by decide) serves 3 fun round before => Loop.ticks_of_early (early round before)
  exact ⟨items, calls⟩

end QueryCompletion.Session
