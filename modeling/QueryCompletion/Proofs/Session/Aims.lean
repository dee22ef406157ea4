import QueryCompletion.Proofs.Session.Requests
import QueryCompletion.Proofs.Values.Eviction

/-!
What the tasks of a session are for, and what each event does to them. Between two calls of the host a
fetch that waits either finds nothing to send or sends a request, and a request takes in its answer and
ends; all else leaves the aims of the tasks as they are.
-/

namespace QueryCompletion

/-- The aim of a task that has neither ended nor been cancelled. -/
def Task.aim? (task : Task Job) : Option Aim :=
  if task.outcome.isSome || task.cancelled then none else some task.job.aim

namespace Loop

variable {loop before after : Loop Job} {id : TaskId}

def aim? (loop : Loop Job) (id : TaskId) : Option Aim := loop.tasks[id]?.bind Task.aim?

/-- A task with an aim goes on with it. -/
theorem exists_of_aim? {aim : Aim} (aims : loop.aim? id = some aim) :
    ∃ task, loop.tasks[id]? = some task ∧ task.outcome = none ∧ task.job.aim = aim := by
  rw [aim?, Option.bind_eq_some_iff] at aims
  obtain ⟨task, found, aims⟩ := aims
  unfold Task.aim? at aims
  split at aims
  · cases aims
  · rename_i goes
    rw [Bool.or_eq_true, not_or, Option.not_isSome_iff_eq_none] at goes
    exact ⟨task, found, goes.1, Option.some.inj aims⟩

theorem isLive_of_aim? {aim : Aim} (aims : loop.aim? id = some aim) : loop.isLive id = true := by
  obtain ⟨task, found, unended, _⟩ := exists_of_aim? aims
  rw [isLive, found]
  exact Option.isNone_iff_eq_none.mpr unended

theorem purpose?_of_aim? {aim : Aim} (aims : loop.aim? id = some aim) : loop.purpose? id = some aim := by
  obtain ⟨task, found, _, aims⟩ := exists_of_aim? aims
  rw [purpose?, found, Option.map_some, aims]

/-- A request is under way under a key exactly if some task fetches a page for it. -/
theorem standing?_eq_fetching_iff {key : Text} :
    loop.standing? id = some (.fetching key) ↔
      ∃ asked, loop.aim? id = some (.fetch asked) ∧ asked.query.key = key := by
  rw [standing?, aim?]
  cases loop.tasks[id]? with
  | none => simp
  | some task =>
    obtain ⟨job, wait, cancelled, watchers, outcome⟩ := task
    cases outcome <;> cases cancelled <;> cases job <;> simp [Task.standing, Task.aim?, Job.aim]

theorem aim?_modifyTask (loop : Loop Job) (id other : TaskId) (change : Task Job → Task Job) :
    (loop.modifyTask id change).aim? other =
      loop.tasks[other]?.bind fun task => (if id = other then change task else task).aim? := by
  show Option.bind (loop.tasks.modify id change)[other]? _ = _
  rw [List.getElem?_modify]
  cases loop.tasks[other]? <;> rfl

theorem Continues.aim? (continues : Continues before after) : after.aim? = before.aim? := by
  refine funext (continues.bind fun first second same => ?_)
  rw [Task.gist, Task.gist, Gist.mk.injEq] at same
  obtain ⟨aims, cancelled, outcome⟩ := same
  rw [Task.aim?, Task.aim?, aims, cancelled, outcome]

/-- A change after which a task has no aim any more. -/
theorem aim?_modifyTask_of_ends {change : Task Job → Task Job} (ends : ∀ task, (change task).aim? = none)
    (other : TaskId) :
    (loop.modifyTask id change).aim? other = if other = id then none else loop.aim? other := by
  rw [aim?_modifyTask, aim?]
  cases loop.tasks[other]? with
  | none => exact (ite_self _).symm
  | some task =>
    by_cases same : other = id
    · rw [Option.bind_some, if_pos same, if_pos same.symm, ends]
    · rw [Option.bind_some, if_neg same, if_neg (Ne.symm same)]
      rfl

/-- A task without an aim may be passed over. -/
theorem aim?_of_none (aimless : loop.aim? id = none) (other : TaskId) :
    loop.aim? other = if other = id then none else loop.aim? other := by
  split
  · rename_i same
    rw [same, aimless]
  · rfl

theorem aim?_finish (loop : Loop Job) (id other : TaskId) (outcome : Outcome) :
    (loop.finish id outcome).aim? other = if other = id then none else loop.aim? other := by
  unfold finish
  split
  · exact aim?_modifyTask_of_ends (fun _ => rfl) other
  · rename_i absent
    exact aim?_of_none (by rw [aim?, absent]; rfl) other

theorem aim?_cancel (loop : Loop Job) (id other : TaskId) :
    (loop.cancel id).aim? other = if other = id then none else loop.aim? other := by
  have marked : (loop.modifyTask id fun task => { task with cancelled := true, wait := .turn }).aim? other =
      if other = id then none else loop.aim? other :=
    aim?_modifyTask_of_ends (fun task => by simp [Task.aim?]) other
  unfold cancel
  split
  · rename_i task found
    split
    · rename_i ended
      refine aim?_of_none ?_ other
      rw [aim?, found, Option.bind_some, Task.aim?, ended]
      rfl
    · dsimp only
      split
      · exact marked
      · exact marked
  · rename_i absent
    exact aim?_of_none (by rw [aim?, absent]; rfl) other

theorem aim?_spawn (loop : Loop Job) (job : Job) (watchers : List Watcher) (other : TaskId) :
    (loop.spawn job watchers).2.aim? other =
      if other = loop.tasks.length then some job.aim else loop.aim? other := by
  rw [aim?, getElem?_spawn]
  split <;> rfl

theorem lt_length_of_aim? {aim : Aim} (aims : loop.aim? id = some aim) : id < loop.tasks.length := by
  by_contra beyond
  rw [aim?, List.getElem?_eq_none (Nat.le_of_not_lt beyond)] at aims
  cases aims

end Loop

/-- The service after a request under a key was answered, with a page or without. -/
def ValueService.takeIn (service : ValueService) (key : Text) : Option ValuePage → ValueService
  | some page => (service.applyPage key page).2
  | none => service.clearLoading key

namespace Session

variable {session : Session} {id : TaskId}

/-- The answer that a turn of a task takes in, and what was asked for. -/
def answerTaken? (session : Session) (id : TaskId) : Option (PageRequest × Answer) :=
  match session.loop.tasks[id]? with
  | some task =>
    if task.outcome.isSome || task.cancelled then none
    else
      match task.job with
      | .request asked stage =>
        match (session.fetchTurn id session.service.apiUrl (some asked) stage).1 with
        | .answered _ answer => some (asked, answer)
        | .waits _ => none
      | _ => none
  | none => none

/-- The answer that an event brings, with the task that takes it in and what was asked for. -/
def answer? (session : Session) : ValueEvent → Option (TaskId × PageRequest × Answer)
  | .turn index =>
    match session.loop.ready[index]? with
    | some (.run id) => ((session.taking index).answerTaken? id).map fun taken => (id, taken.1, taken.2)
    | _ => none
  | _ => none

/-- What the host is told when a page comes in under a key. -/
def announced (session : Session) (key : Text) : Option ValuePage → List Update
  | some page =>
    if (session.service.applyPage key page).1 && session.listening then [.values key] else []
  | none => []

/-- What no event but a call of the host changes. -/
structure Steady (before after : Session) : Prop where
  pending : after.service.pending = before.service.pending
  apiUrl : after.service.apiUrl = before.service.apiUrl
  listening : after.listening = before.listening

theorem Frame.steady {before after : Session} (frame : before.Frame after)
    (pending : after.service.pending = before.service.pending) : before.Steady after :=
  ⟨pending, frame.apiUrl, frame.listening⟩

/-- What an event between two calls of the host does to the aims of the tasks, given the answer that it
brings. -/
inductive Effect (before after : Session) (answer : Option (TaskId × PageRequest × Answer)) : Prop
  /-- No task ends that had an aim, and none starts. -/
  | still : answer = none → after.loop.aim? = before.loop.aim? →
      after.journal.updates = before.journal.updates → Effect before after answer
  /-- A fetch that waited has nothing to send. -/
  | yields {id : TaskId} {query : ValueQuery} {loadMore : Bool} : answer = none →
      before.loop.aim? id = some (.load query loadMore) →
      (before.service.hasApi = true → before.inFlight query.key = true ∨
        (before.service.cache.known query.key).nextPage? loadMore = none) →
      (∀ other, after.loop.aim? other = if other = id then none else before.loop.aim? other) →
      after.journal.updates = before.journal.updates → Effect before after answer
  /-- A request is sent, by the host or by a fetch that waited. -/
  | sends {sender : Option TaskId} {asked : PageRequest} {loadMore : Bool} : answer = none →
      (∀ id, sender = some id → before.loop.aim? id = some (.load asked.query loadMore)) →
      (before.service.cache.known asked.query.key).nextPage? loadMore = some asked.page →
      (∀ other, after.loop.aim? other =
        if some other = sender then none
        else if other = before.loop.tasks.length then some (.fetch asked) else before.loop.aim? other) →
      after.service.cache = before.service.cache.set asked.query.key
        { before.service.cache.known asked.query.key with loading := true } →
      after.journal.updates = before.journal.updates → Effect before after answer
  /-- A request takes in its answer. -/
  | settles {id : TaskId} {asked : PageRequest} {taken : Answer} : answer = some (id, asked, taken) →
      before.loop.aim? id = some (.fetch asked) →
      (∀ other, after.loop.aim? other = if other = id then none else before.loop.aim? other) →
      after.service.cache = (before.service.takeIn asked.query.key taken.page?).cache →
      after.journal.updates = before.journal.updates ++ before.announced asked.query.key taken.page? →
      Effect before after answer

theorem applyPage_updates (session : Session) (key : Text) (page : ValuePage) :
    (session.applyPage key page).2.journal.updates =
      session.journal.updates ++ session.announced key (some page) := by
  unfold applyPage announced announce
  dsimp only
  cases merged : (session.service.applyPage key page).1 with
  | false => simp
  | true => cases heard : session.listening <;> simp

/-- What comes of an answer depends on the page that it brings. -/
theorem takePage_spec (session : Session) (asked : PageRequest) (url : Option String) (answer : Answer) :
    (session.takePage asked url answer).service = session.service.takeIn asked.query.key answer.page? ∧
      (session.takePage asked url answer).journal.updates =
        session.journal.updates ++ session.announced asked.query.key answer.page? := by
  rcases session.takePage_cases asked url answer with ⟨message, none, failed⟩ | ⟨page, brings, applied⟩
  · rw [none, failed]
    exact ⟨rfl, (List.append_nil _).symm⟩
  · rw [brings, applied]
    exact ⟨applyPage_service _ _ _, applyPage_updates _ _ _⟩

/-- What comes of the attempt to send a request. -/
theorem loadPage_cases (running : session.loop.running = true) (query : ValueQuery) (loadMore : Bool) :
    ((session.loadPage query loadMore).2.loop = session.loop ∧
        (session.service.hasApi = true → session.inFlight query.key = true ∨
          (session.service.cache.known query.key).nextPage? loadMore = none)) ∨
      ∃ page, (session.service.cache.known query.key).nextPage? loadMore = some page ∧
        (session.loadPage query loadMore).2.loop =
          (session.loop.spawn (.request ⟨query, page⟩ .unsent) [.strike]).2 ∧
        (session.loadPage query loadMore).2.service.cache = session.service.cache.set query.key
          { session.service.cache.known query.key with loading := true } := by
  unfold loadPage
  dsimp only
  split
  · rename_i refused
    refine Or.inl ⟨rfl, fun api => Or.inl ?_⟩
    simpa [api] using refused
  · split
    · rename_i nothing
      exact Or.inl ⟨rfl, fun _ => Or.inr nothing⟩
    · rename_i page next
      exact Or.inr ⟨page, next, rfl, Cache.set_touch _ _ _⟩

theorem loadPage_keeps (session : Session) (query : ValueQuery) (loadMore : Bool) :
    (session.loadPage query loadMore).2.service.pending = session.service.pending ∧
      (session.loadPage query loadMore).2.journal = session.journal := by
  unfold loadPage
  dsimp only
  split
  · exact ⟨rfl, rfl⟩
  · split
    · exact ⟨rfl, rfl⟩
    · split <;> exact ⟨rfl, rfl⟩

theorem loadPage_effect (running : session.loop.running = true) (query : ValueQuery) (loadMore : Bool) :
    session.Effect (session.loadPage query loadMore).2 none := by
  have updates := congrArg Journal.updates (session.loadPage_keeps query loadMore).2
  rcases loadPage_cases running query loadMore with ⟨loop, _⟩ | ⟨page, next, loop, cache⟩
  · exact .still rfl (by rw [loop]) updates
  · refine @Effect.sends _ _ _ none ⟨query, page⟩ _ rfl (fun _ nobody => nomatch nobody) next
      (fun other => ?_) cache updates
    rw [loop, Loop.aim?_spawn, if_neg (show ¬ some other = none from nofun)]
    rfl

/-- A turn of a fetch that waits for typing to pause. -/
theorem debounceTurn_effect (running : session.loop.running = true) {query : ValueQuery} {loadMore : Bool}
    (aims : session.loop.aim? id = some (.load query loadMore)) (waited : Bool) :
    session.Effect (session.jobTurn id (.debounce query loadMore waited)) none ∧
      session.Steady (session.jobTurn id (.debounce query loadMore waited)) := by
  unfold jobTurn
  dsimp only
  split
  · have slept := session.loop.continues_sleep id session.service.fetchDelay
    exact ⟨.still rfl (slept.setJob (Loop.purpose?_of_aim? aims)).aim? rfl, ⟨rfl, rfl, rfl⟩⟩
  · obtain ⟨pending, journal⟩ := session.loadPage_keeps query loadMore
    have updates := congrArg Journal.updates journal
    refine ⟨?_, ((session.frame_loadPage query loadMore).trans (frame_withLoop _ _)).steady pending⟩
    rcases loadPage_cases running query loadMore with ⟨loop, reason⟩ | ⟨page, next, loop, cache⟩
    · refine .yields rfl aims reason (fun other => ?_) updates
      rw [← loop]
      exact Loop.aim?_finish _ _ _ _
    · refine @Effect.sends _ _ _ (some id) ⟨query, page⟩ _ rfl (fun other same => ?_) next
        (fun other => ?_) cache updates
      · cases same
        exact aims
      · refine (Loop.aim?_finish _ _ _ _).trans ?_
        rw [loop, Loop.aim?_spawn]
        simp only [Option.some.injEq]
        rfl

/-- A turn of a request. -/
theorem requestTurn_effect {asked : PageRequest} (aims : session.loop.aim? id = some (.fetch asked))
    (stage : FetchStage) :
    session.Effect (session.jobTurn id (.request asked stage))
        (match (session.fetchTurn id session.service.apiUrl (some asked) stage).1 with
          | .answered _ answer => some (id, asked, answer)
          | .waits _ => none) ∧
      session.Steady (session.jobTurn id (.request asked stage)) := by
  have fetched := session.onward_fetchTurn id session.service.apiUrl (some asked) stage
  unfold jobTurn
  dsimp only
  split
  · rename_i next after turned
    rw [turned] at fetched ⊢
    refine ⟨.still rfl (fetched.loop.setJob (Loop.purpose?_of_aim? aims)).aim? fetched.updates, ?_⟩
    exact (fetched.toFrame.trans (after.frame_withLoop _)).steady (congrArg ValueService.pending fetched.service)
  · rename_i url answer after turned
    rw [turned] at fetched ⊢
    obtain ⟨service, told⟩ := after.takePage_spec asked url answer
    have settles := after.settles_takePage asked url answer
    rw [fetched.service] at service settles
    refine ⟨.settles rfl aims (fun other => ?_) ?_ ?_, ?_⟩
    · refine (Loop.aim?_finish _ _ _ _).trans ?_
      rw [takePage_loop, fetched.loop.aim?]
    · rw [finish_service, service]
    · refine told.trans ?_
      rw [fetched.updates]
      unfold announced
      rw [fetched.service, fetched.listening]
    · have taken := fetched.toFrame.trans (after.frame_takePage asked url answer)
      exact (taken.trans (frame_withLoop _ _)).steady settles.pending

theorem taskTurn_effect (running : session.loop.running = true)
    (native : session.loop.standing? id ≠ some .foreign) :
    session.Effect (session.taskTurn id)
        ((session.answerTaken? id).map fun taken => (id, taken.1, taken.2)) ∧
      session.Steady (session.taskTurn id) := by
  have still : session.Effect session none ∧ session.Steady session :=
    ⟨.still rfl rfl rfl, ⟨rfl, rfl, rfl⟩⟩
  unfold taskTurn answerTaken?
  cases found : session.loop.tasks[id]? with
  | none => exact still
  | some task =>
    have aim : session.loop.aim? id = task.aim? := by rw [Loop.aim?, found]; rfl
    dsimp only
    cases ended : task.outcome.isSome with
    | true => exact still
    | false =>
      cases cancelled : task.cancelled with
      | true =>
        -- A cancelled task had no aim any more.
        rw [Task.aim?, cancelled, Bool.or_true, if_pos rfl] at aim
        refine ⟨.still rfl (funext fun other => ?_) rfl, ⟨rfl, rfl, rfl⟩⟩
        exact (Loop.aim?_finish _ _ _ _).trans (Loop.aim?_of_none aim other).symm
      | false =>
        rw [Task.aim?, ended, cancelled] at aim
        simp only [Bool.or_self, Bool.false_eq_true, ↓reduceIte] at aim ⊢
        rw [Loop.standing?, found, Option.map_some, Task.standing, ended, cancelled] at native
        cases job : task.job with
        | debounce query loadMore waited =>
          rw [job] at aim
          exact debounceTurn_effect running aim waited
        | request asked stage =>
          rw [job] at aim
          obtain ⟨effect, steady⟩ := requestTurn_effect aim stage
          refine ⟨?_, steady⟩
          dsimp only
          cases turned : (session.fetchTurn id session.service.apiUrl (some asked) stage).1 with
          | waits next =>
            rw [turned] at effect
            exact effect
          | answered url answer =>
            rw [turned] at effect
            exact effect
        | schema url stage => simp [job] at native
        | idle => simp [job] at native
        | close stage => simp [job] at native

end Session

/-- The events between two calls of the host: a request is sent right away, a call is answered, time
passes, or a turn is taken. -/
def ValueEvent.proceeds : ValueEvent → Bool
  | .load .. | .respond .. | .round .. | .turn .. => true
  | _ => false

namespace Session

variable {session : Session} {id : TaskId}

/-- Taking a turn off the ready ones has no effect of its own. -/
theorem Effect.of_taking {after : Session} {answer : Option (TaskId × PageRequest × Answer)} {index : Nat}
    (effect : (session.taking index).Effect after answer) : session.Effect after answer := by
  cases effect with
  | still silent aims updates => exact .still silent aims updates
  | yields silent waits reason aims updates => exact .yields silent waits reason aims updates
  | sends silent sender next aims cache updates => exact .sends silent sender next aims cache updates
  | settles answered asking aims cache updates => exact .settles answered asking aims cache updates

/-- What an event between two calls of the host does. -/
theorem after_effect (tracked : Tracked session.loop session.service) {event : ValueEvent}
    (proceeds : event.proceeds = true) :
    session.Effect (session.after event) (session.answer? event) ∧ session.Steady (session.after event) := by
  cases event with
  | options query loadMore => cases proceeds
  | schedule query loadMore => cases proceeds
  | cancelPending => cases proceeds
  | deliver key page => cases proceeds
  | load query loadMore =>
    have frame := session.frame_loadPage query loadMore
    exact ⟨loadPage_effect tracked.running query loadMore, frame.steady (session.loadPage_keeps query loadMore).1⟩
  | respond call reply =>
    have sent := session.onward_respond call reply
    exact ⟨.still rfl sent.loop.aim? sent.updates, sent.steady (congrArg ValueService.pending sent.service)⟩
  | round time => exact ⟨.still rfl rfl rfl, ⟨rfl, rfl, rfl⟩⟩
  | turn index =>
    unfold after answer?
    dsimp only
    cases session.loop.ready[index]? with
    | none => exact ⟨.still rfl rfl rfl, ⟨rfl, rfl, rfl⟩⟩
    | some next =>
      have turned : ∀ id, (session.taking index).loop.standing? id ≠ some .foreign := tracked.native
      cases next with
      | run id =>
        obtain ⟨effect, steady⟩ := @taskTurn_effect (session.taking index) id tracked.running (turned id)
        exact ⟨effect.of_taking, ⟨steady.pending, steady.apiUrl, steady.listening⟩⟩
      | elapse id => exact ⟨.still rfl (Loop.continues_elapse _ _).aim? rfl, ⟨rfl, rfl, rfl⟩⟩
      | count id => exact ⟨.still rfl (Loop.continues_countDown _ _).aim? rfl, ⟨rfl, rfl, rfl⟩⟩
      | strike id => exact ⟨.still rfl rfl rfl, ⟨rfl, rfl, rfl⟩⟩

end Session

end QueryCompletion
