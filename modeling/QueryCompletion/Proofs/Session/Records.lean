import QueryCompletion.Proofs.Session.Aims

/-!
The table of requests names requests. What a task is for never changes, so a task on record is the
request it was when it was recorded, whether it has ended or not.
-/

namespace QueryCompletion

namespace Loop

variable {loop before after : Loop Job} {id : TaskId}

/-- What keeps all tasks and what they are for. -/
def Keeps (before after : Loop Job) : Prop :=
  ∀ id aim, before.purpose? id = some aim → after.purpose? id = some aim

theorem Keeps.refl (loop : Loop Job) : Keeps loop loop := fun _ _ found => found

theorem Keeps.trans {last : Loop Job} (first : Keeps before after) (second : Keeps after last) :
    Keeps before last :=
  fun id aim found => second id aim (first id aim found)

theorem keeps_modifyTask {change : Task Job → Task Job}
    (keeps : ∀ task, loop.tasks[id]? = some task → (change task).job.aim = task.job.aim) :
    Keeps loop (loop.modifyTask id change) := by
  intro other aim found
  obtain ⟨task, present, rfl⟩ := Option.map_eq_some_iff.mp found
  show Option.map _ (loop.tasks.modify id change)[other]? = _
  rw [List.getElem?_modify, present]
  show some (if id = other then change task else task).job.aim = _
  split
  · rename_i same
    rw [keeps task (same ▸ present)]
  · rfl

theorem Continues.keeps (continues : Continues before after) : Keeps before after :=
  fun id _ found => (continues.purpose? id).trans found

theorem keeps_finish (loop : Loop Job) (id : TaskId) (outcome : Outcome) :
    Keeps loop (loop.finish id outcome) := by
  unfold finish
  split
  · exact keeps_modifyTask fun _ _ => rfl
  · exact .refl _

theorem keeps_cancel (loop : Loop Job) (id : TaskId) : Keeps loop (loop.cancel id) :=
  cancel_keeps Keeps.refl Keeps.trans (fun _ => keeps_modifyTask fun _ _ => rfl)
    (fun loop => (loop.continues_run id).keeps) loop

theorem keeps_spawn (loop : Loop Job) (job : Job) (watchers : List Watcher) :
    Keeps loop (loop.spawn job watchers).2 := by
  intro other aim found
  obtain ⟨task, present, rfl⟩ := Option.map_eq_some_iff.mp found
  obtain ⟨inside, _⟩ := List.getElem?_eq_some_iff.mp present
  rw [purpose?, getElem?_spawn, if_neg (Nat.ne_of_lt inside), present]
  rfl

theorem purpose?_spawn (loop : Loop Job) (job : Job) (watchers : List Watcher) :
    (loop.spawn job watchers).2.purpose? (loop.spawn job watchers).1 = some job.aim := by
  rw [purpose?, getElem?_spawn]
  exact congrArg (Option.map _) (if_pos rfl)

end Loop

open Loop (Keeps)

/-- Every task on record is or was a request for the key of its record. -/
def Recorded (loop : Loop Job) (table : List (Text × TaskId)) : Prop :=
  ∀ record ∈ table, ∃ asked, loop.purpose? record.2 = some (.fetch asked) ∧ asked.query.key = record.1

theorem Recorded.keep {before after : Loop Job} {table : List (Text × TaskId)}
    (recorded : Recorded before table) (keeps : Keeps before after) : Recorded after table := by
  intro record inside
  obtain ⟨asked, purpose, same⟩ := recorded record inside
  exact ⟨asked, keeps _ _ purpose, same⟩

theorem Recorded.request {loop : Loop Job} {service : ValueService}
    (recorded : Recorded loop service.inFlight) (asked : PageRequest) :
    Recorded (loop.spawn (.request asked .unsent) [.strike]).2
      (service.recordRequest asked.query.key (loop.spawn (.request asked .unsent) [.strike]).1).inFlight := by
  have old := recorded.keep (loop.keeps_spawn (.request asked .unsent) [.strike])
  have new := loop.purpose?_spawn (.request asked .unsent) [.strike]
  intro record inside
  unfold ValueService.recordRequest at inside
  dsimp only at inside
  split at inside
  · obtain ⟨earlier, listed, same⟩ := List.mem_map.mp inside
    split at same
    · rw [← same]
      exact ⟨asked, new, rfl⟩
    · rw [← same]
      exact old earlier listed
  · rcases List.mem_append.mp inside with listed | added
    · exact old record listed
    · rw [List.mem_singleton.mp added]
      exact ⟨asked, new, rfl⟩

namespace Session

variable {session : Session} {id : TaskId}

theorem keeps_cancelPending (session : Session) : Keeps session.loop session.cancelPending.loop := by
  show Keeps _ (session.service.pending.elim session.loop session.loop.cancel)
  cases session.service.pending with
  | none => exact .refl _
  | some id => exact Loop.keeps_cancel _ id

theorem recorded_scheduleLoad (recorded : Recorded session.loop session.service.inFlight)
    (query : ValueQuery) (loadMore : Bool) :
    Recorded (session.scheduleLoad query loadMore).2.loop
      (session.scheduleLoad query loadMore).2.service.inFlight := by
  unfold scheduleLoad
  split
  · exact recorded.keep (session.keeps_cancelPending.trans (Loop.keeps_spawn _ _ _))
  · exact recorded

theorem recorded_loadPage (recorded : Recorded session.loop session.service.inFlight) (query : ValueQuery)
    (loadMore : Bool) :
    Recorded (session.loadPage query loadMore).2.loop (session.loadPage query loadMore).2.service.inFlight := by
  unfold loadPage
  dsimp only
  split
  · exact recorded
  · split
    · exact recorded
    · rename_i page _
      split
      · exact Recorded.request recorded ⟨query, page⟩
      · exact recorded

theorem recorded_jobTurn (recorded : Recorded session.loop session.service.inFlight) {job : Job}
    (aims : session.loop.purpose? id = some job.aim) (native : job.aim ≠ .other) :
    Recorded (session.jobTurn id job).loop (session.jobTurn id job).service.inFlight := by
  cases job with
  | debounce query loadMore waited =>
    unfold jobTurn
    dsimp only
    split
    · have slept := session.loop.continues_sleep id session.service.fetchDelay
      refine recorded.keep (slept.setJob ?_).keeps
      exact aims
    · exact (recorded_loadPage recorded query loadMore).keep (Loop.keeps_finish _ _ _)
  | request asked stage =>
    have fetched := session.onward_fetchTurn id session.service.apiUrl (some asked) stage
    unfold jobTurn
    dsimp only
    split
    · rename_i next after turned
      rw [turned] at fetched
      rw [setJob_service, fetched.service]
      refine recorded.keep (fetched.loop.setJob ?_).keeps
      exact aims
    · rename_i url answer after turned
      rw [turned] at fetched
      rw [finish_service, (after.settles_takePage asked url answer).inFlight, fetched.service]
      refine recorded.keep (fetched.loop.keeps.trans (Keeps.trans ?_ (Loop.keeps_finish _ _ _)))
      rw [takePage_loop]
      exact .refl _
  | schema url stage => exact absurd rfl native
  | idle => exact absurd rfl native
  | close stage => exact absurd rfl native

theorem recorded_taskTurn (recorded : Recorded session.loop session.service.inFlight)
    (native : session.loop.standing? id ≠ some .foreign) :
    Recorded (session.taskTurn id).loop (session.taskTurn id).service.inFlight := by
  rcases session.taskTurn_cases id with ⟨_, same⟩ | ⟨task, live, ⟨_, ends⟩ | ⟨_, works⟩⟩
  · rw [same]
    exact recorded
  · rw [ends]
    exact recorded.keep (Loop.keeps_finish _ _ _)
  · obtain ⟨found, unended⟩ := Loop.live?_eq_some_iff.mp live
    have purpose : session.loop.purpose? id = some task.job.aim := by rw [Loop.purpose?, found]; rfl
    rw [works]
    refine recorded_jobTurn recorded purpose fun other => native ?_
    rw [Loop.standing?, found, Option.map_some, Task.standing, unended]
    cases job : task.job with
    | debounce query loadMore waited => rw [job] at other; cases other
    | request asked stage => rw [job] at other; cases other
    | schema url stage => rfl
    | idle => rfl
    | close stage => rfl

theorem recorded_after (tracked : Tracked session.loop session.service)
    (recorded : Recorded session.loop session.service.inFlight) (event : ValueEvent) :
    Recorded (session.after event).loop (session.after event).service.inFlight := by
  cases event with
  | options query loadMore =>
    unfold after valueOptions
    dsimp only
    split
    · exact @recorded_scheduleLoad { session with service := (session.service.lookUp query.key).2 } recorded _ _
    · exact recorded
  | schedule query loadMore => exact recorded_scheduleLoad recorded query loadMore
  | cancelPending => exact recorded.keep session.keeps_cancelPending
  | load query loadMore => exact recorded_loadPage recorded query loadMore
  | deliver key page =>
    show Recorded (session.applyPage key page).2.loop (session.applyPage key page).2.service.inFlight
    rw [applyPage_loop, applyPage_service, (ValueService.settles_applyPage _ _ _).inFlight]
    exact recorded
  | respond call reply =>
    show Recorded (session.respond call reply).2.loop (session.respond call reply).2.service.inFlight
    have sent := session.onward_respond call reply
    rw [sent.service]
    exact recorded.keep sent.loop.keeps
  | round time => exact recorded
  | turn index =>
    unfold after
    dsimp only
    cases session.loop.ready[index]? with
    | none => exact recorded
    | some next =>
      have taken : Recorded (session.taking index).loop (session.taking index).service.inFlight := recorded
      cases next with
      | run id => exact recorded_taskTurn taken (tracked.native id)
      | elapse id => exact taken.keep (Loop.continues_elapse _ id).keeps
      | count id => exact taken.keep (Loop.continues_countDown _ id).keeps
      | strike id => exact fun record inside => recorded record (List.mem_of_mem_filter inside)

/-- An unfinished request on record fetches a page for the key. -/
theorem fetching_of_inFlight (tracked : Tracked session.loop session.service)
    (recorded : Recorded session.loop session.service.inFlight) {key : Text}
    (flying : session.inFlight key = true) :
    ∃ id asked, session.loop.aim? id = some (.fetch asked) ∧ asked.query.key = key := by
  unfold inFlight at flying
  cases listed : session.service.inFlight.lookup key with
  | none =>
    rw [listed] at flying
    cases flying
  | some id =>
    rw [listed, Option.map_some, Option.getD_some, Loop.isLive] at flying
    obtain ⟨asked, purpose, same⟩ := recorded (key, id) (mem_of_lookup listed)
    refine ⟨id, asked, ?_, same⟩
    obtain ⟨task, found, aim⟩ := Option.map_eq_some_iff.mp purpose
    have native := tracked.native id
    rw [Loop.standing?, found, Option.map_some] at native
    rw [found] at flying
    rw [Loop.aim?, found, Option.bind_some]
    obtain ⟨job, wait, cancelled, watchers, outcome⟩ := task
    cases job with
    | request asked' stage =>
      cases outcome with
      | some outcome => cases flying
      | none =>
        cases cancelled with
        | true => exact absurd rfl native
        | false => exact congrArg some aim
    | debounce query loadMore waited => cases aim
    | schema url stage => cases aim
    | idle => cases aim
    | close stage => cases aim

end Session

end QueryCompletion
