import QueryCompletion.Session.Turn

/-!
The tasks of an event loop: what starting a task and asking one to end do to them, what they are for, and the steps
after which all of them go on as before. In such a step a task waits, is woken or gets on with its job, and what depends
only on the aims of the tasks and on which of them have ended or were cancelled is the same before and after.
-/

namespace QueryCompletion

/-- What a task is for. -/
inductive Aim where
  | load (query : ValueQuery) (loadMore : Bool)
  | fetch (asked : PageRequest)
  | other
deriving DecidableEq

def Job.aim : Job → Aim
  | .debounce query loadMore _ => .load query loadMore
  | .request asked _ => .fetch asked
  | _ => .other

/-- What of a task does not depend on how far it has come. -/
structure Gist where
  aim : Aim
  cancelled : Bool
  outcome : Option Outcome

def Task.gist (task : Task Job) : Gist := ⟨task.job.aim, task.cancelled, task.outcome⟩

namespace Loop

variable {loop before after : Loop Job} {id : TaskId}

/-- A task that is started comes behind all others. -/
theorem getElem?_spawn (loop : Loop Job) (job : Job) (watchers : List Watcher) (id : TaskId) :
    (loop.spawn job watchers).2.tasks[id]? =
      if id = loop.tasks.length then some { job, watchers } else loop.tasks[id]? := by
  show (loop.tasks ++ _)[id]? = _
  rcases Nat.lt_trichotomy id loop.tasks.length with inside | same | past
  · rw [if_neg (Nat.ne_of_lt inside), List.getElem?_append_left inside]
  · rw [if_pos same, same, List.getElem?_concat_length]
  · rw [if_neg (Nat.ne_of_gt past), List.getElem?_eq_none (Nat.le_of_lt past),
      List.getElem?_eq_none (by rw [List.length_append]; exact past)]

/-- What the mark of a task that is to end and its waking keep, asking it to end keeps. -/
theorem cancel_keeps {R : Loop Job → Loop Job → Prop} (refl : ∀ loop, R loop loop)
    (trans : ∀ {before between after}, R before between → R between after → R before after)
    (mark : ∀ loop : Loop Job, R loop (loop.modifyTask id fun task => { task with cancelled := true, wait := .turn }))
    (wake : ∀ loop : Loop Job, R loop (loop.enqueue [.run id])) (loop : Loop Job) : R loop (loop.cancel id) := by
  unfold cancel
  split
  · split
    · exact refl loop
    · dsimp only
      split
      · exact mark loop
      · exact trans (mark loop) (wake _)
  · exact refl loop

/-- What a task is or was for. -/
def purpose? (loop : Loop Job) (id : TaskId) : Option Aim := loop.tasks[id]?.map fun task => task.job.aim

/-- All tasks stay what they are, but for how far they have come, and no ended request is announced. -/
structure Continues (before after : Loop Job) : Prop where
  running : after.running = before.running
  tasks : ∀ id : TaskId, after.tasks[id]?.map Task.gist = before.tasks[id]?.map Task.gist
  strikes : ∀ id, Turn.strike id ∈ after.ready → Turn.strike id ∈ before.ready

namespace Continues

theorem refl (loop : Loop Job) : Continues loop loop := ⟨rfl, fun _ => rfl, fun _ inside => inside⟩

theorem trans {last : Loop Job} (first : Continues before after) (second : Continues after last) :
    Continues before last where
  running := second.running.trans first.running
  tasks id := (second.tasks id).trans (first.tasks id)
  strikes id inside := first.strikes id (second.strikes id inside)

/-- What can be told from the gist of a task is the same before and after. -/
theorem bind (continues : Continues before after) {view : Task Job → Option β}
    (told : ∀ first second : Task Job, first.gist = second.gist → view first = view second) (id : TaskId) :
    after.tasks[id]?.bind view = before.tasks[id]?.bind view := by
  have same := continues.tasks id
  cases found : before.tasks[id]? with
  | none =>
    rw [found, Option.map_none, Option.map_eq_none_iff] at same
    rw [same]
  | some task =>
    rw [found, Option.map_some, Option.map_eq_some_iff] at same
    obtain ⟨later, present, same⟩ := same
    rw [present]
    exact told later task same

theorem map (continues : Continues before after) {view : Task Job → β}
    (told : ∀ first second : Task Job, first.gist = second.gist → view first = view second) (id : TaskId) :
    after.tasks[id]?.map view = before.tasks[id]?.map view := by
  rw [Option.map_eq_bind, Option.map_eq_bind]
  exact continues.bind (fun first second same => congrArg some (told first second same)) id

theorem purpose? (continues : Continues before after) (id : TaskId) : after.purpose? id = before.purpose? id :=
  continues.map (fun _ _ same => congrArg Gist.aim same) id

end Continues

theorem continues_modifyTask {change : Task Job → Task Job}
    (keeps : ∀ task, loop.tasks[id]? = some task → (change task).gist = task.gist) :
    Continues loop (loop.modifyTask id change) := by
  refine ⟨rfl, fun other => ?_, fun _ inside => inside⟩
  show Option.map _ (loop.tasks.modify id change)[other]? = _
  rw [List.getElem?_modify]
  cases found : loop.tasks[other]? with
  | none => rfl
  | some task =>
    show some (if id = other then change task else task).gist = some task.gist
    split
    · rename_i same
      rw [keeps task (same ▸ found)]
    · rfl

/-- A change of what a task waits for. -/
theorem continues_setWait (loop : Loop Job) (id : TaskId) (wait : Wait) :
    Continues loop (loop.modifyTask id fun task => { task with wait }) :=
  continues_modifyTask fun _ _ => rfl

/-- A change of what a task does that keeps its aim. -/
theorem continues_setJob {job : Job} (aims : loop.purpose? id = some job.aim) :
    Continues loop (loop.modifyTask id fun task => { task with job }) := by
  refine continues_modifyTask fun task found => ?_
  rw [purpose?, found, Option.map_some, Option.some.injEq] at aims
  rw [Task.gist, Task.gist, aims]

/-- A step after which a task gets on with a job of the same aim. -/
theorem Continues.setJob (continues : Continues before after) {job : Job} (aims : before.purpose? id = some job.aim) :
    Continues before (after.modifyTask id fun task => { task with job }) :=
  continues.trans (continues_setJob ((continues.purpose? id).trans aims))

theorem continues_run (loop : Loop Job) (id : TaskId) : Continues loop (loop.enqueue [.run id]) := by
  refine ⟨rfl, fun _ => rfl, fun other inside => ?_⟩
  rcases List.mem_append.mp inside with old | new
  · exact old
  · cases List.mem_singleton.mp new

theorem continues_sleep (loop : Loop Job) (id : TaskId) (delay : Binary64) : Continues loop (loop.sleep id delay) := by
  unfold sleep
  split
  · have waiting := loop.continues_setWait id .timer
    exact ⟨waiting.running, waiting.tasks, waiting.strikes⟩
  · exact loop.continues_run id

theorem continues_awaitAll (loop : Loop Job) (id other : TaskId) : Continues loop (loop.awaitAll id [other]) :=
  (loop.continues_setWait id (.others 1)).trans (continues_modifyTask fun _ _ => rfl)

theorem continues_elapse (loop : Loop Job) (id : TaskId) : Continues loop (loop.elapse id) := by
  unfold elapse
  split
  · split
    · exact (loop.continues_setWait id .turn).trans (continues_run _ id)
    · exact .refl loop
  · exact .refl loop

theorem continues_countDown (loop : Loop Job) (id : TaskId) : Continues loop (loop.countDown id) := by
  unfold countDown
  split
  · split
    · exact (loop.continues_setWait id .turn).trans (continues_run _ id)
    · exact loop.continues_setWait id _
    · exact .refl loop
  · exact .refl loop

theorem continues_passTo (loop : Loop Job) (time : Instant) : Continues loop (loop.passTo time) :=
  ⟨rfl, fun _ => rfl, fun _ inside => inside⟩

theorem continues_startRound (loop : Loop Job) : Continues loop loop.startRound := by
  refine ⟨rfl, fun _ => rfl, fun id inside => ?_⟩
  rcases List.mem_append.mp inside with old | new
  · exact old
  · obtain ⟨timer, _, same⟩ := List.mem_map.mp new
    cases same

end Loop

end QueryCompletion
