import Mathlib.Data.List.Basic
import QueryCompletion.Proofs.Session.Continuing

/-!
Tasks as far as the requests in flight depend on them. After most of what an event loop does all tasks go on as before,
so that no standing changes and no end is announced; only starting and ending tasks do more.
-/

namespace QueryCompletion

/-- What a task has to do with the requests in flight. -/
inductive Standing where
  /-- It has ended, or it waits for typing to pause. -/
  | resting
  | fetching (key : Text)
  /-- It is of another kind, or it is a request that was cancelled. -/
  | foreign
deriving DecidableEq

namespace Task

def standing (task : Task Job) : Standing :=
  if task.outcome.isSome then .resting
  else
    match task.job, task.cancelled with
    | .debounce .., _ => .resting
    | .request asked _, false => .fetching asked.query.key
    | _, _ => .foreign

variable {task : Task Job}

theorem standing_of_ended (ended : task.outcome.isSome = true) : task.standing = .resting := if_pos ended

theorem standing_of_debounce {query : ValueQuery} {loadMore waited : Bool}
    (job : task.job = .debounce query loadMore waited) : task.standing = .resting := by
  unfold standing
  rw [job]
  split <;> rfl

theorem standing_of_request {asked : PageRequest} {stage : FetchStage} (live : task.outcome = none)
    (kept : task.cancelled = false) (job : task.job = .request asked stage) :
    task.standing = .fetching asked.query.key := by
  unfold standing
  rw [live, kept, job]
  rfl

theorem standing_of_cancelled {asked : PageRequest} {stage : FetchStage} (live : task.outcome = none)
    (cancelled : task.cancelled = true) (job : task.job = .request asked stage) :
    task.standing = .foreign := by
  unfold standing
  rw [live, cancelled, job]
  rfl

/-- What can be said of a task from its standing. -/
theorem standing_cases (task : Task Job) :
    task.standing = .resting ∧ task.outcome.isSome = true ∨
      task.standing = .resting ∧ (∃ query loadMore waited, task.job = .debounce query loadMore waited) ∨
      task.outcome = none ∧ task.cancelled = false ∧
        (∃ asked stage, task.standing = .fetching asked.query.key ∧ task.job = .request asked stage) ∨
      task.standing = .foreign := by
  cases ended : task.outcome with
  | some outcome => exact Or.inl ⟨standing_of_ended (by rw [ended]; rfl), rfl⟩
  | none =>
    right
    cases job : task.job with
    | debounce query loadMore waited =>
      exact Or.inl ⟨standing_of_debounce job, query, loadMore, waited, rfl⟩
    | request asked stage =>
      right
      cases kept : task.cancelled with
      | false => exact Or.inl ⟨rfl, rfl, asked, stage, standing_of_request ended kept job, rfl⟩
      | true => exact Or.inr (standing_of_cancelled ended kept job)
    | schema url stage => right; right; simp [standing, ended, job]
    | idle => right; right; simp [standing, ended, job]
    | close stage => right; right; simp [standing, ended, job]

theorem unfinished_of_fetching {key : Text} (fetching : task.standing = .fetching key) :
    task.outcome = none ∧ task.cancelled = false := by
  rcases task.standing_cases with ⟨resting, _⟩ | ⟨resting, _⟩ | ⟨live, kept, _⟩ | foreign
  · rw [resting] at fetching
    cases fetching
  · rw [resting] at fetching
    cases fetching
  · exact ⟨live, kept⟩
  · rw [foreign] at fetching
    cases fetching

/-- The standing of a task can be told from its gist. -/
theorem standing_of_gist {first second : Task Job} (same : first.gist = second.gist) :
    first.standing = second.standing := by
  obtain ⟨job, wait, cancelled, watchers, outcome⟩ := first
  obtain ⟨job', wait', cancelled', watchers', outcome'⟩ := second
  rw [gist, gist, Gist.mk.injEq] at same
  obtain ⟨aims, rfl, rfl⟩ := same
  dsimp only at aims
  cases job <;> cases job' <;> cases aims <;> cases cancelled <;> rfl

end Task

namespace Loop

variable {loop before after : Loop Job} {id : TaskId}

def standing? (loop : Loop Job) (id : TaskId) : Option Standing := loop.tasks[id]?.map Task.standing

/-- What changes no standing and announces no ended request. -/
structure Quiet (before after : Loop Job) : Prop where
  running : after.running = before.running
  standing : ∀ id, after.standing? id = before.standing? id
  strikes : ∀ id, Turn.strike id ∈ after.ready → Turn.strike id ∈ before.ready

theorem Quiet.refl (loop : Loop Job) : Quiet loop loop := ⟨rfl, fun _ => rfl, fun _ inside => inside⟩

theorem Quiet.trans {last : Loop Job} (first : Quiet before after) (second : Quiet after last) :
    Quiet before last :=
  ⟨second.running.trans first.running, fun id => (second.standing id).trans (first.standing id),
    fun id inside => first.strikes id (second.strikes id inside)⟩

theorem Continues.quiet (continues : Continues before after) : Quiet before after :=
  ⟨continues.running, continues.map fun _ _ => Task.standing_of_gist, continues.strikes⟩

theorem standing?_modifyTask (loop : Loop Job) (id other : TaskId) (change : Task Job → Task Job) :
    (loop.modifyTask id change).standing? other =
      loop.tasks[other]?.map fun task => (if id = other then change task else task).standing := by
  show Option.map _ (loop.tasks.modify id change)[other]? = _
  rw [List.getElem?_modify]
  exact Option.map_map _ _ _

theorem quiet_modifyTask {change : Task Job → Task Job}
    (keeps : ∀ task, loop.tasks[id]? = some task → (change task).standing = task.standing) :
    Quiet loop (loop.modifyTask id change) := by
  refine ⟨rfl, fun other => ?_, fun _ inside => inside⟩
  rw [standing?_modifyTask, standing?]
  cases found : loop.tasks[other]? with
  | none => rfl
  | some task =>
    by_cases same : id = other
    · rw [Option.map_some, if_pos same, keeps task (same ▸ found)]
      rfl
    · rw [Option.map_some, if_neg same]
      rfl

/-- Cancelling a task that is no request. -/
theorem quiet_cancel (resting : loop.standing? id = some .resting) : Quiet loop (loop.cancel id) := by
  unfold cancel
  cases found : loop.tasks[id]? with
  | none => exact .refl loop
  | some task =>
    dsimp only
    split
    · exact .refl loop
    · rename_i live
      have marked : Quiet loop (loop.modifyTask id fun task => { task with cancelled := true, wait := .turn }) := by
        refine quiet_modifyTask fun other same => ?_
        rw [found] at same
        cases same
        rw [standing?, found, Option.map_some, Option.some.injEq] at resting
        rcases task.standing_cases with ⟨_, ended⟩ | ⟨_, query, loadMore, waited, job⟩ |
          ⟨_, _, asked, stage, fetching, _⟩ | foreign
        · exact absurd ended live
        · rw [resting]
          exact Task.standing_of_debounce job
        · rw [resting] at fetching
          cases fetching
        · rw [resting] at foreign
          cases foreign
      split
      · exact marked
      · exact marked.trans (continues_run _ id).quiet

theorem standing?_finish (loop : Loop Job) (id other : TaskId) (outcome : Outcome) :
    (loop.finish id outcome).standing? other =
      if id = other then (loop.standing? other).map fun _ => .resting else loop.standing? other := by
  unfold finish
  cases found : loop.tasks[id]? with
  | none =>
    by_cases same : id = other
    · rw [if_pos same, standing?, ← same, found]
      rfl
    · rw [if_neg same]
  | some task =>
    refine (standing?_modifyTask loop id other _).trans ?_
    rw [standing?]
    split
    · rw [Option.map_map]
      rfl
    · rfl

/-- A task that ends announces at most its own end. -/
theorem strike_finish {outcome : Outcome} {other : TaskId}
    (inside : Turn.strike other ∈ (loop.finish id outcome).ready) :
    Turn.strike other ∈ loop.ready ∨ other = id ∧ (loop.standing? id).isSome = true := by
  unfold finish at inside
  cases found : loop.tasks[id]? with
  | none =>
    rw [found] at inside
    exact Or.inl inside
  | some task =>
    rw [found] at inside
    rcases List.mem_append.mp inside with old | new
    · exact Or.inl old
    · obtain ⟨watcher, _, same⟩ := List.mem_map.mp new
      cases watcher with
      | resume task => cases same
      | count task => cases same
      | strike =>
        cases same
        exact Or.inr ⟨rfl, by rw [standing?, found]; rfl⟩

theorem standing?_spawn (loop : Loop Job) (job : Job) (watchers : List Watcher) (other : TaskId) :
    (loop.spawn job watchers).2.standing? other =
      if other = loop.tasks.length then some (Task.standing { job }) else loop.standing? other := by
  rw [standing?, getElem?_spawn]
  split <;> rfl

theorem standing?_length (loop : Loop Job) : loop.standing? loop.tasks.length = none := by
  rw [standing?, List.getElem?_eq_none (by omega)]
  rfl

/-- Starting a task changes the standing of no other. -/
theorem standing?_spawn_of_some {job : Job} {watchers : List Watcher} {standing : Standing}
    (found : loop.standing? id = some standing) :
    (loop.spawn job watchers).2.standing? id = some standing := by
  rw [standing?_spawn, if_neg, found]
  rintro rfl
  rw [standing?_length] at found
  cases found

theorem strike_spawn {job : Job} {watchers : List Watcher}
    (inside : Turn.strike id ∈ (loop.spawn job watchers).2.ready) : Turn.strike id ∈ loop.ready := by
  rcases List.mem_append.mp inside with old | new
  · exact old
  · cases List.mem_singleton.mp new

end Loop

end QueryCompletion
