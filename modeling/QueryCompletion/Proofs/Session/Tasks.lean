import Mathlib.Data.List.Basic
import QueryCompletion.Proofs.Session.Continuing

/-!
Tasks that have not ended and tasks that have, before and after each operation of the event loop, and the
times that its clock can tell apart.
-/

namespace QueryCompletion

theorem log2_lt_of_lt_twoTo {number exponent : Nat} (positive : number ≠ 0) (below : number < twoTo exponent) :
    number.log2 < exponent :=
  (Nat.log2_lt positive).mpr below

theorem twoTo_le_twoTo {first second : Nat} (below : first ≤ second) : twoTo first ≤ twoTo second :=
  Nat.pow_le_pow_right (by decide) below

namespace Binary64

/-- A quotient is rounded to a number at most half of one away. -/
theorem le_roundQuotient {numerator denominator : Nat} (positive : 0 < denominator) :
    2 * numerator ≤ 2 * (roundQuotient numerator denominator * denominator) + denominator := by
  have parts := Nat.div_add_mod numerator denominator
  have inside := Nat.mod_lt numerator positive
  rw [Nat.mul_comm] at parts
  unfold roundQuotient
  dsimp only
  split
  · omega
  · split
    · rw [Nat.add_mul]
      omega
    · rw [Nat.add_mul, Nat.one_mul]
      omega

theorem le_roundSignificant (number : Nat) :
    2 * number ≤ 2 * roundSignificant number 1 + twoTo (number.log2 + 1 - 53) := by
  unfold roundSignificant
  dsimp only
  rw [Nat.div_one, Nat.one_mul]
  exact le_roundQuotient (Nat.pow_pos (by decide))

end Binary64

namespace Instant

/-- For more than ninety days the clock tells a time from one that is a resolution later. -/
theorem lt_after_resolution {now : Nat} (early : now < twoTo 23 * Binary64.unit) :
    now < Instant.after now Instant.resolution := by
  -- Such a time is rounded in steps of at most 2 ^ 1045 ticks, and a resolution is more than half a step.
  obtain ⟨least, same, coarse, fine⟩ : ∃ least : Nat, Instant.resolution = .finite false least ∧
      twoTo 1045 < 2 * least ∧ least < twoTo 1097 :=
    ⟨Binary64.roundSignificant Binary64.unit (tenTo 9), by decide +kernel, by decide +kernel, by decide +kernel⟩
  have below : now < twoTo 1097 := Nat.lt_of_lt_of_eq early (by decide +kernel)
  have double : twoTo 1097 + twoTo 1097 = twoTo 1098 := by decide +kernel
  have far : twoTo 1097 < Binary64.limit := by decide +kernel
  have sum : now + least < twoTo 1098 := by omega
  have bits : (now + least).log2 < 1098 := log2_lt_of_lt_twoTo (by omega) sum
  have step : twoTo ((now + least).log2 + 1 - 53) ≤ twoTo 1045 := twoTo_le_twoTo (by omega)
  have rounded := Binary64.le_roundSignificant (now + least)
  rw [same]
  exact Nat.lt_min.mpr ⟨Nat.lt_trans below far, by omega⟩

end Instant

namespace Loop

variable {loop before after : Loop Job} {id other : TaskId} {task : Task Job} {outcome : Outcome}

/-- A task that has been started and has not ended. -/
def live? (loop : Loop Job) (id : TaskId) : Option (Task Job) :=
  loop.tasks[id]?.filter fun task => task.outcome.isNone

theorem live?_eq_some_iff : loop.live? id = some task ↔ loop.tasks[id]? = some task ∧ task.outcome = none := by
  rw [live?, Option.filter_eq_some_iff, Option.isNone_iff_eq_none]

theorem outcome?_eq_some_iff :
    loop.outcome? id = some outcome ↔ ∃ task, loop.tasks[id]? = some task ∧ task.outcome = some outcome :=
  Option.bind_eq_some_iff

theorem isLive_of_live? (live : loop.live? id = some task) : loop.isLive id = true := by
  obtain ⟨found, unended⟩ := live?_eq_some_iff.mp live
  rw [isLive, found]
  exact Option.isNone_iff_eq_none.mpr unended

theorem isLive_of_outcome? (ended : loop.outcome? id = some outcome) : loop.isLive id = false := by
  obtain ⟨task, found, ended⟩ := outcome?_eq_some_iff.mp ended
  rw [isLive, found]
  simp [ended]

theorem lt_length_of_live? (live : loop.live? id = some task) : id < loop.tasks.length :=
  (List.getElem?_eq_some_iff.mp (live?_eq_some_iff.mp live).1).1

theorem lt_length_of_outcome? (ended : loop.outcome? id = some outcome) : id < loop.tasks.length := by
  obtain ⟨task, found, _⟩ := outcome?_eq_some_iff.mp ended
  exact (List.getElem?_eq_some_iff.mp found).1

/-- Asking a task to end that has ended changes nothing. -/
theorem cancel_of_outcome? (ended : loop.outcome? id = some outcome) : loop.cancel id = loop := by
  obtain ⟨task, found, ended⟩ := outcome?_eq_some_iff.mp ended
  simp [cancel, found, ended]

section Modify

variable {change : Task Job → Task Job} (keeps : ∀ task, (change task).outcome = task.outcome)

include keeps

theorem live?_modifyTask_self (live : loop.live? id = some task) :
    (loop.modifyTask id change).live? id = some (change task) := by
  obtain ⟨found, unended⟩ := live?_eq_some_iff.mp live
  refine live?_eq_some_iff.mpr ⟨?_, (keeps task).trans unended⟩
  rw [modifyTask, List.getElem?_modify_eq, found]
  rfl

theorem outcome?_modifyTask (other : TaskId) : (loop.modifyTask id change).outcome? other = loop.outcome? other := by
  unfold outcome? modifyTask
  rw [List.getElem?_modify]
  cases loop.tasks[other]? with
  | none => rfl
  | some task =>
    show (if id = other then change task else task).outcome = task.outcome
    split
    · exact keeps task
    · rfl

end Modify

theorem live?_modifyTask_of_ne {change : Task Job → Task Job} (differs : id ≠ other) :
    (loop.modifyTask id change).live? other = loop.live? other := by
  rw [live?, live?, modifyTask]
  dsimp only
  rw [List.getElem?_modify_ne _ _ differs]

/-- A task that ends has the outcome it ends with, if there is such a task. -/
theorem outcome?_finish (loop : Loop Job) (id : TaskId) (outcome : Outcome) :
    (loop.finish id outcome).outcome? id = (loop.tasks[id]?).map fun _ => outcome := by
  unfold finish
  cases found : loop.tasks[id]? with
  | none => rw [outcome?, found]; rfl
  | some task =>
    show Option.bind (loop.tasks.modify id _)[id]? Task.outcome = _
    rw [List.getElem?_modify_eq, found]
    rfl

section Finish

variable (live : loop.live? id = some task) (outcome : Outcome)

include live

theorem finish_eq :
    loop.finish id outcome = (loop.modifyTask id fun task => { task with outcome := some outcome }).enqueue
      (task.watchers.map (Watcher.turn id)) := by
  rw [finish, (live?_eq_some_iff.mp live).1]

theorem live?_finish_of_ne (differs : id ≠ other) : (loop.finish id outcome).live? other = loop.live? other := by
  rw [finish_eq live]
  exact live?_modifyTask_of_ne differs

theorem outcome?_finish_self : (loop.finish id outcome).outcome? id = some outcome := by
  rw [outcome?_finish, (live?_eq_some_iff.mp live).1]
  rfl

theorem outcome?_finish_of_ne (differs : id ≠ other) :
    (loop.finish id outcome).outcome? other = loop.outcome? other := by
  rw [finish_eq live, outcome?, outcome?]
  show Option.bind (List.modify _ _ _)[other]? _ = _
  rw [List.getElem?_modify_ne _ _ differs]

end Finish

section Spawn

variable (loop) (job : Job) (watchers : List Watcher)

theorem live?_spawn_self :
    (loop.spawn job watchers).2.live? loop.tasks.length = some { job, watchers } :=
  live?_eq_some_iff.mpr ⟨List.getElem?_concat_length, rfl⟩

variable {loop}

theorem live?_spawn (live : loop.live? id = some task) :
    (loop.spawn job watchers).2.live? id = some task := by
  obtain ⟨found, unended⟩ := live?_eq_some_iff.mp live
  refine live?_eq_some_iff.mpr ⟨?_, unended⟩
  rw [getElem?_spawn, if_neg (Nat.ne_of_lt (lt_length_of_live? live)), found]

theorem outcome?_spawn (ended : loop.outcome? id = some outcome) :
    (loop.spawn job watchers).2.outcome? id = some outcome := by
  have inside := lt_length_of_outcome? ended
  rw [outcome?] at ended ⊢
  rw [getElem?_spawn, if_neg (Nat.ne_of_lt inside), ended]

end Spawn

/-- What has ended is remembered with its outcome. -/
def Remembers (before after : Loop Job) : Prop :=
  ∀ id outcome, before.outcome? id = some outcome → after.outcome? id = some outcome

theorem Remembers.refl (loop : Loop Job) : Remembers loop loop := fun _ _ ended => ended

theorem Remembers.trans {last : Loop Job} (first : Remembers before after) (second : Remembers after last) :
    Remembers before last :=
  fun id outcome ended => second id outcome (first id outcome ended)

theorem remembers_modifyTask {change : Task Job → Task Job} (keeps : ∀ task, (change task).outcome = task.outcome)
    (id : TaskId) : Remembers loop (loop.modifyTask id change) :=
  fun other _ ended => (outcome?_modifyTask keeps other).trans ended

theorem Continues.remembers (continues : Continues before after) : Remembers before after := by
  intro id outcome ended
  exact (continues.bind (fun _ _ same => congrArg Gist.outcome same) id).trans ended

theorem remembers_finish {task : Task Job} (live : loop.live? id = some task) (outcome : Outcome) :
    Remembers loop (loop.finish id outcome) := by
  intro other earlier ended
  have differs : id ≠ other := by
    rintro rfl
    have unended := isLive_of_live? live
    rw [isLive_of_outcome? ended] at unended
    cases unended
  rw [outcome?_finish_of_ne live outcome differs, ended]

theorem remembers_spawn (loop : Loop Job) (job : Job) (watchers : List Watcher) :
    Remembers loop (loop.spawn job watchers).2 :=
  fun _ _ ended => outcome?_spawn job watchers ended

/-- The clock is fine enough at present to tell a time from one that is a resolution later. -/
def ticks (loop : Loop Job) : Prop := loop.now < Instant.after loop.now Instant.resolution

theorem ticks_of_early (early : loop.now < twoTo 23 * Binary64.unit) : loop.ticks :=
  Instant.lt_after_resolution early

end Loop

end QueryCompletion
