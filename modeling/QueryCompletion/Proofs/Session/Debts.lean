import Mathlib.Data.List.Count
import QueryCompletion.Proofs.Session.Upkeep

/-!
Ends of tasks that a waiting task is still to be told of. What other tasks do neither wakes it nor loses one of
them.
-/

namespace QueryCompletion

open Loop (Watcher.turn)

theorem Watcher.turn_injective (ended : TaskId) : Function.Injective (Watcher.turn ended) := by
  intro first second same
  cases first <;> cases second <;> cases same <;> rfl

/-- What is still to be done when a task ends. -/
def Task.ahead (task : Task Job) : List Watcher := if task.outcome.isNone then task.watchers else []

/-- How often the end of a task will be told to a waiting one. -/
def Task.owes (id : TaskId) (task : Task Job) : Nat := task.ahead.count (.count id)

theorem count_flatMap_modify {tasks : List (Task Job)} {id : TaskId} {task : Task Job}
    (found : tasks[id]? = some task) (watcher : Watcher) (change : Task Job → Task Job) :
    ((tasks.modify id change).flatMap Task.ahead).count watcher + task.ahead.count watcher =
      (tasks.flatMap Task.ahead).count watcher + (change task).ahead.count watcher := by
  induction tasks generalizing id with
  | nil => cases found
  | cons first rest ih =>
    cases id with
    | zero =>
      cases found
      simp only [List.modify_zero_cons, List.flatMap_cons, List.count_append]
      omega
    | succ id =>
      have later := ih found
      simp only [List.modify_succ_cons, List.flatMap_cons, List.count_append]
      omega

namespace Loop

/-- How many ends of unfinished tasks a waiting one will be told of. -/
def owed (loop : Loop Job) (id : TaskId) : Nat := (loop.tasks.flatMap Task.ahead).count (.count id)

/-- The ends that a waiting task is still to be told of, those included that it is about to be told of. -/
def debt (loop : Loop Job) (id : TaskId) : Nat := loop.ready.count (.count id) + loop.owed id

/-- Nothing happens to a task. -/
structure Aside (id : TaskId) (before after : Loop Job) : Prop where
  live : after.live? id = before.live? id
  debt : after.debt id = before.debt id
  runs : after.ready.count (.run id) = before.ready.count (.run id)

/-- No ready turn is lost, and no outcome. -/
structure Advances (before after : Loop Job) : Prop where
  ready : before.ready <+: after.ready
  remembers : Remembers before after

/-- Every fetch that goes on did so before, and was not cancelled then if it is not now. -/
structure Fewer (before after : Loop Job) : Prop where
  earlier : ∀ {id task}, after.live? id = some task → task.job.aim ≠ .other →
    ∃ old, before.live? id = some old ∧ old.job.aim ≠ .other ∧ (old.cancelled = true → task.cancelled = true)

variable {loop before between after : Loop Job} {id other : TaskId} {task : Task Job}

theorem live?_of_isLive (unfinished : loop.isLive id = true) : ∃ task, loop.live? id = some task := by
  unfold isLive at unfinished
  split at unfinished
  · rename_i task found
    exact ⟨task, live?_eq_some_iff.mpr ⟨found, Option.isNone_iff_eq_none.mp unfinished⟩⟩
  · cases unfinished

section Owed

variable {change : Task Job → Task Job}

theorem owed_modifyTask (found : loop.tasks[other]? = some task) :
    (loop.modifyTask other change).owed id + task.owes id = loop.owed id + (change task).owes id :=
  count_flatMap_modify found _ _

theorem owed_modifyTask_of_keeps (keeps : ∀ task, (change task).owes id = task.owes id) :
    (loop.modifyTask other change).owed id = loop.owed id := by
  cases found : loop.tasks[other]? with
  | none =>
    rw [owed, owed, modifyTask, List.modify_eq_self (List.getElem?_eq_none_iff.mp found)]
  | some task =>
    have sums : _ + task.owes id = _ + (change task).owes id := owed_modifyTask found
    rw [keeps] at sums
    omega

theorem debt_modifyTask_of_keeps (keeps : ∀ task, (change task).owes id = task.owes id) :
    (loop.modifyTask other change).debt id = loop.debt id :=
  congrArg (loop.ready.count (.count id) + ·) (owed_modifyTask_of_keeps keeps)

theorem debt_enqueue (loop : Loop Job) (id other : TaskId) : (loop.enqueue [.run other]).debt id = loop.debt id := by
  refine congrArg (· + loop.owed id) ?_
  simp [enqueue]

/-- A task is told of the end of a task that it begins to watch. -/
theorem debt_watch (live : loop.live? other = some task) : (loop.watch id other).debt id = loop.debt id + 1 := by
  obtain ⟨found, unended⟩ := live?_eq_some_iff.mp live
  have sums : (loop.watch id other).owed id + task.owes id = loop.owed id + _ := owed_modifyTask found
  have more : Task.owes id { task with watchers := task.watchers ++ [.count id] } = task.owes id + 1 := by
    simp [Task.owes, Task.ahead, unended]
  rw [more] at sums
  show loop.ready.count _ + _ = loop.ready.count _ + _ + 1
  omega

theorem isLive_modifyTask (keeps : ∀ task, (change task).outcome = task.outcome)
    (unfinished : loop.isLive id = true) : (loop.modifyTask other change).isLive id = true := by
  obtain ⟨task, live⟩ := live?_of_isLive unfinished
  by_cases same : other = id
  · subst same
    exact isLive_of_live? (live?_modifyTask_self keeps live)
  · exact isLive_of_live? ((live?_modifyTask_of_ne same).trans live)

theorem debt_watchAll {others : List TaskId} (unfinished : ∀ other ∈ others, loop.isLive other = true) :
    (others.foldl (watch id) loop).debt id = loop.debt id + others.length := by
  induction others generalizing loop with
  | nil => rfl
  | cons first rest ih =>
    obtain ⟨task, live⟩ := live?_of_isLive (unfinished first List.mem_cons_self)
    have told : (loop.watch id first).debt id = loop.debt id + 1 := debt_watch live
    have later : ∀ other ∈ rest, (loop.watch id first).isLive other = true := fun other inside =>
      isLive_modifyTask (by exact fun _ => rfl) (unfinished other (List.mem_cons_of_mem first inside))
    rw [List.foldl_cons, ih later, told, List.length_cons]
    omega

/-- A task that begins to wait for others will be told of the end of each. -/
theorem debt_awaitAll {others : List TaskId} (unfinished : ∀ other ∈ others, loop.isLive other = true) :
    (loop.awaitAll id others).debt id = loop.debt id + others.length := by
  have begun : (loop.modifyTask id fun task => { task with wait := .others others.length }).debt id =
      loop.debt id := debt_modifyTask_of_keeps fun _ => rfl
  rw [awaitAll_eq, debt_watchAll, begun]
  exact fun other inside => isLive_modifyTask (by exact fun _ => rfl) (unfinished other inside)

end Owed

section Cancel

theorem isLive_cancelAll (others : List TaskId) (unfinished : loop.isLive id = true) :
    (others.foldl cancel loop).isLive id = true := by
  refine foldl_keeps (R := fun before after => before.isLive id = true → after.isLive id = true) (fun _ same => same)
    (fun first second same => second (first same)) (fun loop other _ unfinished => ?_) loop unfinished
  cases live : loop.live? other with
  | none =>
    rw [cancel_of_not_live live]
    exact unfinished
  | some task =>
    rw [cancel_eq live]
    refine isLive_modifyTask (by exact fun _ => rfl) ?_
    split <;> exact unfinished

theorem ready_awaitAll (id : TaskId) (others : List TaskId) : (loop.awaitAll id others).ready = loop.ready := by
  rw [awaitAll_eq]
  refine foldl_keeps (R := fun before after => after.ready = before.ready) (fun _ => rfl)
    (fun first second => second.trans first) (fun _ _ _ => ?_) (loop.modifyTask id _)
  rfl

end Cancel

namespace Aside

theorem refl (id : TaskId) (loop : Loop Job) : Aside id loop loop := ⟨rfl, rfl, rfl⟩

theorem trans (first : Aside id before between) (second : Aside id between after) : Aside id before after :=
  ⟨second.live.trans first.live, second.debt.trans first.debt, second.runs.trans first.runs⟩

theorem modify {change : Task Job → Task Job} (differs : other ≠ id)
    (keeps : ∀ task, (change task).owes id = task.owes id) : Aside id loop (loop.modifyTask other change) :=
  ⟨live?_modifyTask_of_ne differs, debt_modifyTask_of_keeps keeps, rfl⟩

theorem enqueue (differs : other ≠ id) : Aside id loop (loop.enqueue [.run other]) := by
  refine ⟨rfl, debt_enqueue loop id other, ?_⟩
  simp [Loop.enqueue, differs]

theorem finish (live : loop.live? other = some task) (differs : other ≠ id)
    (watchers : ∀ watcher ∈ task.watchers, watcher = .strike ∨ ∃ waiter, watcher = .count waiter)
    (outcome : Outcome) : Aside id loop (loop.finish other outcome) := by
  obtain ⟨found, unended⟩ := live?_eq_some_iff.mp live
  have told (watcher : Watcher) : (task.watchers.map (Watcher.turn other)).count (Watcher.turn other watcher) =
      task.watchers.count watcher := List.count_map_of_injective _ _ (Watcher.turn_injective other) _
  have runs : task.watchers.count (.resume id) = 0 := by
    refine List.count_eq_zero.mpr fun inside => ?_
    rcases watchers _ inside with same | ⟨_, same⟩ <;> cases same
  refine ⟨live?_finish_of_ne live outcome differs, ?_, ?_⟩
  · have sums : (loop.modifyTask other fun task => { task with outcome := some outcome }).owed id + task.owes id =
        loop.owed id + Task.owes id { task with outcome := some outcome } := owed_modifyTask found
    have owes : task.owes id = task.watchers.count (.count id) := by simp [Task.owes, Task.ahead, unended]
    have free : Task.owes id { task with outcome := some outcome } = 0 := rfl
    rw [free, owes] at sums
    rw [finish_eq live]
    show (loop.ready ++ _).count (Watcher.turn other (.count id)) + _ = loop.ready.count (.count id) + _
    rw [List.count_append, told]
    show loop.ready.count (.count id) + _ + (Loop.modifyTask loop other _).owed id = _
    omega
  · rw [finish_eq live]
    show (loop.ready ++ _).count (Watcher.turn other (.resume id)) = _
    rw [List.count_append, told, runs]
    rfl

theorem spawn (inside : id < loop.tasks.length) (job : Job) {watchers : List Watcher}
    (strikes : ∀ watcher ∈ watchers, watcher = .strike) : Aside id loop (loop.spawn job watchers).2 := by
  have free : watchers.count (.count id) = 0 := by
    refine List.count_eq_zero.mpr fun member => ?_
    cases strikes _ member
  refine ⟨?_, ?_, ?_⟩
  · rw [live?, live?]
    exact congrArg _ (List.getElem?_append_left inside)
  · show (loop.ready ++ _).count _ + ((loop.tasks ++ _).flatMap Task.ahead).count _ = _
    rw [List.count_append, List.flatMap_append, List.count_append]
    simp [Task.ahead, free, Loop.debt, Loop.owed]
  · show (loop.ready ++ _).count _ = _
    rw [List.count_append]
    simp [Nat.ne_of_gt inside]

theorem cancel (differs : other ≠ id) : Aside id loop (loop.cancel other) :=
  cancel_keeps (refl id) trans (fun _ => .modify differs fun _ => rfl) (fun _ => .enqueue differs) loop

theorem watch {waiter : TaskId} (differs : other ≠ id) (apart : waiter ≠ id) :
    Aside id loop (loop.watch waiter other) := by
  refine .modify differs fun task => ?_
  cases ended : task.outcome <;> simp [Task.owes, Task.ahead, ended, apart]

theorem awaitAll {waiter : TaskId} {others : List TaskId} (apart : waiter ≠ id)
    (differ : ∀ other ∈ others, other ≠ id) : Aside id loop (loop.awaitAll waiter others) := by
  have begun : Aside id loop (loop.modifyTask waiter fun task => { task with wait := .others others.length }) :=
    .modify apart fun _ => rfl
  exact begun.trans (foldl_keeps (refl id) trans (fun _ _ inside => .watch (differ _ inside) apart) _)

theorem sleep (differs : other ≠ id) (delay : Binary64) : Aside id loop (loop.sleep other delay) := by
  unfold Loop.sleep
  split
  · have waiting : Aside id loop (loop.modifyTask other fun task => { task with wait := .timer }) :=
      .modify differs fun _ => rfl
    exact ⟨waiting.live, waiting.debt, waiting.runs⟩
  · exact .enqueue differs

end Aside

namespace Advances

theorem refl (loop : Loop Job) : Advances loop loop := ⟨List.prefix_rfl, .refl loop⟩

theorem trans (first : Advances before between) (second : Advances between after) : Advances before after :=
  ⟨first.ready.trans second.ready, first.remembers.trans second.remembers⟩

theorem modify {change : Task Job → Task Job} (keeps : ∀ task, (change task).outcome = task.outcome) (id : TaskId) :
    Advances loop (loop.modifyTask id change) :=
  ⟨List.prefix_rfl, remembers_modifyTask keeps id⟩

theorem enqueue (turns : List Turn) : Advances loop (loop.enqueue turns) :=
  ⟨List.prefix_append _ _, .refl loop⟩

theorem finish (live : loop.live? id = some task) (outcome : Outcome) : Advances loop (loop.finish id outcome) := by
  refine ⟨?_, remembers_finish live outcome⟩
  rw [finish_eq live]
  exact List.prefix_append _ _

theorem spawn (job : Job) (watchers : List Watcher) : Advances loop (loop.spawn job watchers).2 :=
  ⟨List.prefix_append _ _, remembers_spawn loop job watchers⟩

theorem sleep (id : TaskId) (delay : Binary64) : Advances loop (loop.sleep id delay) := by
  refine ⟨?_, (loop.continues_sleep id delay).remembers⟩
  unfold Loop.sleep
  split
  · exact List.prefix_rfl
  · exact List.prefix_append _ _

theorem cancel (id : TaskId) : Advances loop (loop.cancel id) :=
  cancel_keeps refl trans (fun _ => .modify (by exact fun _ => rfl) id) (fun _ => .enqueue _) loop

theorem awaitAll (id : TaskId) (others : List TaskId) : Advances loop (loop.awaitAll id others) := by
  rw [awaitAll_eq]
  refine .trans (.modify (by exact fun _ => rfl) id) (foldl_keeps refl trans (fun _ other _ => ?_) _)
  exact .modify (by exact fun _ => rfl) other

end Advances

namespace Fewer

theorem refl (loop : Loop Job) : Fewer loop loop := ⟨fun live aims => ⟨_, live, aims, fun same => same⟩⟩

theorem enqueue (turns : List Turn) : Fewer loop (loop.enqueue turns) := ⟨(refl loop).earlier⟩

theorem trans (first : Fewer before between) (second : Fewer between after) : Fewer before after := by
  refine ⟨fun live aims => ?_⟩
  obtain ⟨middle, live, aims, later⟩ := second.earlier live aims
  obtain ⟨old, live, aims, sooner⟩ := first.earlier live aims
  exact ⟨old, live, aims, later ∘ sooner⟩

theorem modify {change : Task Job → Task Job} (keeps : ∀ task, (change task).outcome = task.outcome)
    (fewer : ∀ task, (change task).job.aim ≠ .other →
      task.job.aim ≠ .other ∧ (task.cancelled = true → (change task).cancelled = true)) (id : TaskId) :
    Fewer loop (loop.modifyTask id change) := by
  refine ⟨fun {other task} live aims => ?_⟩
  rcases live?_modifyTask_cases keeps live with ⟨rfl, old, before, rfl⟩ | ⟨_, before⟩
  · exact ⟨old, before, fewer old aims⟩
  · exact ⟨task, before, aims, fun same => same⟩

theorem finish (live : loop.live? id = some task) (outcome : Outcome) : Fewer loop (loop.finish id outcome) :=
  ⟨fun after aims => ⟨_, (live?_finish_cases live after).2, aims, fun same => same⟩⟩

theorem cancel (id : TaskId) : Fewer loop (loop.cancel id) :=
  cancel_keeps refl trans
    (fun _ => .modify (by exact fun _ => rfl) (by exact fun _ aims => ⟨aims, fun _ => rfl⟩) id) (fun _ => .enqueue _) loop

theorem awaitAll (id : TaskId) (others : List TaskId) : Fewer loop (loop.awaitAll id others) := by
  rw [awaitAll_eq]
  refine .trans (.modify (by exact fun _ => rfl) (by exact fun _ aims => ⟨aims, fun same => same⟩) id)
    (foldl_keeps refl trans (fun _ other _ => ?_) _)
  exact .modify (by exact fun _ => rfl) (by exact fun _ aims => ⟨aims, fun same => same⟩) other

/-- If all fetches that go on were cancelled they still are. -/
theorem calm (fewer : Fewer before after) (calm : before.Calm) : after.Calm := by
  intro id task live aims
  obtain ⟨old, live, aims, cancelled⟩ := fewer.earlier live aims
  exact cancelled (calm live aims)

end Fewer

end Loop

open Loop (Advances Aside Fewer)

section Turns

variable {loop after : Loop Job} {records later : Records} {closer : Option TaskId} {id other : TaskId}
  {task : Task Job} {turn : Turn}

theorem Works.advances (live : loop.live? id = some task) (works : Works loop records id task.job after later) :
    Advances loop after := by
  cases works with
  | ends => exact .finish live .done
  | sleeps => exact .trans (.sleep id _) (.modify (by exact fun _ => rfl) id)
  | hangs => exact .trans (.modify (by exact fun _ => rfl) id) (.modify (by exact fun _ => rfl) id)
  | stays => exact .modify (by exact fun _ => rfl) id
  | sends => exact .trans (.spawn _ _) (.finish (Loop.live?_spawn _ _ live) .done)
  | waits => exact .awaitAll id _
  | @cancels fetches =>
    have cancelled : Advances loop (fetches.foldl Loop.cancel loop) :=
      Loop.foldl_keeps .refl .trans (fun _ other _ => .cancel other) loop
    exact (cancelled.trans (.awaitAll id fetches)).trans (.modify (by exact fun _ => rfl) id)
  | closes => exact .finish live .done

/-- No turn makes an outcome forgotten or takes another turn away. -/
theorem Turned.advances (turned : Turned loop records turn after later) : Advances loop after := by
  cases turned with
  | nothing => exact .refl loop
  | ends live _ => exact .finish live .cancelled
  | works live _ works => exact works.advances live
  | wakes => exact .trans (.enqueue _) (.modify (by exact fun _ => rfl) _)
  | counts => exact .modify (by exact fun _ => rfl) _
  | strikes => exact .refl loop

/-- A task that is no fetch starts none and brings none back. -/
theorem Works.fewer (live : loop.live? id = some task) (aims : task.job.aim = .other)
    (works : Works loop records id task.job after later) : Fewer loop after := by
  cases works with
  | ends => exact .finish live .done
  | sleeps fetches => exact absurd aims fetches
  | hangs fetches => exact absurd aims fetches
  | stays hangs => cases (Job.hangs_of_aim aims).symm.trans hangs
  | sends fetches => cases aims.symm.trans fetches
  | waits => exact .awaitAll id _
  | @cancels fetches =>
    have cancelled : Fewer loop (fetches.foldl Loop.cancel loop) :=
      Loop.foldl_keeps .refl .trans (fun _ other _ => .cancel other) loop
    refine (cancelled.trans (.awaitAll id fetches)).trans (.modify (by exact fun _ => rfl) ?_ id)
    exact fun _ aims => absurd rfl aims
  | closes => exact .finish live .done

/-- When all fetches that go on were cancelled no other is started. -/
theorem Turned.fewer (turned : Turned loop records turn after later) (calm : loop.Calm) : Fewer loop after := by
  cases turned with
  | nothing => exact .refl loop
  | ends live _ => exact .finish live .cancelled
  | works live kept works =>
    refine works.fewer live ?_
    by_contra aims
    cases kept.symm.trans (calm live aims)
  | wakes =>
    exact .trans (.enqueue _) (.modify (by exact fun _ => rfl) (by exact fun _ aims => ⟨aims, fun same => same⟩) _)
  | counts => exact .modify (by exact fun _ => rfl) (by exact fun _ aims => ⟨aims, fun same => same⟩) _
  | strikes => exact .refl loop

/-- What one task does is nothing to the task that closes the service. -/
theorem Works.aside (fit : Fit loop.tasks.length records (some id) other task)
    (live : loop.live? other = some task) (differs : other ≠ id) (inside : id < loop.tasks.length)
    (unlisted : ¬records.Lists id) (works : Works loop records other task.job after later) : Aside id loop after := by
  have watchers : ∀ watcher ∈ task.watchers, watcher = .strike ∨ ∃ waiter, watcher = .count waiter :=
    fun watcher member => (fit.watchers watcher member).imp_right fun ⟨waiter, _, same⟩ => ⟨waiter, same⟩
  cases works with
  | ends => exact .finish live differs watchers .done
  | sleeps => exact .trans (.sleep differs _) (.modify differs fun _ => rfl)
  | @hangs call =>
    have waiting : Aside id loop (loop.await other call) := .modify differs fun _ => rfl
    exact waiting.trans (.modify differs fun _ => rfl)
  | stays => exact .modify differs fun _ => rfl
  | @sends asked =>
    have sent : Aside id loop (loop.spawn (.request asked .unsent) [.strike]).2 :=
      .spawn inside _ fun _ => List.mem_singleton.mp
    exact sent.trans (.finish (Loop.live?_spawn _ _ live) differs watchers .done)
  | waits _ _ lists =>
    refine .awaitAll differs fun fetch member => ?_
    rintro rfl
    exact unlisted (lists _ member).1
  | cancels closes => cases fit.closing _ closes; exact absurd rfl differs
  | closes => exact .finish live differs watchers .done

/-- A turn of another task is nothing to the task that closes the service, and no timer wakes it. -/
theorem Turned.aside {rest : List Turn} (orderly : Orderly loop records (some id) none)
    (taken : loop.ready = turn :: rest) (differs : turn.taker? ≠ some id) (inside : id < loop.tasks.length)
    (unlisted : ¬records.Lists id) (awake : ∀ task, loop.tasks[id]? = some task → task.wait ≠ .timer)
    (turned : Turned { loop with ready := rest } records turn after later) :
    Aside id { loop with ready := rest } after := by
  cases turned with
  | nothing => exact .refl id _
  | @ends acting task live =>
    have apart : acting ≠ id := fun same => differs (congrArg some same)
    exact .finish live apart (fun watcher member => ((orderly.fit live).watchers watcher member).imp_right
      fun ⟨waiting, _, same⟩ => ⟨waiting, same⟩) .cancelled
  | @works acting task _ _ live kept works =>
    have apart : acting ≠ id := fun same => differs (congrArg some same)
    exact works.aside (orderly.fit live) live apart inside unlisted
  | @wakes _ woken task found cause =>
    have apart : woken ≠ id := by
      rintro rfl
      rcases cause with ⟨rfl, timer⟩ | ⟨rfl, _⟩
      · exact awake task found timer
      · exact differs rfl
    exact .trans (.enqueue apart) (.modify apart fun _ => rfl)
  | @counts waiting task left found waits =>
    exact .modify (fun same => differs (congrArg some same)) fun _ => rfl
  | strikes => exact .refl id _

end Turns

end QueryCompletion
