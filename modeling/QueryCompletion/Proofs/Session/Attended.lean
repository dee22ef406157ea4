import QueryCompletion.Proofs.Session.Tasks

/-!
One task that waits for the fetches of a session while at most one other task works on a fetch. What is
ready is known up to its order, so nothing here depends on the order in which the two take their turns.
-/

namespace QueryCompletion

open Loop (Watcher.turn)

/-- Where a task stands that works on a fetch: ready, about to be woken, or asleep. -/
inductive Readiness where
  | ready
  | rung
  | timed (due : Instant)

namespace Readiness

def wait : Readiness → Wait
  | ready => .turn
  | rung | timed _ => .timer

def turns (id : TaskId) : Readiness → List Turn
  | ready => [.run id]
  | rung => [.elapse id]
  | timed _ => []

def timers (id : TaskId) : Readiness → Timers
  | timed due => [⟨due, id⟩]
  | ready | rung => []

/-- Where a delay leads a task. -/
def behind (now : Instant) (delay : Binary64) : Readiness :=
  if delay.isPositive then timed (Instant.after now delay) else ready

end Readiness

/-- A task that works on a fetch. -/
structure Loader where
  id : TaskId
  job : Job
  readiness : Readiness := .ready
  watchers : List Watcher := []

namespace Loader

/-- The task as the loop has it, with further watchers. -/
def task (loader : Loader) (further : List Watcher) : Task Job :=
  { job := loader.job, wait := loader.readiness.wait, watchers := loader.watchers ++ further }

end Loader

/-- How far a task has come that waits for the fetches: it is ready to look, it has been told of an end, it
watches the task that works on a fetch, or it has found nothing to wait for. -/
inductive Vigil where
  | ready
  | counting
  | watching
  | ended

namespace Vigil

def wait : Vigil → Wait
  | ready | ended => .turn
  | counting | watching => .others 1

def turns (waiter : TaskId) : Vigil → List Turn
  | ready => [.run waiter]
  | counting => [.count waiter]
  | watching | ended => []

def watchers (waiter : TaskId) : Vigil → List Watcher
  | watching => [.count waiter]
  | ready | counting | ended => []

/-- After the task that was worked on has ended. -/
def released : Vigil → Vigil
  | watching => counting
  | vigil => vigil

theorem turns_released (vigil : Vigil) (waiter id : TaskId) :
    vigil.turns waiter ++ (vigil.watchers waiter).map (Watcher.turn id) = vigil.released.turns waiter := by
  cases vigil <;> rfl

end Vigil

/-- One task waits and at most one works; the turns given are those that are ready, in some order. -/
structure Attended (loop : Loop Job) (waiter : TaskId) (vigil : Vigil) (loader : Option Loader)
    (turns : List Turn) : Prop where
  running : loop.running = true
  waiting : vigil ≠ .ended → loop.live? waiter = some { job := .idle, wait := vigil.wait }
  finished : vigil = .ended → loop.outcome? waiter = some .done ∧ loader = none
  working : ∀ worker, loader = some worker →
    worker.id ≠ waiter ∧ loop.live? worker.id = some (worker.task (vigil.watchers waiter))
  watched : vigil = .watching → loader.isSome = true
  timers : loop.timers = loader.elim [] fun worker => worker.readiness.timers worker.id
  ready : loop.ready.Perm turns

namespace Attended

variable {loop : Loop Job} {waiter : TaskId} {vigil : Vigil} {loader : Option Loader} {worker : Loader}
  {turns : List Turn}

/-- Only the tasks, the timers and what is ready matter. -/
theorem keep {other : Loop Job} {others : List Turn} (attended : Attended loop waiter vigil loader turns)
    (running : other.running = loop.running) (tasks : other.tasks = loop.tasks)
    (timers : other.timers = loop.timers) (ready : other.ready.Perm others) :
    Attended other waiter vigil loader others := by
  have live : ∀ id, other.live? id = loop.live? id := fun id => by rw [Loop.live?, Loop.live?, tasks]
  have outcome : ∀ id, other.outcome? id = loop.outcome? id := fun id => by rw [Loop.outcome?, Loop.outcome?, tasks]
  refine ⟨running.trans attended.running, ?_, ?_, ?_, attended.watched, timers.trans attended.timers, ready⟩
  · rw [live]
    exact attended.waiting
  · rw [outcome]
    exact attended.finished
  · intro worker same
    rw [live]
    exact attended.working worker same

theorem perm {others : List Turn} (attended : Attended loop waiter vigil loader turns)
    (same : turns.Perm others) : Attended loop waiter vigil loader others :=
  attended.keep rfl rfl rfl (attended.ready.trans same)

/-- The first ready turn is taken. -/
theorem take {next : Turn} {rest left : List Turn} (attended : Attended loop waiter vigil loader turns)
    (first : loop.ready = next :: rest) (same : turns.Perm (next :: left)) :
    Attended { loop with ready := rest } waiter vigil loader left :=
  attended.keep rfl rfl rfl ((first ▸ attended.ready).trans same).cons_inv

theorem enqueue (attended : Attended loop waiter vigil loader turns) (more : List Turn) :
    Attended (loop.enqueue more) waiter vigil loader (turns ++ more) :=
  attended.keep rfl rfl rfl (attended.ready.append_right more)

/-- The clock is moved on. -/
theorem passTo (attended : Attended loop waiter vigil loader turns) (time : Instant) :
    Attended (loop.passTo time) waiter vigil loader turns :=
  attended.keep rfl rfl rfl attended.ready

theorem waiter_lt (attended : Attended loop waiter vigil loader turns) : waiter < loop.tasks.length := by
  by_cases ended : vigil = .ended
  · exact Loop.lt_length_of_outcome? (attended.finished ended).1
  · exact Loop.lt_length_of_live? (attended.waiting ended)

theorem not_ended (attended : Attended loop waiter vigil (some worker) turns) : vigil ≠ .ended :=
  fun ended => nomatch (attended.finished ended).2

/-- A change of the working task that does not end it. -/
theorem modify {change : Task Job → Task Job} {changed : Loader}
    (attended : Attended loop waiter vigil (some worker) turns)
    (keeps : ∀ task, (change task).outcome = task.outcome) (id : changed.id = worker.id)
    (becomes : change (worker.task (vigil.watchers waiter)) = changed.task (vigil.watchers waiter))
    (stays : changed.readiness.timers worker.id = worker.readiness.timers worker.id) :
    Attended (loop.modifyTask worker.id change) waiter vigil (some changed) turns := by
  obtain ⟨apart, live⟩ := attended.working worker rfl
  refine ⟨attended.running, fun unended => ?_, fun ended => absurd ended attended.not_ended, ?_,
    fun _ => rfl, ?_, attended.ready⟩
  · rw [Loop.live?_modifyTask_of_ne apart]
    exact attended.waiting unended
  · rintro _ ⟨⟩
    rw [id]
    exact ⟨apart, becomes ▸ Loop.live?_modifyTask_self keeps live⟩
  · refine attended.timers.trans ?_
    show worker.readiness.timers worker.id = changed.readiness.timers changed.id
    rw [id, stays]

/-- The working task goes on with another job. -/
theorem setJob (attended : Attended loop waiter vigil (some worker) turns) (job : Job) :
    Attended (loop.modifyTask worker.id fun task => { task with job }) waiter vigil
      (some { worker with job }) turns :=
  attended.modify (fun _ => rfl) rfl rfl rfl

/-- The working task waits for a delay. -/
theorem sleep (attended : Attended loop waiter vigil (some worker) turns) (acting : worker.readiness = .ready)
    (delay : Binary64) :
    Attended (loop.sleep worker.id delay) waiter vigil
      (some { worker with readiness := .behind loop.now delay })
      (turns ++ (Readiness.behind loop.now delay).turns worker.id) := by
  obtain ⟨apart, live⟩ := attended.working worker rfl
  have timers : loop.timers = [] := by
    rw [attended.timers, Option.elim_some, acting]
    rfl
  unfold Loop.sleep Readiness.behind
  split
  · refine ⟨attended.running, fun unended => ?_, fun ended => absurd ended attended.not_ended, ?_,
      fun _ => rfl, ?_, ?_⟩
    · exact (Loop.live?_modifyTask_of_ne apart).trans (attended.waiting unended)
    · rintro _ ⟨⟩
      refine ⟨apart, Loop.live?_modifyTask_self ?_ live⟩
      exact fun _ => rfl
    · show loop.timers.push _ = _
      rw [timers]
      rfl
    · show loop.ready.Perm (turns ++ [])
      rw [List.append_nil]
      exact attended.ready
  · have same : { worker with readiness := .ready } = worker := by rw [← acting]
    rw [same]
    exact attended.enqueue [.run worker.id]

/-- The timer of the working task has run out. -/
theorem elapse (attended : Attended loop waiter vigil (some worker) turns) (rung : worker.readiness = .rung) :
    Attended (loop.elapse worker.id) waiter vigil (some { worker with readiness := .ready })
      (turns ++ [.run worker.id]) := by
  obtain ⟨_, live⟩ := attended.working worker rfl
  have asleep : (worker.task (vigil.watchers waiter)).wait = .timer := by
    rw [Loader.task, rung]
    rfl
  have woken : Attended (loop.modifyTask worker.id fun task => { task with wait := .turn }) waiter vigil
      (some { worker with readiness := .ready }) turns := by
    refine attended.modify (fun _ => rfl) rfl rfl ?_
    rw [rung]
    rfl
  rw [Loop.elapse, (Loop.live?_eq_some_iff.mp live).1]
  dsimp only
  rw [if_pos asleep]
  exact woken.enqueue [.run worker.id]

/-- The working task ends and its watchers take their turns. -/
theorem finish (attended : Attended loop waiter vigil (some worker) turns) (acting : worker.readiness = .ready)
    (outcome : Outcome) :
    Attended (loop.finish worker.id outcome) waiter vigil.released none
      (turns ++ (worker.watchers ++ vigil.watchers waiter).map (Watcher.turn worker.id)) := by
  obtain ⟨apart, live⟩ := attended.working worker rfl
  have unended := attended.not_ended
  have ended_eq := Loop.finish_eq live outcome
  refine ⟨?_, fun _ => ?_, fun ended => ?_, (fun _ absent => nomatch absent), fun watching => ?_, ?_, ?_⟩
  · rw [ended_eq]
    exact attended.running
  · rw [Loop.live?_finish_of_ne live outcome apart, attended.waiting unended]
    cases vigil <;> rfl
  · cases vigil <;> first | exact absurd rfl unended | cases ended
  · cases vigil <;> cases watching
  · rw [ended_eq]
    show loop.timers = []
    rw [attended.timers, Option.elim_some, acting]
    rfl
  · rw [ended_eq]
    exact attended.ready.append_right _

/-- Some task is started. -/
theorem spawn (attended : Attended loop waiter vigil loader turns) (job : Job) (watchers : List Watcher) :
    Attended (loop.spawn job watchers).2 waiter vigil loader (turns ++ [.run loop.tasks.length]) :=
  { running := attended.running
    waiting := fun unended => Loop.live?_spawn job watchers (attended.waiting unended)
    finished := fun ended =>
      ⟨Loop.outcome?_spawn job watchers (attended.finished ended).1, (attended.finished ended).2⟩
    working := fun worker same =>
      ⟨(attended.working worker same).1, Loop.live?_spawn job watchers (attended.working worker same).2⟩
    watched := attended.watched
    timers := attended.timers
    ready := attended.ready.append_right _ }

/-- A task that was started becomes the working one. -/
theorem adopt (attended : Attended loop waiter vigil none turns) (unended : vigil ≠ .ended)
    (acting : worker.readiness = .ready) (apart : worker.id ≠ waiter)
    (live : loop.live? worker.id = some (worker.task [])) :
    Attended loop waiter vigil (some worker) turns := by
  have unwatched : vigil.watchers waiter = [] := by
    cases vigil with
    | watching => exact nomatch attended.watched rfl
    | ready | counting | ended => rfl
  refine ⟨attended.running, attended.waiting, fun ended => absurd ended unended, ?_, fun _ => rfl, ?_,
    attended.ready⟩
  · rintro _ ⟨⟩
    rw [unwatched]
    exact ⟨apart, live⟩
  · rw [attended.timers, Option.elim_some, acting]
    rfl

/-- The working task starts another one that works in its place, and ends. -/
theorem handOver (attended : Attended loop waiter vigil (some worker) turns) (acting : worker.readiness = .ready)
    (outcome : Outcome) (job : Job) (watchers : List Watcher) :
    Attended ((loop.spawn job watchers).2.finish worker.id outcome) waiter vigil.released
      (some { id := loop.tasks.length, job, watchers })
      (turns ++ [.run loop.tasks.length] ++
        (worker.watchers ++ vigil.watchers waiter).map (Watcher.turn worker.id)) := by
  obtain ⟨_, live⟩ := attended.working worker rfl
  have unended := attended.not_ended
  have here := Loop.lt_length_of_live? live
  have below := attended.waiter_lt
  -- The new task is adopted only after the old one has ended: there is never more than one.
  refine ((attended.spawn job watchers).finish acting outcome).adopt ?_ rfl (Nat.ne_of_gt below) ?_
  · cases vigil <;> first | exact absurd rfl unended | exact nofun
  · rw [Loop.live?_finish_of_ne (Loop.live?_spawn job watchers live) outcome (Nat.ne_of_lt here),
      Loop.live?_spawn_self]
    simp [Loader.task, Readiness.wait]

/-- The waiting task begins to wait for the end of the working one. -/
theorem watch (attended : Attended loop waiter .ready (some worker) turns) :
    Attended (loop.awaitAll waiter [worker.id]) waiter .watching (some worker) turns := by
  obtain ⟨apart, live⟩ := attended.working worker rfl
  refine ⟨attended.running, fun _ => ?_, nofun, ?_, fun _ => rfl, attended.timers, attended.ready⟩
  · refine (Loop.live?_modifyTask_of_ne apart).trans ?_
    refine Loop.live?_modifyTask_self ?_ (attended.waiting nofun)
    exact fun _ => rfl
  · rintro _ ⟨⟩
    refine ⟨apart, ?_⟩
    have kept : (loop.modifyTask waiter fun task => { task with wait := .others 1 }).live? worker.id = _ :=
      (Loop.live?_modifyTask_of_ne (Ne.symm apart)).trans live
    refine (Loop.live?_modifyTask_self ?_ kept).trans ?_
    · exact fun _ => rfl
    · simp [Loader.task, Vigil.watchers]

/-- The waiting task finds nothing to wait for. -/
theorem endWait (attended : Attended loop waiter .ready none turns) :
    Attended (loop.finish waiter .done) waiter .ended none turns := by
  have live := attended.waiting nofun
  have ended_eq := Loop.finish_eq live .done
  refine ⟨?_, fun unended => absurd rfl unended, fun _ => ⟨Loop.outcome?_finish_self live .done, rfl⟩,
    (fun _ absent => nomatch absent), nofun, ?_, ?_⟩
  · rw [ended_eq]
    exact attended.running
  · rw [ended_eq]
    exact attended.timers
  · rw [ended_eq]
    simpa [Loop.enqueue, Loop.modifyTask] using attended.ready

/-- The waiting task is told that the task it watched has ended. -/
theorem countDown (attended : Attended loop waiter .counting loader turns) :
    Attended (loop.countDown waiter) waiter .ready loader (turns ++ [.run waiter]) := by
  have live := attended.waiting nofun
  have woken : Attended (loop.modifyTask waiter fun task => { task with wait := .turn }) waiter .ready loader
      turns := by
    refine ⟨attended.running, fun _ => ?_, nofun, ?_, nofun, attended.timers, attended.ready⟩
    · refine Loop.live?_modifyTask_self ?_ live
      exact fun _ => rfl
    · intro worker same
      obtain ⟨apart, working⟩ := attended.working worker same
      exact ⟨apart, (Loop.live?_modifyTask_of_ne (Ne.symm apart)).trans working⟩
  rw [Loop.countDown, (Loop.live?_eq_some_iff.mp live).1]
  exact woken.enqueue [.run waiter]

/-- A task begins to wait while no timer is set. -/
theorem begin {turns : List Turn} (running : loop.running = true) (timers : loop.timers = [])
    (ready : loop.ready.Perm turns) :
    Attended (loop.spawn .idle []).2 loop.tasks.length .ready none (turns ++ [.run loop.tasks.length]) :=
  { running
    waiting := fun _ => loop.live?_spawn_self .idle []
    finished := nofun
    working := fun _ absent => nomatch absent
    watched := nofun
    timers
    ready := ready.append_right _ }

/-- The timer of the working task, if it sleeps, is the only one. -/
theorem timers_cases (attended : Attended loop waiter vigil loader turns) :
    loop.timers = [] ∨
      ∃ worker due, loader = some worker ∧ worker.readiness = .timed due ∧ loop.timers = [⟨due, worker.id⟩] := by
  rw [attended.timers]
  cases loader with
  | none => exact Or.inl rfl
  | some worker =>
    cases stays : worker.readiness with
    | ready => exact Or.inl (by rw [Option.elim_some, stays]; rfl)
    | rung => exact Or.inl (by rw [Option.elim_some, stays]; rfl)
    | timed due => exact Or.inr ⟨worker, due, rfl, stays, by rw [Option.elim_some, stays]; rfl⟩

/-- At the start of a round the working task is woken if its time has come, as far as the clock can tell. -/
theorem startRound_cases (attended : Attended loop waiter vigil loader turns) :
    loop.startRound = loop ∧
        (∀ timer ∈ loop.timers, ¬ timer.due < Instant.after loop.now Instant.resolution) ∨
      ∃ worker due, loader = some worker ∧ worker.readiness = .timed due ∧
        due < Instant.after loop.now Instant.resolution ∧
        Attended loop.startRound waiter vigil (some { worker with readiness := .rung })
          (turns ++ [.elapse worker.id]) := by
  rcases attended.timers_cases with none | ⟨worker, due, rfl, timed, single⟩
  · refine Or.inl ⟨?_, by simp [none]⟩
    obtain ⟨running, now, ready, timers, tasks⟩ := loop
    cases none
    simp [Loop.startRound, Timers.popWhile]
  · obtain ⟨apart, live⟩ := attended.working worker rfl
    have wakes : loop.wakes ⟨due, worker.id⟩ = true := Loop.isLive_of_live? live
    by_cases late : due < Instant.after loop.now Instant.resolution
    · have started : loop.startRound = { loop with timers := [], ready := loop.ready ++ [.elapse worker.id] } := by
        simp [Loop.startRound, single, Timers.popWhile, Timers.pop?, wakes, late]
      refine Or.inr ⟨worker, due, rfl, timed, late, ?_⟩
      rw [started]
      refine ⟨attended.running, attended.waiting, fun ended => absurd ended attended.not_ended, ?_, fun _ => rfl,
        rfl, attended.ready.append_right _⟩
      rintro _ ⟨⟩
      refine ⟨apart, ?_⟩
      rw [Loader.task, timed] at live
      exact live
    · refine Or.inl ⟨?_, by simpa [single] using late⟩
      obtain ⟨running, now, ready, timers, tasks⟩ := loop
      cases single
      simp [Loop.startRound, Timers.popWhile, Timers.pop?, wakes, late]

/-- The clock is next moved on to where the working task wakes. -/
theorem nextTimer?_of_timed {due : Instant} (attended : Attended loop waiter vigil (some worker) turns)
    (timed : worker.readiness = .timed due) : loop.nextTimer? = some due := by
  have wakes : loop.wakes ⟨due, worker.id⟩ = true := Loop.isLive_of_live? (attended.working worker rfl).2
  have single : loop.timers = [⟨due, worker.id⟩] := by
    rw [attended.timers, Option.elim_some, timed]
    rfl
  simp [Loop.nextTimer?, Timers.next?, single, wakes]

end Attended

end QueryCompletion
