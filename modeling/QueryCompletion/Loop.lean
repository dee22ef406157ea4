import QueryCompletion.Failure
import QueryCompletion.Timers

/-!
A single-threaded event loop on a clock of its own. Tasks take turns: a turn runs a task up to the
point where it waits for a timer, an answer or other tasks. Turns run first in, first out, in
rounds: at the start of a round the timers that are due become ready, and what is ready then takes
its turn. Time passes only when it is moved on.
-/

namespace QueryCompletion

/-- How a task ended. -/
inductive Outcome where
  | done
  | answered (result : Bool)
  | failed (failure : Failure)
  | cancelled
deriving DecidableEq, Repr

/-- What a task that has not ended waits for. -/
inductive Wait where
  | turn
  | timer
  | answer (call : Nat)
  | others (count : Nat)
deriving DecidableEq, Repr

/-- What is to be done when a task has ended. -/
inductive Watcher where
  /-- A task goes on. -/
  | resume (task : TaskId)
  /-- A task that waits for several others has one less to wait for. -/
  | count (task : TaskId)
  /-- The ended task is struck off the requests in flight. -/
  | strike
deriving DecidableEq, Repr

/-- Work that is ready to be done. -/
inductive Turn where
  | run (task : TaskId)
  | elapse (task : TaskId)
  | count (task : TaskId)
  | strike (task : TaskId)
deriving DecidableEq, Repr

structure Task (Job : Type) where
  job : Job
  wait : Wait := .turn
  cancelled : Bool := false
  watchers : List Watcher := []
  outcome : Option Outcome := none

structure Loop (Job : Type) where
  /-- Without a running loop no task can be started. -/
  running : Bool := true
  now : Instant := 0
  ready : List Turn := []
  timers : Timers := []
  tasks : List (Task Job) := []

namespace Loop

variable {Job : Type}

/-- The outcome of a task that has ended. -/
def outcome? (loop : Loop Job) (id : TaskId) : Option Outcome := loop.tasks[id]?.bind Task.outcome

/-- Whether a task has been started and has not ended. -/
def isLive (loop : Loop Job) (id : TaskId) : Bool :=
  match loop.tasks[id]? with
  | some task => task.outcome.isNone
  | none => false

def modifyTask (loop : Loop Job) (id : TaskId) (change : Task Job → Task Job) : Loop Job :=
  { loop with tasks := loop.tasks.modify id change }

def enqueue (loop : Loop Job) (turns : List Turn) : Loop Job :=
  { loop with ready := loop.ready ++ turns }

/-- Starts a task; its first turn comes behind all work that is ready. -/
def spawn (loop : Loop Job) (job : Job) (watchers : List Watcher) : TaskId × Loop Job :=
  let id := loop.tasks.length
  (id, { loop with
    tasks := loop.tasks ++ [{ job, watchers }]
    ready := loop.ready ++ [.run id] })

/-- The turn that a watcher of an ended task takes. -/
def Watcher.turn (ended : TaskId) : Watcher → Turn
  | .resume task => .run task
  | .count task => .count task
  | .strike => .strike ended

/-- Ends a task. -/
def finish (loop : Loop Job) (id : TaskId) (outcome : Outcome) : Loop Job :=
  match loop.tasks[id]? with
  | some task =>
    (loop.modifyTask id fun task => { task with outcome := some outcome }).enqueue
      (task.watchers.map (Watcher.turn id))
  | none => loop

/-- Asks a task to end. It does so at its next turn, which comes at once if it was waiting. A timer
it has set stays where it is. -/
def cancel (loop : Loop Job) (id : TaskId) : Loop Job :=
  match loop.tasks[id]? with
  | some task =>
    if task.outcome.isSome then loop
    else
      let marked := loop.modifyTask id fun task => { task with cancelled := true, wait := .turn }
      if task.wait = .turn then marked else marked.enqueue [.run id]
  | none => loop

/-- Lets a task wait for a delay. A delay that is not above zero only lets other work go first. -/
def sleep (loop : Loop Job) (id : TaskId) (delay : Binary64) : Loop Job :=
  if delay.isPositive then
    let waiting := loop.modifyTask id fun task => { task with wait := .timer }
    { waiting with timers := waiting.timers.push ⟨Instant.after loop.now delay, id⟩ }
  else loop.enqueue [.run id]

/-- Lets a task wait for the answer to a call. -/
def await (loop : Loop Job) (id : TaskId) (call : Nat) : Loop Job :=
  loop.modifyTask id fun task => { task with wait := .answer call }

/-- Lets a task wait until one other task has ended. -/
def awaitTask (loop : Loop Job) (id other : TaskId) : Loop Job :=
  (loop.modifyTask id fun task => { task with wait := .others 1 }).modifyTask other fun task =>
    { task with watchers := task.watchers ++ [.resume id] }

/-- Lets a task wait until all of several other tasks have ended. -/
def awaitAll (loop : Loop Job) (id : TaskId) (others : List TaskId) : Loop Job :=
  others.foldl
    (fun loop other => loop.modifyTask other fun task =>
      { task with watchers := task.watchers ++ [.count id] })
    (loop.modifyTask id fun task => { task with wait := .others others.length })

/-- A timer of a task has run out: the task takes a turn if it still waits for it. -/
def elapse (loop : Loop Job) (id : TaskId) : Loop Job :=
  match loop.tasks[id]? with
  | some task =>
    if task.wait = .timer then
      (loop.modifyTask id fun task => { task with wait := .turn }).enqueue [.run id]
    else loop
  | none => loop

/-- A task has one task less to wait for, and takes a turn when none is left. -/
def countDown (loop : Loop Job) (id : TaskId) : Loop Job :=
  match loop.tasks[id]? with
  | some task =>
    match task.wait with
    | .others 1 => (loop.modifyTask id fun task => { task with wait := .turn }).enqueue [.run id]
    | .others (n + 1) => loop.modifyTask id fun task => { task with wait := .others n }
    | _ => loop
  | none => loop

/-- The task that waits for the answer to a call. -/
def awaiting? (loop : Loop Job) (call : Nat) : Option TaskId :=
  loop.tasks.findIdx? fun task => task.outcome.isNone && task.wait = .answer call

/-- Whether a timer still has a task to wake. -/
def wakes (loop : Loop Job) (timer : Timer) : Bool := loop.isLive timer.task

/-- The time at which the next task wakes. -/
def nextTimer? (loop : Loop Job) : Option Instant := loop.timers.next? loop.wakes

/-- Moves the clock on to a time that is not past. -/
def passTo (loop : Loop Job) (time : Instant) : Loop Job := { loop with now := max loop.now time }

/-- Starts a round: timers in front that wake nobody are dropped, and those that are due by now, as
far as the clock can tell, become ready. -/
def startRound (loop : Loop Job) : Loop Job :=
  let (_, waking) := loop.timers.popWhile (!loop.wakes ·) loop.timers.length
  let (due, later) :=
    Timers.popWhile (·.due < Instant.after loop.now Instant.resolution) waking.length waking
  { loop with timers := later, ready := loop.ready ++ due.map fun timer => .elapse timer.task }

end Loop

end QueryCompletion
