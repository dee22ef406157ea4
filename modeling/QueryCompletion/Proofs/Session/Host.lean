import QueryCompletion.Proofs.Session.Events
import QueryCompletion.Proofs.Values.Recency

/-!
What a host does with the value service, on and off an event loop. Letting the loop run, however long, is a
sequence of its turns and of beginnings of rounds.
-/

namespace QueryCompletion

/-- What can happen to the value service of a host. -/
inductive HostEvent where
  /-- A call about values, an answer, the passing of time or a turn of the event loop. -/
  | passing (event : ValueEvent)
  /-- The event loop is entered or left; its tasks stay. -/
  | running (running : Bool)
  | address (url : Option String)
  /-- The host uses the cache itself. -/
  | cached (use : CacheUse Text ValueEntry)
  /-- A task is started that waits until no fetch waits or is in flight. -/
  | waiting
  /-- The service is closed, and nothing else is done until that has ended or can go on no more. -/
  | closing

namespace Session

def heed (session : Session) : HostEvent → Session
  | .passing event => session.after event
  | .running running => session.withLoop { session.loop with running }
  | .address url => { session with service := { session.service with apiUrl := url } }
  | .cached use => { session with service := { session.service with cache := session.service.cache.after use } }
  | .waiting => session.withLoop (session.loop.spawn .idle []).2
  | .closing => (session.complete (.close (.service false))).2

/-- The event loop runs: turns are taken, and rounds begin. -/
inductive Runs (start : Session) : Session → Prop
  | refl : Runs start start
  | turn {session : Session} (index : Nat) : Runs start session → Runs start (session.after (.turn index))
  | round {session : Session} (time : Instant) : Runs start session → Runs start (session.after (.round time))

variable {start session next : Session}

theorem step?_eq_some (stepped : session.step? = some next) : next = session.after (.turn 0) := by
  unfold step? at stepped
  cases ready : session.loop.ready with
  | nil =>
    rw [ready] at stepped
    cases stepped
  | cons first rest =>
    rw [ready] at stepped
    cases stepped
    unfold after taking
    rw [ready]
    rfl

theorem Runs.run (runs : Runs start session) (fuel : Nat) : Runs start (Session.run fuel session) := by
  induction fuel generalizing session with
  | zero => exact runs
  | succ fuel ih =>
    unfold Session.run
    cases stepped : session.step? with
    | none => exact runs
    | some next => exact ih (step?_eq_some stepped ▸ runs.turn 0)

/-- Moving the clock to where it stands is no move. -/
theorem passTo_now (loop : Loop Job) : loop.passTo loop.now = loop := by
  rw [Loop.passTo, Nat.max_self]

theorem Runs.started (runs : Runs start session) : Runs start (session.withLoop session.loop.startRound) := by
  have begun : session.after (.round session.loop.now) = session.withLoop session.loop.startRound :=
    congrArg (fun loop : Loop Job => session.withLoop loop.startRound) (passTo_now session.loop)
  exact begun ▸ runs.round session.loop.now

theorem Runs.settleWithin (runs : Runs start session) (fuel : Nat) :
    Runs start (Session.settleWithin fuel session) := by
  induction fuel generalizing session with
  | zero => exact runs
  | succ fuel ih =>
    unfold Session.settleWithin
    split
    · exact runs
    · exact ih (runs.started.run _)

theorem Runs.runUntil (runs : Runs start session) (id : TaskId) (fuel : Nat) :
    Runs start (Session.runUntil id fuel session) := by
  induction fuel generalizing session with
  | zero => exact runs
  | succ fuel ih =>
    have settled := runs.settleWithin session.potential
    unfold Session.runUntil
    dsimp only
    split
    · split
      · exact ih ((settled.round _).run _)
      · exact settled
    · exact settled

/-- Completing a task lets the event loop run from its start. -/
theorem runs_complete (session : Session) (job : Job) :
    Runs (session.withLoop (session.loop.spawn job []).2) (session.complete job).2 :=
  Runs.refl.runUntil _ _

/-- What every event keeps holds after the event loop ran. -/
theorem Runs.keeps {P : Session → Prop} (keeps : ∀ session event, P session → P (session.after event))
    (holds : P start) (runs : Runs start session) : P session := by
  induction runs with
  | refl => exact holds
  | turn index _ ih => exact keeps _ _ ih
  | round time _ ih => exact keeps _ _ ih

end Session

end QueryCompletion
