import QueryCompletion.Session.Schema

/-!
Turns of the tasks of a session, and the ways to let the event loop run: until nothing is ready,
over a stretch of time, or until one task has ended.
-/

namespace QueryCompletion.Session

def withLoop (session : Session) (loop : Loop Job) : Session := { session with loop }

/-- What a task does from its next turn on. -/
def setJob (session : Session) (id : TaskId) (job : Job) : Session :=
  session.withLoop (session.loop.modifyTask id fun task => { task with job })

def finish (session : Session) (id : TaskId) (outcome : Outcome) : Session :=
  session.withLoop (session.loop.finish id outcome)

/-- Calls the client. A call for which the client has no reply yet hangs. -/
def call (session : Session) (url : Option String) (asked : Option PageRequest) : Option Reply × Session :=
  let number := session.journal.calls.length
  let recorded := { session with
    journal := { session.journal with calls := session.journal.calls ++ [⟨url, asked⟩] } }
  match session.client with
  | .scripted replies => (replies[number]?.join, recorded)
  | .web transport timeout =>
    let parameters := (asked.map PageRequest.parameters).getD []
    let (result, after) := Web.getJson transport timeout (urlText url) parameters
    let answer :=
      match result with
      | .ok document => Answer.document document
      | .error (.fetch problem) => .refused problem.reason
      | .error (.unexpected failure) => .failed failure
    (some { answer }, { recorded with client := .web after timeout })

/-- A fetch goes on until it waits or has its answer. -/
inductive FetchStep where
  | waits (stage : FetchStage)
  | answered (url : Option String) (answer : Answer)

/-- A reply has come: its delay is waited out first. -/
def receive (session : Session) (id : TaskId) (url : Option String) (reply : Reply) : FetchStep × Session :=
  if reply.delay.isZero then (.answered url reply.answer, session)
  else (.waits (.settled url reply.answer), session.withLoop (session.loop.sleep id reply.delay))

/-- One turn of a fetch from an address. -/
def fetchTurn (session : Session) (id : TaskId) (url : Option String) (asked : Option PageRequest) :
    FetchStage → FetchStep × Session
  | .unsent =>
    let number := session.journal.calls.length
    match session.call url asked with
    | (some reply, after) => after.receive id url reply
    | (none, after) => (.waits (.hanging url), after.withLoop (after.loop.await id number))
  | .hanging sentTo => (.waits (.hanging sentTo), session)
  | .received sentTo reply => session.receive id sentTo reply
  | .settled sentTo answer => (.answered sentTo answer, session)

/-- Waits for all unfinished fetches, or ends if there are none. -/
def idleTurn (session : Session) (id : TaskId) : Session :=
  match session.unfinishedFetches with
  | [] => session.finish id .done
  | fetches => session.withLoop (session.loop.awaitAll id fetches)

/-- Ends closing: nothing waits or is in flight any more. -/
def closed (session : Session) (id : TaskId) (engine : Bool) : Session :=
  let cleared := { session with
    service := { session.service with pending := none, inFlight := [] }
    clientClosed := session.clientClosed || (engine && session.clientOwned) }
  cleared.finish id .done

/-- Cancels all unfinished fetches and waits for their end. -/
def closeServiceTurn (session : Session) (id : TaskId) (engine : Bool) : Session :=
  match session.unfinishedFetches with
  | [] => session.closed id engine
  | fetches =>
    let cancelled := fetches.foldl Loop.cancel session.loop
    (session.withLoop (cancelled.awaitAll id fetches)).setJob id (.close (.gathered engine))

/-- One turn of closing. The schema task ends before the value service is closed. -/
def closeTurn (session : Session) (id : TaskId) : CloseStage → Session
  | .schema =>
    match session.schemaTask with
    | some task =>
      if session.loop.isLive task then
        (session.withLoop ((session.loop.cancel task).awaitTask id task)).setJob id (.close (.service true))
      else session.closeServiceTurn id true
    | none => session.closeServiceTurn id true
  | .service engine => session.closeServiceTurn id engine
  | .gathered engine => session.closed id engine

/-- One turn of a task that was not cancelled. -/
def jobTurn (session : Session) (id : TaskId) : Job → Session
  | .debounce query loadMore waited =>
    let delay := session.service.fetchDelay
    if !waited && delay.isPositive then
      (session.withLoop (session.loop.sleep id delay)).setJob id (.debounce query loadMore true)
    else (session.loadPage query loadMore).2.finish id .done
  | .request asked stage =>
    match session.fetchTurn id session.service.apiUrl (some asked) stage with
    | (.waits next, after) => after.setJob id (.request asked next)
    | (.answered url answer, after) => (after.takePage asked url answer).finish id .done
  | .schema url stage =>
    match session.fetchTurn id (some url) none stage with
    | (.waits next, after) => after.setJob id (.schema url next)
    | (.answered _ answer, after) =>
      let (outcome, taken) := after.takeSchema url answer
      taken.finish id outcome
  | .idle => session.idleTurn id
  | .close stage => session.closeTurn id stage

/-- One turn of a task. -/
def taskTurn (session : Session) (id : TaskId) : Session :=
  match session.loop.tasks[id]? with
  | some task =>
    if task.outcome.isSome then session
    else if task.cancelled then session.finish id .cancelled
    else session.jobTurn id task.job
  | none => session

def turn (session : Session) : Turn → Session
  | .run id => session.taskTurn id
  | .elapse id => session.withLoop (session.loop.elapse id)
  | .count id => session.withLoop (session.loop.countDown id)
  | .strike id => { session with service := session.service.strikeRequest id }

/-- The session after the first ready turn, if any is ready. -/
def step? (session : Session) : Option Session :=
  match session.loop.ready with
  | [] => none
  | next :: rest => some ((session.withLoop { session.loop with ready := rest }).turn next)

/-- A bound on the turns that can follow before the clock has to move. -/
def potential (session : Session) : Nat :=
  let tasks := 2 * session.loop.tasks.length + session.loop.ready.length + 1
  16 * tasks * tasks

/-- Runs at most the given number of turns. -/
def run : Nat → Session → Session
  | 0, session => session
  | fuel + 1, session =>
    match session.step? with
    | some next => run fuel next
    | none => session

/-- Runs one round. -/
def round (session : Session) : Session :=
  let started := session.withLoop session.loop.startRound
  run started.loop.ready.length started

/-- Runs rounds until nothing is ready; at most the given number. -/
def settleWithin : Nat → Session → Session
  | 0, session => session
  | fuel + 1, session =>
    if session.loop.ready.isEmpty then session else settleWithin fuel session.round

/-- Runs until nothing is ready; the clock stays. -/
def settle (session : Session) : Session := settleWithin session.potential session

/-- Moves the clock on to a time and runs the round that begins then. -/
def wakeAt (session : Session) (time : Instant) : Session :=
  (session.withLoop (session.loop.passTo time)).round

/-- Settles and moves on from timer to timer up to a time; at most the given number of timers run
out. -/
def passTo (time : Instant) : Nat → Session → Session
  | 0, session => session
  | fuel + 1, session =>
    let settled := session.settle
    match settled.loop.nextTimer? with
    | some next =>
      if next ≤ time then passTo time fuel (settled.wakeAt next)
      else settled.withLoop (settled.loop.passTo time)
    | none => settled.withLoop (settled.loop.passTo time)

/-- Lets time pass. -/
def advance (session : Session) (delay : Binary64) : Session :=
  passTo (Instant.after session.loop.now delay) session.potential session

/-- Settles and moves on from timer to timer until a task has ended or nothing can happen any
more. -/
def runUntil (id : TaskId) : Nat → Session → Session
  | 0, session => session
  | fuel + 1, session =>
    let settled := session.settle
    if settled.loop.isLive id then
      match settled.loop.nextTimer? with
      | some time => runUntil id fuel (settled.wakeAt time)
      | none => settled
    else settled

/-- Starts a task and runs it to its end. Without an outcome it stays in the background. -/
def complete (session : Session) (job : Job) : Option Outcome × Session :=
  let (id, loop) := session.loop.spawn job []
  let started := session.withLoop loop
  let ended := runUntil id started.potential started
  (ended.loop.outcome? id, ended)

/-- Answers a hanging call; says whether that call was hanging. -/
def respond (session : Session) (number : Nat) (reply : Reply) : Bool × Session :=
  match session.loop.awaiting? number with
  | some id =>
    let change := fun (task : Task Job) =>
      let job :=
        match task.job with
        | .request asked (.hanging url) => .request asked (.received url reply)
        | .schema url (.hanging sentTo) => .schema url (.received sentTo reply)
        | job => job
      { task with job, wait := .turn }
    (true, session.withLoop ((session.loop.modifyTask id change).enqueue [.run id]))
  | none => (false, session)

end QueryCompletion.Session
