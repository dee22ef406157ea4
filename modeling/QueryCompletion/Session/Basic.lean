import QueryCompletion.Fetch
import QueryCompletion.Log
import QueryCompletion.Schema.Reader
import QueryCompletion.Settings
import QueryCompletion.Suggestion.Basic
import QueryCompletion.Values

/-!
A session of the completion engine: schema, settings, the list last offered, the value service, the
tasks under way and the journal of what was sent, announced and logged.
-/

namespace QueryCompletion

/-- What a client gives for a call. -/
inductive Answer where
  | document (document : Json)
  | refused (reason : String)
  | failed (failure : Failure)
deriving Repr

/-- An answer and how long the client takes for it. -/
structure Reply where
  answer : Answer
  delay : Binary64 := .zero
deriving Repr

/-- The client that fetches documents. A scripted client answers its calls in order and lets a call
hang where the script has nothing for it. -/
inductive Client where
  | scripted (replies : List (Option Reply))
  | web (transport : Web.Transport) (timeout : Text)

/-- A request for a page of values. -/
structure PageRequest where
  query : ValueQuery
  page : Int
deriving DecidableEq, Repr

/-- The parameters a request for a page is sent with. -/
def PageRequest.parameters (request : PageRequest) : List (String × Json) :=
  [("field", .text (request.query.model ++ '.' :: request.query.field)),
    ("search", .text request.query.search), ("page", .int request.page)]

/-- A call to the client; a schema is asked for without parameters. -/
structure Call where
  url : Option String
  asked : Option PageRequest
deriving DecidableEq, Repr

/-- What the host is told. -/
inductive Update where
  | values (key : Text)
  | schema
deriving DecidableEq, Repr

structure Journal where
  calls : List Call := []
  updates : List Update := []
  log : Log := []

/-- What a later journal holds beyond an earlier one. -/
def Journal.since (later earlier : Journal) : Journal :=
  { calls := later.calls.drop earlier.calls.length
    updates := later.updates.drop earlier.updates.length
    log := later.log.drop earlier.log.length }

/-- How far a fetch has come. -/
inductive FetchStage where
  | unsent
  | hanging (url : Option String)
  | received (url : Option String) (reply : Reply)
  | settled (url : Option String) (answer : Answer)

/-- How far closing has come; the flag says whether the whole engine is closed or the value service
alone. -/
inductive CloseStage where
  | schema
  | service (engine : Bool)
  | gathered (engine : Bool)

/-- What tasks do. -/
inductive Job where
  /-- Waits for typing to pause and then sends the request for a page. -/
  | debounce (query : ValueQuery) (loadMore waited : Bool)
  /-- Fetches a page of values. -/
  | request (asked : PageRequest) (stage : FetchStage)
  /-- Fetches a schema and installs it. -/
  | schema (url : String) (stage : FetchStage)
  /-- Waits until no fetch waits or is in flight. -/
  | idle
  /-- Cancels what is under way. -/
  | close (stage : CloseStage)

structure Session where
  settings : Settings := {}
  schema : Schema := {}
  /-- The schema that contexts are worked out with. -/
  resolver : Schema := schema
  enabled : Bool := true
  completion : Completion := {}
  /-- The task of the last schema that was asked for in the background. -/
  schemaTask : Option TaskId := none
  service : ValueService
  loop : Loop Job := {}
  client : Client := .scripted []
  clientOwned : Bool := false
  clientClosed : Bool := false
  /-- Whether the host wants to be told of updates. -/
  listening : Bool := true
  journal : Journal := {}

namespace Session

/-- A fresh session under the given settings, with what was logged while they were read. -/
def ofSettings (settings : Settings) (log : Log) : Session :=
  { settings
    enabled := settings.completionEnabled
    service := { cache := ⟨settings.cacheSize, []⟩, fetchDelay := settings.fetchDelay }
    journal := { log } }

def logEntry (session : Session) (level : LogLevel) (message : String) : Session :=
  { session with journal := { session.journal with log := session.journal.log ++ [⟨level, message⟩] } }

def logError (session : Session) (message : String) : Session := session.logEntry .error message

def logWarning (session : Session) (message : String) : Session := session.logEntry .warning message

/-- Tells the host of an update if it wants to be told. -/
def announce (session : Session) (update : Update) : Session :=
  if session.listening then
    { session with journal := { session.journal with updates := session.journal.updates ++ [update] } }
  else session

/-- Unfinished requests and the waiting fetch of the value service. -/
def unfinishedFetches (session : Session) : List TaskId :=
  (session.service.inFlight.map Prod.snd).filter session.loop.isLive ++
    session.service.pending.toList.filter session.loop.isLive

/-- Whether a fetch of values waits or is in flight. -/
def valuesLoading (session : Session) : Bool := !session.unfinishedFetches.isEmpty

/-- Whether the schema or values are on their way. -/
def loading (session : Session) : Bool :=
  (session.schemaTask.map session.loop.isLive).getD false || session.valuesLoading

end Session

end QueryCompletion
