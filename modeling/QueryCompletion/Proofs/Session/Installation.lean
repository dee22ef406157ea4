import QueryCompletion.Proofs.Session.Events
import QueryCompletion.Proofs.Session.Tasks

/-!
Schemas over a run of a session. A session holds its schema in three places: as the schema, in the schema that
contexts are worked out with and in the address of the value service. A schema is put in all three or in none.
-/

namespace QueryCompletion

/-- What can happen to a session on the way to a schema and after it. -/
inductive SchemaEvent where
  /-- The host gives introspections: an address or data. -/
  | introspections (data : Json)
  /-- The host gives a schema, or data that is no JSON. The event carries what is read from it. -/
  | given (parsed : Except SchemaError Schema)
  /-- The answer comes to a fetch that the host itself waits for. -/
  | fetched (url : String) (answer : Answer)
  | model (name : Text)
  | started (job : Job)
  /-- A turn of the event loop, the passing of time or a call of the value service. -/
  | passing (event : ValueEvent)

/-- What the places hold that a schema is put in. -/
structure Holding where
  schema : Schema
  resolver : Schema
  apiUrl : Option String
deriving DecidableEq

/-- One schema in all places. -/
def Holding.of (schema : Schema) : Holding := ⟨schema, schema, schema.suggestionsUrl⟩

/-- Whether a task was to say yes and did not. -/
def Outcome.isRefusal : Outcome → Bool
  | .answered false => true
  | .failed _ => true
  | _ => false

namespace Session

/-- A session at its start. -/
def opened (settings : Settings) (log : Log) (client : Client) (clientOwned listening running : Bool) : Session :=
  { ofSettings settings log with client, clientOwned, listening, loop := { running } }

def holding (session : Session) : Holding := ⟨session.schema, session.resolver, session.service.apiUrl⟩

/-- The places agree, and names start from a declared model, if from any. -/
structure Coherent (session : Session) : Prop where
  startable : session.schema.Startable
  resolver : session.resolver = session.schema
  apiUrl : session.service.apiUrl = session.schema.suggestionsUrl

def next (session : Session) : SchemaEvent → Session
  | .introspections data => (session.loadIntrospections data).2
  | .given parsed => session.loadParsed parsed
  | .fetched url answer => (session.takeSchema url answer).2
  | .model name => session.setCurrentModel name
  | .started job => session.withLoop (session.loop.spawn job []).2
  | .passing event => session.after event

/-- What a fetch answers, and a task that an event brings to its end. -/
def verdict? (session : Session) : SchemaEvent → Option Outcome
  | .fetched url answer => some (session.takeSchema url answer).1
  | .passing (.turn index) =>
    match session.loop.ready[index]? with
    | some (.run id) => (session.after (.turn index)).loop.outcome? id
    | _ => none
  | _ => none

/-- Whether an event reports a failure: an error is logged, or the answer is a refusal. -/
def fails (session : Session) (event : SchemaEvent) : Bool :=
  ((session.next event).journal.since session.journal).log.any (·.level = .error) ||
    (session.verdict? event).any Outcome.isRefusal

/-- A call is to put a schema in place: the schema is in what the call is given, a fetched one with its address
made absolute, or it is the one in place with another model to start from. -/
inductive Proposes (session : Session) (schema : Schema) : SchemaEvent → Prop
  | introspections {data : Json} : Schema.parse data = .ok schema → Proposes session schema (.introspections data)
  | given : Proposes session schema (.given (.ok schema))
  | fetched {url : String} {document : Json} {read : Schema} : Schema.parse document = .ok read →
      read.locatedAt url = .ok schema → Proposes session schema (.fetched url (.document document))
  | model {name : Text} : session.schema.hasModel name = true → session.schema.withCurrentModel name = schema →
      Proposes session schema (.model name)

variable {session : Session} {schema : Schema}

theorem Frame.holding {before after : Session} (frame : before.Frame after) : after.holding = before.holding := by
  rw [Session.holding, Session.holding, frame.schema, frame.resolver, frame.apiUrl]

theorem Frame.placing {before after : Session} (frame : before.Frame after) (schema : Schema) :
    (before.placing schema).Frame (after.placing schema) :=
  ⟨frame.settings, frame.enabled, rfl, rfl, rfl, frame.completion, frame.listening⟩

/-- What an event does about a schema: it puts a startable one in all places and reports no failure, or it
leaves all places as they are. -/
inductive Placed (before after : Session) (verdict : Option Outcome) : Prop
  | kept : before.Frame after → Placed before after verdict
  | placed {schema : Schema} : schema.Startable → (before.placing schema).Frame after →
      after.journal.log = before.journal.log → verdict.any Outcome.isRefusal = false → Placed before after verdict

theorem Placed.behind {before between after : Session} {verdict : Option Outcome} (frame : before.Frame between)
    (log : between.journal.log = before.journal.log) (placed : Placed between after verdict) :
    Placed before after verdict := by
  cases placed with
  | kept rest => exact .kept (frame.trans rest)
  | placed startable rest same content =>
    exact .placed startable ((frame.placing _).trans rest) (same.trans log) content

/-- Only a call of the host makes another list. -/
theorem Placed.completion {before after : Session} {verdict : Option Outcome} (placed : Placed before after verdict) :
    after.completion = before.completion := by
  cases placed with
  | kept frame => exact frame.completion
  | placed _ frame _ _ => exact frame.completion

theorem placed_loadSchema (session : Session) (schema : Schema) :
    Placed session (session.loadSchema schema) none := by
  unfold loadSchema
  by_cases startable : schema.Startable
  · rw [session.install_of_startable startable]
    exact .placed startable (.refl _) rfl rfl
  · obtain ⟨problem, refused⟩ := session.install_of_not_startable startable
    rw [refused]
    exact .kept (session.frame_logError _)

theorem placed_loadParsed (session : Session) (parsed : Except SchemaError Schema) :
    Placed session (session.loadParsed parsed) none := by
  cases parsed with
  | ok schema => exact session.placed_loadSchema schema
  | error problem => exact .kept (session.frame_logError _)

theorem placed_loadIntrospections (session : Session) (data : Json) :
    Placed session (session.loadIntrospections data).2 none := by
  unfold loadIntrospections
  split
  · unfold loadFromUrl
    split
    · exact .kept ⟨rfl, rfl, rfl, rfl, rfl, rfl, rfl⟩
    · exact .kept (session.frame_logError _)
  · exact session.placed_loadParsed _

theorem placed_setCurrentModel (session : Session) (model : Text) :
    Placed session (session.setCurrentModel model) none := by
  unfold setCurrentModel
  split
  · exact session.placed_loadSchema _
  · exact .kept (session.frame_logError _)

theorem placed_takeSchema (session : Session) (url : String) (answer : Answer) :
    Placed session (session.takeSchema url answer).2 (some (session.takeSchema url answer).1) := by
  rcases session.takeSchema_cases url answer with same | ⟨message, logged⟩ | ⟨schema, startable, placed⟩
  · rw [same]
    exact .kept (.refl session)
  · rw [logged]
    exact .kept (session.frame_logError message)
  · rw [placed]
    exact .placed startable (frame_announce _ _) (announce_log _ _) rfl

theorem placed_schemaTurn (session : Session) (id : TaskId) (url : String) (stage : FetchStage) :
    Placed session (session.jobTurn id (.schema url stage))
      ((session.jobTurn id (.schema url stage)).loop.outcome? id) := by
  have fetched := session.onward_fetchTurn id (some url) none stage
  unfold jobTurn
  dsimp only
  split
  · rename_i next after turned
    rw [turned] at fetched
    exact .kept (fetched.toFrame.trans (after.frame_withLoop _))
  · rename_i answer after turned
    rw [turned] at fetched
    refine .behind fetched.toFrame fetched.log ?_
    cases after.placed_takeSchema url answer with
    | kept frame => exact .kept (frame.trans (frame_withLoop _ _))
    | placed startable frame log content =>
      refine .placed startable (frame.trans (frame_withLoop _ _)) log ?_
      show Option.any _ (Loop.outcome? (Loop.finish _ id _) id) = false
      rw [Loop.outcome?_finish]
      cases (after.takeSchema url answer).2.loop.tasks[id]? with
      | none => rfl
      | some task => exact content

theorem placed_jobTurn (session : Session) (id : TaskId) (job : Job) :
    Placed session (session.jobTurn id job) ((session.jobTurn id job).loop.outcome? id) := by
  cases job with
  | schema url stage => exact session.placed_schemaTurn id url stage
  | debounce query loadMore waited => exact .kept (session.frame_jobTurn id nofun)
  | request asked stage => exact .kept (session.frame_jobTurn id nofun)
  | idle => exact .kept (session.frame_jobTurn id nofun)
  | close stage => exact .kept (session.frame_jobTurn id nofun)

theorem placed_taskTurn (session : Session) (id : TaskId) :
    Placed session (session.taskTurn id) ((session.taskTurn id).loop.outcome? id) := by
  rcases session.taskTurn_cases id with ⟨_, same⟩ | ⟨task, _, ⟨_, ends⟩ | ⟨_, works⟩⟩
  · rw [same]
    exact .kept (.refl session)
  · rw [ends]
    exact .kept (session.frame_withLoop _)
  · rw [works]
    exact session.placed_jobTurn id task.job

theorem placed_after (session : Session) (event : ValueEvent) :
    Placed session (session.after event) (session.verdict? (.passing event)) := by
  by_cases turns : ∃ index, event = .turn index
  · obtain ⟨index, rfl⟩ := turns
    unfold verdict? after
    dsimp only
    cases session.loop.ready[index]? with
    | none => exact .kept (.refl session)
    | some next =>
      have taken : session.Frame (session.taking index) := session.frame_withLoop _
      cases next with
      | run id => exact .behind taken rfl ((session.taking index).placed_taskTurn id)
      | elapse id => exact .kept (taken.trans (frame_withLoop _ _))
      | count id => exact .kept (taken.trans (frame_withLoop _ _))
      | strike id => exact .kept ⟨rfl, rfl, rfl, rfl, rfl, rfl, rfl⟩
  · exact .kept (session.frame_after fun index same => turns ⟨index, same⟩)

/-- Every event puts a schema in place as a whole or leaves all places as they are. -/
theorem placed_next (session : Session) (event : SchemaEvent) :
    Placed session (session.next event) (session.verdict? event) := by
  cases event with
  | introspections data => exact session.placed_loadIntrospections data
  | given parsed => exact session.placed_loadParsed parsed
  | fetched url answer => exact session.placed_takeSchema url answer
  | model name => exact session.placed_setCurrentModel name
  | started job => exact .kept (session.frame_withLoop _)
  | passing event => exact session.placed_after event

theorem Coherent.holding_eq (coherent : session.Coherent) : session.holding = .of session.schema := by
  rw [holding, coherent.resolver, coherent.apiUrl, Holding.of]

theorem coherent_of_holding (startable : schema.Startable) (holds : session.holding = .of schema) :
    session.Coherent := by
  rw [holding, Holding.of, Holding.mk.injEq] at holds
  obtain ⟨same, resolver, apiUrl⟩ := holds
  rw [← same] at startable resolver apiUrl
  exact ⟨startable, resolver, apiUrl⟩

theorem Coherent.next (coherent : session.Coherent) (event : SchemaEvent) : (session.next event).Coherent := by
  cases session.placed_next event with
  | kept frame => exact coherent_of_holding coherent.startable (frame.holding.trans coherent.holding_eq)
  | placed startable frame _ _ => exact coherent_of_holding startable frame.holding

theorem Coherent.foldl (coherent : session.Coherent) (events : List SchemaEvent) :
    (events.foldl Session.next session).Coherent := by
  induction events generalizing session with
  | nil => exact coherent
  | cons event events ih => exact ih (coherent.next event)

theorem coherent_opened (settings : Settings) (log : Log) (client : Client)
    (clientOwned listening running : Bool) :
    (opened settings log client clientOwned listening running).Coherent := by
  have empty : ({} : Schema).Startable := by
    intro model starts
    cases starts
  exact coherent_of_holding empty rfl

/-- Without a new entry in the log and with no refusal nothing is reported. -/
theorem fails_eq_false {event : SchemaEvent} (log : (session.next event).journal.log = session.journal.log)
    (content : (session.verdict? event).any Outcome.isRefusal = false) : session.fails event = false := by
  rw [fails, content, Journal.since, log, List.drop_length]
  rfl

theorem holding_of_fails {event : SchemaEvent} (fails : session.fails event = true) :
    (session.next event).holding = session.holding := by
  cases session.placed_next event with
  | kept frame => exact frame.holding
  | placed _ _ log content =>
    rw [fails_eq_false log content] at fails
    cases fails

theorem loadSchema_of_startable (session : Session) (startable : schema.Startable) :
    session.loadSchema schema = session.placing schema := by
  rw [loadSchema, session.install_of_startable startable]

/-- A startable schema that a call is to put in place is put in place. -/
theorem next_of_proposes {event : SchemaEvent} (proposes : session.Proposes schema event)
    (startable : schema.Startable) :
    (session.next event).holding = .of schema ∧ (session.next event).journal.log = session.journal.log ∧
      (session.verdict? event).any Outcome.isRefusal = false := by
  have loaded := session.loadSchema_of_startable startable
  cases proposes with
  | introspections parsed =>
    rename_i data
    have same : session.next (.introspections data) = session.placing schema := by
      show (session.loadIntrospections data).2 = _
      unfold loadIntrospections
      split
      · cases parsed
      · rw [loadData, parsed, loadParsed, loaded]
    rw [same]
    exact ⟨rfl, rfl, rfl⟩
  | given =>
    show (session.loadSchema schema).holding = _ ∧ (session.loadSchema schema).journal.log = _ ∧ _
    rw [loaded]
    exact ⟨rfl, rfl, rfl⟩
  | fetched parsed located =>
    rename_i url document read
    have taken : session.takeSchema url (.document document) =
        (.answered true, (session.placing schema).announce .schema) := by
      rw [takeSchema]
      dsimp only
      rw [parsed]
      dsimp only
      rw [located]
      dsimp only
      rw [session.install_of_startable startable]
    show (session.takeSchema url (.document document)).2.holding = _ ∧
      (session.takeSchema url (.document document)).2.journal.log = _ ∧
      (some (session.takeSchema url (.document document)).1).any _ = false
    rw [taken]
    exact ⟨(frame_announce _ _).holding, announce_log _ _, rfl⟩
  | model declared same =>
    rename_i name
    have selected : session.next (.model name) = session.placing schema := by
      show session.setCurrentModel name = _
      rw [setCurrentModel, if_pos declared, same, loaded]
    rw [selected]
    exact ⟨rfl, rfl, rfl⟩

/-- From the start of a session on, in every state the places agree and names start from a declared model, if
from any. What reports a failure, by an error in the log or by its answer, leaves all places as they were; a
startable schema is put in all of them without a failure. -/
theorem schemas_placed_whole (settings : Settings) (log : Log) (client : Client)
    (clientOwned listening running : Bool) (events : List SchemaEvent) :
    let session := events.foldl Session.next (opened settings log client clientOwned listening running)
    session.Coherent ∧ ∀ event,
      (session.fails event = true → (session.next event).holding = session.holding) ∧
        ∀ schema, session.Proposes schema event → schema.Startable →
          session.fails event = false ∧ (session.next event).holding = .of schema := by
  intro session
  refine ⟨(coherent_opened settings log client clientOwned listening running).foldl events, fun event =>
    ⟨holding_of_fails, fun schema proposes startable => ?_⟩⟩
  obtain ⟨holds, log, content⟩ := next_of_proposes proposes startable
  exact ⟨fails_eq_false log content, holds⟩

/-- With the schema of books in place, data that starts from an undeclared model, a refused fetch and an unknown
model change nothing, and the authors can be started from. -/
theorem schemas_placed_whole_for_books :
    let books : Schema :=
      { currentModel := some "core.book".toList, models := [("core.book".toList, []), ("core.author".toList, [])]
        suggestionsUrl := some "/suggestions/" }
    let session := [.given (.ok books)].foldl Session.next (opened {} [] (.scripted []) false true true)
    let refused : List SchemaEvent :=
      [.introspections (.obj [("current_model", .str "core.tag")]), .fetched "/schema/" (.refused "HTTP 500"),
        .model "core.tag".toList]
    let authors := books.withCurrentModel "core.author".toList
    session.holding = .of books ∧
      (∀ event ∈ refused, session.fails event = true ∧ (session.next event).holding = .of books) ∧
      (session.Proposes authors (.model "core.author".toList) ∧ authors.Startable) ∧
      (session.next (.model "core.author".toList)).holding = .of authors := by
  intro books session refused authors
  obtain ⟨_, each⟩ := schemas_placed_whole {} [] (.scripted []) false true true [.given (.ok books)]
  have held : session.holding = .of books := by decide +kernel
  have failing : ∀ event ∈ refused, session.fails event = true := by decide +kernel
  have proposes : session.Proposes authors (.model "core.author".toList) := .model (by decide +kernel) rfl
  have startable : authors.Startable := by decide +kernel
  exact ⟨held, fun event inside => ⟨failing event inside, ((each event).1 (failing event inside)).trans held⟩,
    ⟨proposes, startable⟩, ((each _).2 authors proposes startable).2⟩

end Session

end QueryCompletion
