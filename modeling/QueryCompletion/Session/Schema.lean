import QueryCompletion.Session.Values

/-!
Installing schemas. A schema whose current model is not declared is refused, and a refused schema
changes nothing.
-/

namespace QueryCompletion

/-- Why data is not installed as a schema. -/
inductive SchemaError where
  | notDefinitions (found : Json)
  | invalid (issues : List Json.Issue)
  | undeclaredModel (model : Text)
deriving Repr

def SchemaError.message : SchemaError → String
  | .notDefinitions found =>
    "introspections parameter is expected to be either URL or object with definitions, but " ++
      String.ofList found.display ++ " was found"
  | .invalid issues => "Invalid introspection data: " ++ Json.issueCount issues "Schema"
  | .undeclaredModel model =>
    "current_model " ++ String.ofList (Text.quoted model) ++ " is not among the introspected models"

/-- The schema in introspection data. -/
def Schema.parse (data : Json) : Except SchemaError Schema :=
  match data with
  | .obj _ => (Schema.ofJson data).mapError .invalid
  | other => .error (.notDefinitions other)

/-- A schema whose value address is relative to the address of the schema, made absolute. -/
def Schema.locatedAt (url : String) (schema : Schema) : Except Url.SplitError Schema :=
  match schema.suggestionsUrl with
  | some relative =>
    if relative = "" then .ok schema
    else
      (Url.resolve url.toList relative.toList).map fun absolute =>
        { schema with suggestionsUrl := some (String.ofList absolute) }
  | none => .ok schema

namespace Session

/-- The session with a schema in place. -/
def install (session : Session) (schema : Schema) : Except SchemaError Session :=
  let installed := { session with
    schema, resolver := schema, service := { session.service with apiUrl := schema.suggestionsUrl } }
  match schema.currentModel with
  | some model => if schema.hasModel model then .ok installed else .error (.undeclaredModel model)
  | none => .ok installed

/-- Installs a schema, or logs why not. -/
def loadSchema (session : Session) (schema : Schema) : Session :=
  match session.install schema with
  | .ok installed => installed
  | .error problem => session.logError problem.message

/-- Installs the schema that was read, or logs why there is none. -/
def loadParsed (session : Session) : Except SchemaError Schema → Session
  | .ok schema => session.loadSchema schema
  | .error problem => session.logError problem.message

/-- Installs the schema in introspection data, or logs why not. -/
def loadData (session : Session) (data : Json) : Session := session.loadParsed (Schema.parse data)

/-- Fetches a schema in the background; says whether a task was started. -/
def loadFromUrl (session : Session) (url : String) : Bool × Session :=
  if session.loop.running then
    let (id, loop) := session.loop.spawn (.schema url .unsent) []
    (true, { session with loop, schemaTask := some id })
  else (false, session.logError "Loading introspections from a URL requires a running event loop")

/-- Introspections as a host gives them: the address of a schema, or the data itself. -/
def loadIntrospections (session : Session) (introspections : Json) : Bool × Session :=
  match introspections with
  | .str url => session.loadFromUrl url
  | data => (false, session.loadData data)

/-- Starts names from another model. -/
def setCurrentModel (session : Session) (model : Text) : Session :=
  if session.schema.hasModel model then session.loadSchema (session.schema.withCurrentModel model)
  else session.logError ("Unknown model: " ++ String.ofList model)

/-- Takes in the answer to the request for a schema; the outcome says whether the schema was
installed. -/
def takeSchema (session : Session) (url : String) (answer : Answer) : Outcome × Session :=
  let refuse := fun (message : String) => (Outcome.answered false, session.logError message)
  match answer with
  | .refused reason => refuse (FetchError.message ⟨url, reason⟩)
  | .failed failure => (.failed failure, session)
  | .document document =>
    match Schema.parse document with
    | .error problem => refuse problem.message
    | .ok schema =>
      match Schema.locatedAt url schema with
      | .error problem => (.failed (.value problem.message), session)
      | .ok located =>
        match session.install located with
        | .error problem => refuse problem.message
        | .ok installed => (.answered true, installed.announce .schema)

end Session

end QueryCompletion
