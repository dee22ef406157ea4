import QueryCompletion.Command.Arguments
import QueryCompletion.Files
import QueryCompletion.Session.Completion
import QueryCompletion.Suggestion.Styled
import QueryCompletion.Table

/-!
What the commands print. `tokens` shows the tokens of a query, `suggest` the context at a cursor and
the suggestions there. Values that are still on their way are waited for once.
-/

namespace QueryCompletion.Command

/-- What a command finds around it. -/
structure Surroundings where
  files : Files := []
  transport : Web.Transport := {}
  /-- The schema for a command line that names none. -/
  schema : Option Text := none

/-- Why a command breaks off without a word. -/
inductive Breakdown where
  | failure (failure : Failure)
  | access (error : AccessError)
  | reading (error : Json.ReadError)
deriving DecidableEq, Repr

/-- What a command leaves behind: its exit code, the printed lines and the requests it sent. -/
structure Report where
  exitCode : Nat := 0
  output : List Text := []
  /-- A remark beside the printed lines. -/
  remark : Option String := none
  breakdown : Option Breakdown := none
  sent : List Web.Sent := []

/-- Why nothing is suggested. -/
inductive SuggestError where
  | noSchema
  | misuse (error : UsageError)
  | noSettingsFile (path : Text)
  | malformedSettings (fault : Json.Fault) (text : Text)
  | noSchemaFile (path : Text)
  | malformedSchema (path : Text) (fault : Json.Fault) (text : Text)
  | unusableSchema (source : Text)
  | broken (breakdown : Breakdown)

def misused (error : UsageError) : Report := { exitCode := 2, remark := some error.message }

/-- The cells in a line of the terminal. -/
def terminalWidth : Nat := 200

/-- The report of a command that fails with a message. -/
def failing (message : String) : Report :=
  { exitCode := 1, output := Text.wrap terminalWidth true (printableText message.toList) }

def SuggestError.report : SuggestError → Report
  | .noSchema => failing "No schema given; use --schema or set DJANGOQL_SCHEMA"
  | .misuse error => misused error
  | .noSettingsFile path => failing (SettingsFileError.notFound path).message
  | .malformedSettings fault text => failing (fault.message text)
  | .noSchemaFile path => failing ("Schema file not found: " ++ String.ofList path)
  | .malformedSchema path fault text =>
    failing ("Invalid JSON in schema file " ++ String.ofList path ++ ": " ++ fault.message text)
  | .unusableSchema source => failing ("Could not load a usable schema from " ++ String.ofList source)
  | .broken breakdown => { exitCode := 1, breakdown := some breakdown }

/-- A table of the tokens of a query. -/
def tokenTable (query : Text) : Table where
  title := "Tokens".toList
  columns := [⟨"Kind".toList, .left⟩, ⟨"Value".toList, .left⟩, ⟨"Start".toList, .right⟩, ⟨"End".toList, .right⟩]
  rows := (Lexer.tokenize query).map fun token =>
    [token.kind.label.toList, Text.quoted token.value, Nat.toDigits 10 token.start, Nat.toDigits 10 token.stop]

/-- The text, or a dash for an empty one. -/
def orDash (text : Text) : Text := if text.isEmpty then ['-'] else printableText text

def contextLines (context : Context) : List Text :=
  pairLines
    [("scope".toList, orDash ((context.scope.map fun scope => scope.label.toList).getD [])),
      ("prefix".toList, Text.quoted context.typed), ("model".toList, orDash (context.model.getD [])),
      ("field".toList, orDash (context.field.getD [])),
      ("model stack".toList, orDash (Text.joinWith " > ".toList context.stack))]

/-- A table of suggestions; a star marks the selected one. -/
def suggestionTable (completion : Completion) : Table where
  title := "Suggestions".toList
  columns := [⟨"#".toList, .right⟩, ⟨"Suggestion".toList, .left⟩, ⟨"Before".toList, .left⟩, ⟨"After".toList, .left⟩]
  rows := completion.suggestions.zipIdx.map fun (suggestion, index) =>
    [(if completion.selected = some index then ['*'] else []) ++ Nat.toDigits 10 index,
      (suggestion.render completion.typed completion.caseSensitive).plain, Text.quoted suggestion.snippetBefore,
      Text.quoted suggestion.snippetAfter]

def completionLines (completion : Completion) : List Text :=
  if completion.suggestions.isEmpty then
    ["No suggestions".toList ++ if completion.loading then " (still loading)".toList else []]
  else
    (suggestionTable completion).lines ++
      if completion.loading then ["more values are still loading".toList] else []

/-- Settings from the file at a path, or the usual ones. -/
def readSettings (files : Files) : Option Text → Except SuggestError Settings
  | none => .ok {}
  | some path =>
    (Settings.loadFile files path).1.mapError fun error =>
      match error with
      | .notFound path => .noSettingsFile path
      | .inaccessible _ error => .broken (.access error)
      | .unreadable (.malformed fault) text => .malformedSettings fault text
      | .unreadable error _ => .broken (.reading error)

def readSchema (files : Files) (path : Text) : Except SuggestError Json := do
  let contents ← (files.read path).mapError fun error =>
    match error with
    | .notFound => .noSchemaFile path
    | other => .broken (.access other)
  let text := Text.unifyLineEnds contents
  (Json.read text).mapError fun error =>
    match error with
    | .malformed fault => .malformedSchema path fault text
    | other => .broken (.reading other)

def isWebAddress (source : Text) : Bool :=
  "http://".toList.isPrefixOf source || "https://".toList.isPrefixOf source

/-- Loads the schema from the web or from a file. -/
def loadSchema (session : Session) (files : Files) (source : Text) : Except SuggestError Unit × Session :=
  if isWebAddress source then
    match session.complete (.schema (String.ofList source) .unsent) with
    | (some (.answered true), after) => (.ok (), after)
    | (some (.failed failure), after) => (.error (.broken (.failure failure)), after)
    | (_, after) => (.error (.unusableSchema source), after)
  else
    match readSchema files source with
    | .ok data => (.ok (), (session.loadIntrospections data).2)
    | .error problem => (.error problem, session)

/-- The list at a cursor, after the values that were asked for have come. -/
def completionAt (session : Session) (query : Text) (cursor : Int) : Session :=
  let first := session.generate query (some cursor) none false
  if first.completion.loading then
    (first.complete .idle).2.generate query (some cursor) none false
  else first

/-- The context and the list at a cursor. -/
def suggestAt (session : Session) (files : Files) (source : Text) (options : SuggestOptions) (cursor : Int) :
    Except SuggestError (Context × Completion) × Session :=
  match loadSchema session files source with
  | (.error problem, after) => (.error problem, after)
  | (.ok (), loaded) =>
    let started :=
      match options.model with
      | some (c :: rest) => loaded.setCurrentModel (c :: rest)
      | _ => loaded
    if started.schema.currentModel.isNone then (.error (.unusableSchema source), started)
    else
      let context := started.resolver.contextAt options.query cursor
      let listed := completionAt started options.query cursor
      (.ok (context, listed.completion), listed)

/-- What was sent over the client of a session. Work that is still under way at the end is dropped
unsent. -/
def sentBy (session : Session) : List Web.Sent :=
  match session.client with
  | .web transport _ => transport.sent
  | .scripted _ => []

def runSuggest (surroundings : Surroundings) (options : SuggestOptions) : Report :=
  let length := options.query.length
  let cursor := options.cursor.getD length
  match options.schema.or surroundings.schema with
  | some (c :: rest) =>
    if cursor < 0 || (length : Int) < cursor then (SuggestError.misuse (.cursorOutside length)).report
    else
      match readSettings surroundings.files options.settings with
      | .error problem => problem.report
      | .ok settings =>
        let session := { Session.ofSettings settings [] with
          client := .web surroundings.transport settings.requestTimeout.text
          clientOwned := true }
        let (answer, after) := suggestAt session surroundings.files (c :: rest) options cursor
        let report : Report :=
          match answer with
          | .error problem => problem.report
          | .ok (context, completion) => { output := contextLines context ++ completionLines completion }
        { report with sent := sentBy after }
  | _ => SuggestError.noSchema.report

def usageLines : List Text :=
  ["Usage: tokens QUERY",
    "       suggest QUERY [--schema SOURCE] [--cursor OFFSET] [--model NAME] [--config FILE] [--debug]"].map
    String.toList

/-- What a command line leads to. -/
def run (surroundings : Surroundings) (arguments : List Text) : Report :=
  match parse arguments with
  | .error error => misused error
  | .ok .help => { output := usageLines }
  | .ok (.tokens query) => { output := (tokenTable query).lines }
  | .ok (.suggest options) => runSuggest surroundings options

/-- The paths of the files that a command line names. -/
def filesNamed (arguments : List Text) : List Text :=
  match parse arguments with
  | .ok (.suggest options) => options.schema.toList ++ options.settings.toList
  | _ => []

end QueryCompletion.Command
