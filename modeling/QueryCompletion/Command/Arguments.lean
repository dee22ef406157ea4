import QueryCompletion.Number.Numeral
import QueryCompletion.Text.Quoted

/-!
Arguments of a command line. An argument that starts with a dash and goes on is an option; a double
dash ends the options. A valued option takes its value from behind an equals sign or from the next
argument, whatever that looks like.
-/

namespace QueryCompletion

namespace Command

/-- Why a command line cannot be understood. -/
inductive UsageError where
  | missingCommand
  | unknownCommand (name : Text)
  | unknownOption (name : Text)
  | missingValue (option : Text)
  | unwantedValue (option : Text)
  | missingQuery
  | extraArguments (arguments : List Text)
  | notAnInteger (text : Text)
  | notAPath (text : Text)
  | cursorOutside (length : Nat)
deriving DecidableEq, Repr

def UsageError.message : UsageError → String
  | .missingCommand => "Missing command."
  | .unknownCommand name => "No such command '" ++ String.ofList name ++ "'."
  | .unknownOption name => "No such option: " ++ String.ofList name
  | .missingValue option => "Option '" ++ String.ofList option ++ "' requires an argument."
  | .unwantedValue option => "Option '" ++ String.ofList option ++ "' does not take a value."
  | .missingQuery => "Missing argument 'QUERY'."
  | .extraArguments arguments =>
    "Got unexpected extra arguments (" ++ String.ofList (Text.joinWith [' '] arguments) ++ ")"
  | .notAnInteger text =>
    "Invalid value for '--cursor': '" ++ String.ofList text ++ "' is not a valid integer."
  | .notAPath text =>
    "Invalid value for '--config': " ++ String.ofList (Text.quoted text) ++ " is not a valid path."
  | .cursorOutside length => "Invalid value for --cursor: cursor must be between 0 and " ++ toString length

/-- An option that a command knows. -/
structure OptionSpec where
  name : Text
  valued : Bool
deriving DecidableEq, Repr

/-- Options in the order in which they are given, a flag with an empty value, and the other
arguments. -/
structure Arguments where
  options : List (Text × Text) := []
  others : List Text := []
deriving DecidableEq, Repr

namespace Arguments

def isOption : Text → Bool
  | '-' :: _ :: _ => true
  | _ => false

def withOption (name value : Text) (arguments : Arguments) : Arguments :=
  { arguments with options := (name, value) :: arguments.options }

def withOther (argument : Text) (arguments : Arguments) : Arguments :=
  { arguments with others := argument :: arguments.others }

/-- Sorts arguments into options and others. Unless options may stand behind other arguments, the
first other argument ends them. -/
def sort (known : List OptionSpec) (mixed : Bool) : List Text → Except UsageError Arguments
  | [] => .ok {}
  | argument :: rest =>
    if argument = ['-', '-'] then .ok { others := rest }
    else if isOption argument then
      let (name, explicit) := Text.cut '=' argument
      match known.find? (·.name = name), explicit, rest with
      | none, _, _ => .error (.unknownOption name)
      | some ⟨_, false⟩, some _, _ => .error (.unwantedValue name)
      | some ⟨_, false⟩, none, rest => (sort known mixed rest).map (withOption name [])
      | some ⟨_, true⟩, some value, rest => (sort known mixed rest).map (withOption name value)
      | some ⟨_, true⟩, none, value :: rest => (sort known mixed rest).map (withOption name value)
      | some ⟨_, true⟩, none, [] => .error (.missingValue name)
    else if mixed then (sort known mixed rest).map (withOther argument)
    else .ok { others := argument :: rest }

/-- The value of an option; the last one counts. -/
def value? (arguments : Arguments) (name : String) : Option Text :=
  arguments.options.reverse.lookup name.toList

def has (arguments : Arguments) (name : String) : Bool := (arguments.value? name).isSome

end Arguments

/-- What is to be suggested for. -/
structure SuggestOptions where
  query : Text
  schema : Option Text := none
  cursor : Option Int := none
  model : Option Text := none
  settings : Option Text := none
  debug : Bool := false
deriving DecidableEq, Repr

end Command

open Command in
/-- What a command line asks for. -/
inductive Command where
  | help
  | tokens (query : Text)
  | suggest (options : SuggestOptions)
deriving DecidableEq, Repr

namespace Command

def flag (name : String) : OptionSpec := ⟨name.toList, false⟩

def valued (name : String) : OptionSpec := ⟨name.toList, true⟩

/-- The one argument of a command. -/
def theQuery (arguments : Arguments) : Except UsageError Text :=
  match arguments.others with
  | [] => .error .missingQuery
  | [query] => .ok query
  | _ :: extra => .error (.extraArguments extra)

def cursorOption (arguments : Arguments) : Except UsageError (Option Int) :=
  match arguments.value? "--cursor" with
  | none => .ok none
  | some text =>
    match Numeral.whole text with
    | .ok cursor => .ok (some cursor)
    | .error _ => .error (.notAnInteger text)

/-- The path of the settings, which holds no zero character. -/
def settingsOption (arguments : Arguments) : Except UsageError (Option Text) :=
  match arguments.value? "--config" with
  | none => .ok none
  | some path => if path.contains '\x00' then .error (.notAPath path) else .ok (some path)

def parseTokens (arguments : List Text) : Except UsageError Command := do
  let sorted ← Arguments.sort [flag "--help"] true arguments
  if sorted.has "--help" then return .help
  else return .tokens (← theQuery sorted)

def parseSuggest (arguments : List Text) : Except UsageError Command := do
  let known := ["--schema", "--cursor", "--model", "--config"].map valued ++ ["--debug", "--help"].map flag
  let sorted ← Arguments.sort known true arguments
  if sorted.has "--help" then return .help
  else
    let query ← theQuery sorted
    let cursor ← cursorOption sorted
    let settings ← settingsOption sorted
    return .suggest
      { query
        schema := sorted.value? "--schema"
        cursor
        model := sorted.value? "--model"
        settings
        debug := sorted.has "--debug" }

/-- The command on a command line. Mistakes among the options come before a call for help, and help
before all others. -/
def parse (arguments : List Text) : Except UsageError Command := do
  let sorted ← Arguments.sort [flag "--help"] false arguments
  if sorted.has "--help" then return .help
  else
    match sorted.others with
    | [] => .error .missingCommand
    | name :: rest =>
      if name = "tokens".toList then parseTokens rest
      else if name = "suggest".toList then parseSuggest rest
      else .error (.unknownCommand name)

end Command

end QueryCompletion
