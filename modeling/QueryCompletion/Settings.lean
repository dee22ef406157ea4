import QueryCompletion.Files
import QueryCompletion.Json.Lenient
import QueryCompletion.Json.Reader
import QueryCompletion.Log

/-!
Settings of the engine. Every option has two spellings, of which the first one is preferred, and a
default. An option that cannot be read is logged and falls back to its default, so settings can
always be had.
-/

namespace QueryCompletion

open Json (Checked PathStep)

structure Settings where
  completionEnabled : Bool := true
  valuesCaseSensitive : Bool := false
  cacheSize : Nat := 100
  syntaxHelpUrl : Option String := none
  fetchDelay : Binary64 := .ofDecimal false 3 (-1)
  requestTimeout : Binary64 := .ofDecimal false 10 0
deriving DecidableEq, Repr

/-- The options in the order in which they are checked. -/
inductive SettingName where
  | completionEnabled | valuesCaseSensitive | cacheSize | syntaxHelpUrl | fetchDelay | requestTimeout
deriving DecidableEq, Repr

namespace SettingName

/-- The preferred spelling. -/
def preferred : SettingName → String
  | .completionEnabled => "completionEnabled"
  | .valuesCaseSensitive => "valuesCaseSensitive"
  | .cacheSize => "cacheSize"
  | .syntaxHelpUrl => "syntaxHelpUrl"
  | .fetchDelay => "fetchDelay"
  | .requestTimeout => "requestTimeout"

/-- The other spelling. -/
def name : SettingName → String
  | .completionEnabled => "completion_enabled"
  | .valuesCaseSensitive => "values_case_sensitive"
  | .cacheSize => "cache_size"
  | .syntaxHelpUrl => "syntax_help_url"
  | .fetchDelay => "fetch_delay"
  | .requestTimeout => "request_timeout"

def all : List SettingName :=
  [.completionEnabled, .valuesCaseSensitive, .cacheSize, .syntaxHelpUrl, .fetchDelay, .requestTimeout]

/-- The spelling in use among the given members: the preferred one if it is there. -/
def spelling? (setting : SettingName) (members : List (String × Json)) : Option String :=
  if (members.lookup setting.preferred).isSome then some setting.preferred
  else if (members.lookup setting.name).isSome then some setting.name
  else none

/-- The option that a key spells, if any. -/
def ofKey? (key : String) : Option SettingName :=
  all.find? fun setting => setting.name = key || setting.preferred = key

/-- What is logged when the value of an option is refused. -/
def refusal (setting : SettingName) (key : String) (kind : Json.IssueKind) : String :=
  match setting with
  | .cacheSize => "cache_size must be a positive integer"
  | .fetchDelay => "fetch_delay must be a non-negative number"
  | .requestTimeout => "request_timeout must be a positive number"
  | _ =>
    let reason :=
      match kind with
      | .unclearBool => "Input should be a valid boolean, unable to interpret input"
      | .notBool => "Input should be a valid boolean"
      | _ => "Input should be a valid string"
    "Invalid value for " ++ key ++ ": " ++ reason

end SettingName

namespace Settings

/-- Reads one option in the spelling in use. -/
def checkOption (members : List (String × Json)) (setting : SettingName) (absent : α)
    (check : Json → Checked α) : Checked α :=
  match setting.spelling? members with
  | some key => Json.checkMember members key absent check
  | none => .ok absent

/-- Reads all options, each on its own. -/
def ofMembers (members : List (String × Json)) : Checked Settings :=
  let default : Settings := {}
  let enabled := checkOption members .completionEnabled default.completionEnabled Json.checkBool
  let caseSensitive := checkOption members .valuesCaseSensitive default.valuesCaseSensitive Json.checkBool
  let cacheSize := checkOption members .cacheSize default.cacheSize Json.checkPositiveInt
  let helpUrl := checkOption members .syntaxHelpUrl default.syntaxHelpUrl Json.checkTextOrNull
  let delay := checkOption members .fetchDelay default.fetchDelay Json.checkNonNegative
  let timeout := checkOption members .requestTimeout default.requestTimeout Json.checkPositive
  (enabled.both (caseSensitive.both (cacheSize.both (helpUrl.both (delay.both timeout))))).map
    fun (completionEnabled, valuesCaseSensitive, cacheSize, syntaxHelpUrl, fetchDelay, requestTimeout) =>
      { completionEnabled, valuesCaseSensitive, cacheSize, syntaxHelpUrl, fetchDelay, requestTimeout }

/-- Settings that must be right as they are. -/
def ofJson : Json → Checked Settings
  | .obj members => ofMembers members
  | _ => .fail .notRecord

/-- The members without both spellings of the options that the issues are about, and what is logged
on the way. -/
def dropRefused : List Json.Issue → List (String × Json) → List (String × Json) × Log
  | [], members => (members, [])
  | issue :: rest, members =>
    match issue.path with
    | .name key :: _ =>
      match SettingName.ofKey? key with
      | some setting =>
        let kept := members.filter fun member => member.1 ≠ setting.name && member.1 ≠ setting.preferred
        let (left, log) := dropRefused rest kept
        (left, ⟨.error, setting.refusal key issue.kind⟩ :: log)
      | none => dropRefused rest members
    | _ => dropRefused rest members

/-- Settings from options given by a host, with what is logged about refused ones. -/
def load : Json → Settings × Log
  | .null => ({}, [])
  | .obj members =>
    match ofMembers members with
    | .ok settings => (settings, [])
    | .error issues =>
      let (left, log) := dropRefused issues members
      match ofMembers left with
      | .ok settings => (settings, log)
      | .error _ => ({}, log)
  | other =>
    ({}, [⟨.error, "Please pass a mapping with configuration options, got " ++ other.kindName⟩])

end Settings

/-- Why settings could not be read from a file. -/
inductive SettingsFileError where
  | notFound (path : Text)
  | inaccessible (path : Text) (error : AccessError)
  | unreadable (error : Json.ReadError) (text : Text)
deriving Repr

def SettingsFileError.message : SettingsFileError → String
  | .notFound path => "Configuration file not found: " ++ String.ofList path
  | .inaccessible path error => error.message path
  | .unreadable error text => error.message text

/-- What is logged about a file of settings at a path. -/
def SettingsFileError.log (path : Text) : SettingsFileError → Log
  | .notFound missing => [⟨.error, (SettingsFileError.notFound missing).message⟩]
  | .unreadable (.malformed fault) text =>
    [⟨.error, "Invalid JSON in configuration file " ++ String.ofList path ++ ": " ++ fault.message text⟩]
  | _ => []

/-- The options in the file at a path as it is shown in messages. -/
def Settings.readOptions (files : Files) (path : Text) : Except SettingsFileError Json := do
  let there ← (files.hasPath path).mapError (.inaccessible path)
  if !there then .error (.notFound path)
  else
    let text := Text.unifyLineEnds (← (files.read path).mapError (.inaccessible path))
    (Json.read text).mapError (.unreadable · text)

/-- Settings from the file at a path, and what is logged about them. -/
def Settings.loadFile (files : Files) (path : Text) : Except SettingsFileError Settings × Log :=
  let shown := Path.shown path
  match Settings.readOptions files shown with
  | .error problem => (.error problem, problem.log shown)
  | .ok options =>
    let (settings, log) := Settings.load options
    (.ok settings, log)

end QueryCompletion
