import QueryCompletion.Text.Basic

/-!
Setting up where log records go: to the console, to a rotating file, or to both. The path of the log
file is remembered from one setup to the next.
-/

namespace QueryCompletion

/-- The least severe level that is written, by name or by number. -/
inductive Threshold where
  | name (name : String)
  | number (number : Int)
deriving DecidableEq, Repr

structure LogSettings where
  path : Option Text := none
  threshold : Threshold := .name "INFO"
  rotation : String := "10 MB"
  retention : String := "7 days"
  compression : String := "zip"
  toConsole : Bool := true
  toFile : Bool := false
deriving DecidableEq, Repr

/-- Where records are written and how. -/
inductive Sink where
  | console (threshold : Threshold) (format : String)
  | file (path : Text) (threshold : Threshold) (format rotation retention compression : String)
deriving DecidableEq, Repr

/-- What is asked of the logging facility. -/
inductive LogAction where
  | removeSinks
  | enable (package : String)
  | add (sink : Sink)
deriving DecidableEq, Repr

namespace LogSetup

/-- The package whose records are enabled. -/
def package : String := "djangoql_completion"

def fileName : Text := "djangoql_completion.log".toList

def consoleFormat : String :=
  "<green>\x7btime:YYYY-MM-DD HH:mm:ss\x7d</green> | <level>\x7blevel: <8\x7d</level> | " ++
    "<cyan>\x7bname\x7d</cyan>:<cyan>\x7bfunction\x7d</cyan>:<cyan>\x7bline\x7d</cyan> - " ++
    "<level>\x7bmessage\x7d</level>"

def fileFormat : String :=
  "\x7btime:YYYY-MM-DD HH:mm:ss\x7d | \x7blevel: <8\x7d | \x7bname\x7d:\x7bfunction\x7d:\x7bline\x7d - " ++
    "\x7bmessage\x7d"

/-- A path seen from a directory; an absolute path stays as it is. -/
def located (root path : Text) : Text :=
  if path.head? = some '/' then path else root ++ '/' :: path

/-- The path of the log file: the one that is given, else the remembered one, else the usual one. -/
def logPath (root : Text) (remembered : Option Text) (settings : LogSettings) : Text :=
  match settings.path, remembered with
  | some path, _ => located root path
  | none, some path => path
  | none, none => located root fileName

/-- What a setup does, and the path remembered after it. A path is only remembered when a file is
written. -/
def apply (root : Text) (remembered : Option Text) (settings : LogSettings) : List LogAction × Option Text :=
  let console : List LogAction :=
    if settings.toConsole then [.add (.console settings.threshold consoleFormat)] else []
  let start : List LogAction := [.removeSinks, .enable package] ++ console
  if settings.toFile then
    let path := logPath root remembered settings
    (start ++ [.add (.file path settings.threshold fileFormat settings.rotation settings.retention
      settings.compression)], some path)
  else (start, remembered)

/-- The name that records are bound to; an empty name binds nothing. -/
def boundName (name : Option Text) : Option Text := name.filter (!·.isEmpty)

end LogSetup

end QueryCompletion
