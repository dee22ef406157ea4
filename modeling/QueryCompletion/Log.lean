/-!
Problems that are logged: only warnings and errors are kept, oldest first.
-/

namespace QueryCompletion

inductive LogLevel where
  | warning | error
deriving DecidableEq, Repr

def LogLevel.label : LogLevel → String
  | .warning => "WARNING"
  | .error => "ERROR"

structure LogEntry where
  level : LogLevel
  message : String
deriving DecidableEq, Repr

abbrev Log := List LogEntry

/-- The first line of a message. -/
def LogEntry.headline (entry : LogEntry) : String :=
  String.ofList (entry.message.toList.takeWhile (· ≠ '\n'))

end QueryCompletion
