/-!
Failures that no part of the program expects.
-/

namespace QueryCompletion

/-- A failure that no part of the program expects. -/
inductive Failure where
  | timeout
  | runtime (message : String)
  | value (message : String)
  | recursion (message : String)
deriving DecidableEq, Repr

end QueryCompletion
