import QueryCompletion.Text.Basic

/-!
Tokens of the query language and the classes of tokens that the cursor context looks at.
-/

namespace QueryCompletion

inductive TokenKind where
  | dot | comma
  | orWord | andWord | notWord | inWord | startsWithWord | endsWithWord
  | trueWord | falseWord | noneWord
  | name
  | string | int | float
  | parenL | parenR
  | equals | notEquals | greater | greaterEqual | less | lessEqual | contains | notContains
deriving DecidableEq, Repr

namespace TokenKind

/-- The name under which a kind is printed. -/
def label : TokenKind → String
  | .dot => "DOT"
  | .comma => "COMMA"
  | .orWord => "OR"
  | .andWord => "AND"
  | .notWord => "NOT"
  | .inWord => "IN"
  | .startsWithWord => "STARTSWITH"
  | .endsWithWord => "ENDSWITH"
  | .trueWord => "TRUE"
  | .falseWord => "FALSE"
  | .noneWord => "NONE"
  | .name => "NAME"
  | .string => "STRING_VALUE"
  | .int => "INT_VALUE"
  | .float => "FLOAT_VALUE"
  | .parenL => "PAREN_L"
  | .parenR => "PAREN_R"
  | .equals => "EQUALS"
  | .notEquals => "NOT_EQUALS"
  | .greater => "GREATER"
  | .greaterEqual => "GREATER_EQUAL"
  | .less => "LESS"
  | .lessEqual => "LESS_EQUAL"
  | .contains => "CONTAINS"
  | .notContains => "NOT_CONTAINS"

/-- Connectors between comparisons. -/
def isLogical : TokenKind → Bool
  | .andWord | .orWord => true
  | _ => false

/-- Comparison operators written with symbols. -/
def isComparison : TokenKind → Bool
  | .equals | .notEquals | .contains | .notContains
  | .greaterEqual | .greater | .lessEqual | .less => true
  | _ => false

/-- Tokens that end a comparison. -/
def endsValue : TokenKind → Bool
  | .parenR | .int | .float | .string => true
  | _ => false

end TokenKind

/-- A token and the offsets of its first character and of the character after its last. -/
structure Token where
  kind : TokenKind
  value : Text
  start : Nat
  stop : Nat
deriving DecidableEq, Repr

end QueryCompletion
