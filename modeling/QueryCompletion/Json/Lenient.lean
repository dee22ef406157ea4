import QueryCompletion.Json.Basic
import QueryCompletion.Number.Numeral

/-!
Lenient readers of values from outside. A reader converts what can be converted and otherwise lists
every issue with the path to it, in the order in which the parts are declared.
-/

namespace QueryCompletion.Json

/-- One step on the way to a part of a value. -/
inductive PathStep where
  | name (name : String)
  | index (index : Nat)
deriving DecidableEq, Repr

inductive IssueKind where
  | missing
  | notRecord
  | notMap
  | notList
  | notText
  | notBool
  | unclearBool
  | notInt
  | unclearInt
  | fractionalInt
  | oversizedInt
  | notFinite
  | notNumber
  | unclearNumber
  | tooSmall
  | belowMinimum
deriving DecidableEq, Repr

/-- The code under which an issue is reported. -/
def IssueKind.code : IssueKind → String
  | .missing => "missing"
  | .notRecord => "model_type"
  | .notMap => "dict_type"
  | .notList => "list_type"
  | .notText => "string_type"
  | .notBool => "bool_type"
  | .unclearBool => "bool_parsing"
  | .notInt => "int_type"
  | .unclearInt => "int_parsing"
  | .fractionalInt => "int_from_float"
  | .oversizedInt => "int_parsing_size"
  | .notFinite => "finite_number"
  | .notNumber => "float_type"
  | .unclearNumber => "float_parsing"
  | .tooSmall => "greater_than"
  | .belowMinimum => "greater_than_equal"

structure Issue where
  path : List PathStep
  kind : IssueKind
deriving DecidableEq, Repr

/-- A value read, or the issues that kept it from being read. -/
abbrev Checked (α : Type) := Except (List Issue) α

namespace Checked

def fail (kind : IssueKind) : Checked α := .error [⟨[], kind⟩]

/-- Issues reported as lying below one more step. -/
def within (step : PathStep) : Checked α → Checked α
  | .ok value => .ok value
  | .error issues => .error (issues.map fun issue => { issue with path := step :: issue.path })

/-- Both values, or the issues of both. -/
def both : Checked α → Checked β → Checked (α × β)
  | .ok a, .ok b => .ok (a, b)
  | .ok _, .error issues => .error issues
  | .error issues, .ok _ => .error issues
  | .error first, .error second => .error (first ++ second)

/-- All values in order, or all their issues in order. -/
def all : List (Checked α) → Checked (List α)
  | [] => .ok []
  | checked :: rest => (both checked (all rest)).map fun pair => pair.1 :: pair.2

end Checked

def checkText : Json → Checked String
  | .str s => .ok s
  | _ => .fail .notText

/-- A text or nothing. -/
def checkTextOrNull : Json → Checked (Option String)
  | .null => .ok none
  | value => (checkText value).map some

/-- The words for yes and no, whatever their case. -/
def boolOfWord? (word : Text) : Option Bool :=
  let lowered := String.ofList (Numeral.lowerAscii word)
  if ["1", "t", "true", "y", "yes", "on"].contains lowered then some true
  else if ["0", "f", "false", "n", "no", "off"].contains lowered then some false
  else none

def boolOfInt? (n : Int) : Option Bool :=
  if n = 0 then some false else if n = 1 then some true else none

def Checked.ofOption (kind : IssueKind) : Option α → Checked α
  | some value => .ok value
  | none => .fail kind

/-- Whole numbers taken from floating-point numbers stay below this magnitude. -/
def wordLimit : Nat := twoTo 63

/-- Whether a number fits into a signed word. -/
def fitsWord (n : Int) : Bool := -(wordLimit : Int) ≤ n && n < wordLimit

def checkBool : Json → Checked Bool
  | .bool b => .ok b
  | .int n => if fitsWord n then .ofOption .unclearBool (boolOfInt? n) else .fail .notBool
  | .str s => .ofOption .unclearBool (boolOfWord? s.toList)
  | .float x =>
    match x.toInt? with
    | some n =>
      if n.natAbs < wordLimit then .ofOption .unclearBool (boolOfInt? n) else .fail .notBool
    | none => .fail .notBool
  | _ => .fail .notBool

def checkInt : Json → Checked Int
  | .int n => .ok n
  | .bool b => .ok (if b then 1 else 0)
  | .float x =>
    match x with
    | .finite .. =>
      match x.toInt? with
      | some n => if n.natAbs < wordLimit then .ok n else .fail .oversizedInt
      | none => .fail .fractionalInt
    | _ => .fail .notFinite
  | .str s =>
    match Numeral.whole s.toList with
    | .ok n => .ok n
    | .error .unclear => .fail .unclearInt
    | .error .oversized => .fail .oversizedInt
  | _ => .fail .notInt

/-- A whole number above zero. -/
def checkPositiveInt (value : Json) : Checked Nat := do
  let n ← checkInt value
  if 0 < n then return n.toNat else .fail .tooSmall

def checkNumber : Json → Checked Binary64
  | .float x => .ok x
  | .int n => .ofOption .notNumber (Binary64.ofInt n).bounded?
  | .bool b => .ok (Binary64.ofNat (if b then 1 else 0))
  | .str s => .ofOption .unclearNumber (Numeral.number? s.toList)
  | _ => .fail .notNumber

def checkNonNegative (value : Json) : Checked Binary64 := do
  let x ← checkNumber value
  if x.isNonNegative then return x else .fail .belowMinimum

def checkPositive (value : Json) : Checked Binary64 := do
  let x ← checkNumber value
  if x.isPositive then return x else .fail .tooSmall

/-- The items of a list from the given index on. -/
def checkTextsFrom (index : Nat) : List Json → List (Checked Text)
  | [] => []
  | item :: rest =>
    Checked.within (.index index) ((checkText item).map String.toList) :: checkTextsFrom (index + 1) rest

def checkTexts : Json → Checked (List Text)
  | .arr items => .all (checkTextsFrom 0 items)
  | _ => .fail .notList

/-- A member that may be absent, and then has the given value. -/
def checkMember (members : List (String × Json)) (name : String) (absent : α)
    (check : Json → Checked α) : Checked α :=
  match members.lookup name with
  | some value => (check value).within (.name name)
  | none => .ok absent

/-- A member that must be present. -/
def checkRequired (members : List (String × Json)) (name : String) (check : Json → Checked α) :
    Checked α :=
  match members.lookup name with
  | some value => (check value).within (.name name)
  | none => Checked.within (.name name) (.fail .missing)

/-- How a list of issues is counted in messages. -/
def issueCount (issues : List Issue) (title : String) : String :=
  toString issues.length ++ (if issues.length = 1 then " validation error for " else " validation errors for ") ++
    title

end QueryCompletion.Json
