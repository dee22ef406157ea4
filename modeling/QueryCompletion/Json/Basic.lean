import QueryCompletion.Number.Shortest
import QueryCompletion.Text.Quoted

/-!
Data in JSON form. The members of an object keep the order in which they were first written; a
member written again keeps its place and takes the later value.
-/

namespace QueryCompletion

inductive Json where
  | null
  | bool (value : Bool)
  | int (value : Int)
  | float (value : Binary64)
  | str (value : String)
  | arr (items : List Json)
  | obj (members : List (String × Json))
deriving Repr, Inhabited

namespace Json

/-- The members with one more written behind them. -/
def insertMember (name : String) (value : Json) : List (String × Json) → List (String × Json)
  | [] => [(name, value)]
  | member :: rest =>
    if member.1 = name then (name, value) :: rest else member :: insertMember name value rest

/-- The value of a member of an object. -/
def member? (name : String) : Json → Option Json
  | .obj members => members.lookup name
  | _ => none

def text (value : Text) : Json := .str (String.ofList value)

def nat (n : Nat) : Json := .int n

/-- `null` for an absent value. -/
def ofOption (encode : α → Json) : Option α → Json
  | none => .null
  | some value => encode value

/-- The kind of a value in messages. -/
def kindName : Json → String
  | .null => "NoneType"
  | .bool _ => "bool"
  | .int _ => "int"
  | .float _ => "float"
  | .str _ => "str"
  | .arr _ => "list"
  | .obj _ => "dict"

def intText (n : Int) : Text :=
  let digits := Nat.toDigits 10 n.natAbs
  if n < 0 then '-' :: digits else digits

mutual

/-- A value as messages show it: texts in quotes, `None`, `True` and `False`. -/
def display : Json → Text
  | .null => "None".toList
  | .bool true => "True".toList
  | .bool false => "False".toList
  | .int n => intText n
  | .float x => x.text
  | .str s => Text.quoted s.toList
  | .arr items => '[' :: displayItems items ++ [']']
  | .obj members => '{' :: displayMembers members ++ ['}']

def displayItems : List Json → Text
  | [] => []
  | [item] => display item
  | item :: rest => display item ++ [',', ' '] ++ displayItems rest

def displayMembers : List (String × Json) → Text
  | [] => []
  | [(name, value)] => Text.quoted name.toList ++ [':', ' '] ++ display value
  | (name, value) :: rest =>
    Text.quoted name.toList ++ [':', ' '] ++ display value ++ [',', ' '] ++ displayMembers rest

end

end Json

end QueryCompletion
