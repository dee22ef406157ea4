import QueryCompletion.Json.Basic

/-!
Writing JSON on one line. Only quotes, backslashes and control characters are escaped.
-/

namespace QueryCompletion.Json

def writeChar (c : Char) : Text :=
  if c = '"' then ['\\', '"']
  else if c = '\\' then ['\\', '\\']
  else if c.toNat < 0x20 || c.toNat = 0x7F then ['\\', 'u'] ++ Text.hexDigits 4 c.toNat
  else [c]

def writeString (s : String) : Text := '"' :: s.toList.flatMap writeChar ++ ['"']

/-- A number; infinities and the number that is none are spelled as they are read. -/
def writeNumber : Binary64 → Text
  | .infinite false => "Infinity".toList
  | .infinite true => "-Infinity".toList
  | .nan => "NaN".toList
  | x => x.text

mutual

/-- The text of a value. -/
def write : Json → Text
  | .null => "null".toList
  | .bool true => "true".toList
  | .bool false => "false".toList
  | .int n => intText n
  | .float x => writeNumber x
  | .str s => writeString s
  | .arr items => '[' :: writeItems items ++ [']']
  | .obj members => '{' :: writeMembers members ++ ['}']

def writeItems : List Json → Text
  | [] => []
  | [item] => write item
  | item :: rest => write item ++ ',' :: writeItems rest

def writeMembers : List (String × Json) → Text
  | [] => []
  | [(name, value)] => writeString name ++ ':' :: write value
  | (name, value) :: rest => writeString name ++ ':' :: write value ++ ',' :: writeMembers rest

end

end QueryCompletion.Json
