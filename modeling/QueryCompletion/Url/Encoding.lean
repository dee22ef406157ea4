import QueryCompletion.Text.Quoted
import QueryCompletion.Text.Utf8

/-!
Percent encoding. A character outside the allowed ones is written as the bytes of its UTF-8 form,
each as a percent sign and two capital hexadecimal digits.
-/

namespace QueryCompletion.Url

def percentByte (byte : Nat) : Text := '%' :: (Text.hexDigits 2 byte).map Char.toUpper

/-- One character as its percent-encoded bytes. -/
def percentChar (c : Char) : Text := (Text.utf8Char c).flatMap percentByte

/-- The text with every character that is not allowed percent-encoded. -/
def encode (allowed : Char → Bool) (text : Text) : Text :=
  text.flatMap fun c => if allowed c then [c] else percentChar c

def isAlphanumeric (c : Char) : Bool :=
  ('a' ≤ c && c ≤ 'z') || ('A' ≤ c && c ≤ 'Z') || ('0' ≤ c && c ≤ '9')

/-- Characters that never need encoding. -/
def isUnreserved (c : Char) : Bool :=
  isAlphanumeric c || c == '-' || c == '.' || c == '_' || c == '~'

/-- A name or value of a form: blanks become plus signs. -/
def encodeForm (text : Text) : Text :=
  text.flatMap fun c => if c == ' ' then ['+'] else if isUnreserved c then [c] else percentChar c

/-- The query that a list of names and values is sent as. -/
def formQuery (fields : List (Text × Text)) : Text :=
  Text.joinWith ['&'] (fields.map fun field => encodeForm field.1 ++ '=' :: encodeForm field.2)

def isHex (c : Char) : Bool :=
  ('0' ≤ c && c ≤ '9') || ('a' ≤ c && c ≤ 'f') || ('A' ≤ c && c ≤ 'F')

end QueryCompletion.Url
