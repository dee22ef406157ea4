import QueryCompletion.Text.Lowercase
import QueryCompletion.Text.UnprintableTable

/-!
Quoted texts in messages and tables: single quotes, or double quotes around a text that holds single
quotes only; backslash escapes for the quote, the backslash and whatever does not print.
-/

namespace QueryCompletion.Text

def isPrintable (c : Char) : Bool := !inRanges unprintableRanges c.toNat

/-- Hexadecimal digits of a number, filled up with zeros to a width. -/
def hexDigits (width n : Nat) : Text :=
  let digits := Nat.toDigits 16 n
  List.replicate (width - digits.length) '0' ++ digits

def escapeCode (c : Char) : Text :=
  let n := c.toNat
  if n ≤ 0xFF then ['\\', 'x'] ++ hexDigits 2 n
  else if n ≤ 0xFFFF then ['\\', 'u'] ++ hexDigits 4 n
  else ['\\', 'U'] ++ hexDigits 8 n

/-- One character inside the given quotes. -/
def quotedChar (quote c : Char) : Text :=
  if c = quote || c = '\\' then ['\\', c]
  else if c = '\n' then ['\\', 'n']
  else if c = '\r' then ['\\', 'r']
  else if c = '\t' then ['\\', 't']
  else if isPrintable c then [c]
  else escapeCode c

/-- The text in quotes. -/
def quoted (text : Text) : Text :=
  let quote := if text.contains '\x27' && !text.contains '"' then '"' else '\x27'
  quote :: text.flatMap (quotedChar quote) ++ [quote]

end QueryCompletion.Text
