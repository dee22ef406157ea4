import QueryCompletion.Json.Reader
import QueryCompletion.Text.Utf8

/-!
The encodings in which JSON documents are sent. A document starts with two characters below U+0080,
so that the zeros among its first four bytes tell its encoding.
-/

namespace QueryCompletion.Json

inductive Encoding where
  | utf8
  /-- UTF-8 behind a byte order mark. -/
  | markedUtf8
  | utf16 (bigEndian : Bool)
  | utf32 (bigEndian : Bool)
deriving DecidableEq, Repr

namespace Encoding

/-- The encoding that the first four bytes tell. -/
def guess? (bytes : List Nat) : Option Encoding :=
  let sample := bytes.take 4
  if sample.take 3 = [0xEF, 0xBB, 0xBF] then some .markedUtf8
  else
    match sample.map (· == 0) with
    | [true, false, true, false] => some (.utf16 true)
    | [false, true, false, true] => some (.utf16 false)
    | [true, true, true, false] => some (.utf32 true)
    | [false, true, true, true] => some (.utf32 false)
    | zeros => if zeros.contains true then none else some .utf8

/-- The number that bytes write. -/
def number (bigEndian : Bool) (bytes : List Nat) : Nat :=
  (if bigEndian then bytes else bytes.reverse).foldl (fun value byte => value * 256 + byte) 0

/-- The code units of two bytes each, if the bytes come out even. -/
def units16? (bigEndian : Bool) : List Nat → Option (List Nat)
  | [] => some []
  | a :: b :: rest => (units16? bigEndian rest).map (number bigEndian [a, b] :: ·)
  | [_] => none

/-- The code units of four bytes each, if the bytes come out even. -/
def units32? (bigEndian : Bool) : List Nat → Option (List Nat)
  | [] => some []
  | a :: b :: c :: d :: rest => (units32? bigEndian rest).map (number bigEndian [a, b, c, d] :: ·)
  | _ => none

/-- The character of a code point, if it has one. -/
def character? (code : Nat) : Option Char :=
  if isHighSurrogate code || isLowSurrogate code || 0x10FFFF < code then none else some (Char.ofNat code)

/-- The characters of code units of which some come in pairs. -/
def joinPairs? : List Nat → Option Text
  | [] => some []
  | [unit] => (character? unit).map ([·])
  | unit :: next :: rest =>
    if isHighSurrogate unit && isLowSurrogate next then
      (joinPairs? rest).map (Char.ofNat (0x10000 + (unit - 0xD800) * 0x400 + (next - 0xDC00)) :: ·)
    else
      match character? unit with
      | some c => (joinPairs? (next :: rest)).map (c :: ·)
      | none => none

end Encoding

/-- The text of a document, given as the text that its bytes are in UTF-8. Bytes that tell no
encoding, or cannot be read in the one they tell, are taken for UTF-8; a byte order mark at the start
does not count. -/
def documentText (sent : Text) : Text :=
  let bytes := Text.utf8 sent
  let plain := if sent.head? == some '\uFEFF' then sent.tail else sent
  match if 3 < bytes.length then Encoding.guess? bytes else none with
  | some (.utf16 bigEndian) => ((Encoding.units16? bigEndian bytes).bind Encoding.joinPairs?).getD plain
  | some (.utf32 bigEndian) =>
    ((Encoding.units32? bigEndian bytes).bind (·.mapM Encoding.character?)).getD plain
  | _ => plain

end QueryCompletion.Json
