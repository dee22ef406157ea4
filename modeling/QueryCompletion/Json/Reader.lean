import QueryCompletion.Json.Basic
import QueryCompletion.Number.Numeral

/-!
Reading JSON. A fault carries its offset, and its message gives the line and column too. Besides the
numerals of the format, `NaN`, `Infinity` and `-Infinity` are read. Numerals of whole numbers and the
nesting of arrays and objects are bounded.
-/

namespace QueryCompletion.Json

open Numeral (isDigit digitsValue)

inductive Problem where
  | expectedValue
  | expectedName
  | expectedColon
  | expectedComma
  | extraData
  | unterminatedString
  | controlCharacter
  | badEscape
  | badCodeEscape
  | byteOrderMark
deriving DecidableEq, Repr

def Problem.message : Problem → String
  | .expectedValue => "Expecting value"
  | .expectedName => "Expecting property name enclosed in double quotes"
  | .expectedColon => "Expecting ':' delimiter"
  | .expectedComma => "Expecting ',' delimiter"
  | .extraData => "Extra data"
  | .unterminatedString => "Unterminated string starting at"
  | .controlCharacter => "Invalid control character at"
  | .badEscape => "Invalid \\escape"
  | .badCodeEscape => "Invalid \\uXXXX escape"
  | .byteOrderMark => "Unexpected UTF-8 BOM (decode using utf-8-sig)"

/-- What is wrong and the offset where it was noticed. -/
structure Fault where
  problem : Problem
  position : Nat
deriving DecidableEq, Repr

/-- Line and column of an offset, both counted from one. -/
def lineColumn (text : Text) (position : Nat) : Nat × Nat :=
  let read := text.take position
  (read.count '\n' + 1, (read.reverse.takeWhile (· ≠ '\n')).length + 1)

/-- The message of a fault in a text. -/
def Fault.message (fault : Fault) (text : Text) : String :=
  let place := lineColumn text fault.position
  fault.problem.message ++ ": line " ++ toString place.1 ++ " column " ++ toString place.2 ++
    " (char " ++ toString fault.position ++ ")"

/-- Why a text is not read. -/
inductive ReadError where
  | malformed (fault : Fault)
  | longNumeral (digits : Nat)
  | deepArray
  | deepObject
deriving DecidableEq, Repr

/-- The message of an error in a text. -/
def ReadError.message (text : Text) : ReadError → String
  | .malformed fault => fault.message text
  | .longNumeral digits =>
    "Exceeds the limit (4300 digits) for integer string conversion: value has " ++ toString digits ++
      " digits; use sys.set_int_max_str_digits() to increase the limit"
  | .deepArray => "maximum recursion depth exceeded while decoding a JSON array from a unicode string"
  | .deepObject => "maximum recursion depth exceeded while decoding a JSON object from a unicode string"

/-- The most digits that a whole number may have. -/
def digitLimit : Nat := 4300

/-- How many arrays and objects may lie around a value. -/
def depthLimit : Nat := 988

/-- What is still to be read, and its offset. -/
structure Input where
  rest : Text
  position : Nat

namespace Input

def advance (input : Input) (count : Nat) : Input :=
  ⟨input.rest.drop count, input.position + count⟩

def isBlank (c : Char) : Bool := c == ' ' || c == '\t' || c == '\n' || c == '\r'

def skipBlanks (input : Input) : Input :=
  input.advance (input.rest.takeWhile isBlank).length

def fault (input : Input) (problem : Problem) : ReadError := .malformed ⟨problem, input.position⟩

end Input

def hexValue? (c : Char) : Option Nat :=
  if '0' ≤ c && c ≤ '9' then some (c.toNat - 48)
  else if 'a' ≤ c && c ≤ 'f' then some (c.toNat - 87)
  else if 'A' ≤ c && c ≤ 'F' then some (c.toNat - 55)
  else none

def codeUnit? (a b c d : Char) : Option Nat := do
  return (((← hexValue? a) * 16 + (← hexValue? b)) * 16 + (← hexValue? c)) * 16 + (← hexValue? d)

/-- The character that a letter after a backslash stands for. -/
def escaped? (c : Char) : Option Nat :=
  match c with
  | '"' => some 0x22
  | '\\' => some 0x5C
  | '/' => some 0x2F
  | 'b' => some 0x08
  | 'f' => some 0x0C
  | 'n' => some 0x0A
  | 'r' => some 0x0D
  | 't' => some 0x09
  | _ => none

/-- The code units up to the closing quote of a string opened at `opening`; `units` holds those
already read, last first. -/
def readUnits (opening position : Nat) (units : List Nat) : Text → Except ReadError (List Nat × Input)
  | [] => .error (.malformed ⟨.unterminatedString, opening⟩)
  | '"' :: rest => .ok (units.reverse, ⟨rest, position + 1⟩)
  | ['\\'] => .error (.malformed ⟨.unterminatedString, opening⟩)
  | '\\' :: 'u' :: a :: b :: c :: d :: next :: rest =>
    match codeUnit? a b c d with
    | some unit => readUnits opening (position + 6) (unit :: units) (next :: rest)
    | none => .error (.malformed ⟨.badCodeEscape, position + 1⟩)
  | '\\' :: e :: rest =>
    if e = 'u' then .error (.malformed ⟨.badCodeEscape, position + 1⟩)
    else
      match escaped? e with
      | some unit => readUnits opening (position + 2) (unit :: units) rest
      | none => .error (.malformed ⟨.badEscape, position⟩)
  | c :: rest =>
    if c.toNat ≤ 0x1F then .error (.malformed ⟨.controlCharacter, position⟩)
    else readUnits opening (position + 1) (c.toNat :: units) rest

def isHighSurrogate (unit : Nat) : Bool := 0xD800 ≤ unit && unit ≤ 0xDBFF

def isLowSurrogate (unit : Nat) : Bool := 0xDC00 ≤ unit && unit ≤ 0xDFFF

/-- Code units as characters; a surrogate without its partner becomes the replacement character. -/
def joinSurrogates : List Nat → Text
  | [] => []
  | [unit] => [if isHighSurrogate unit || isLowSurrogate unit then '\uFFFD' else Char.ofNat unit]
  | unit :: next :: rest =>
    if isHighSurrogate unit && isLowSurrogate next then
      Char.ofNat (0x10000 + (unit - 0xD800) * 0x400 + (next - 0xDC00)) :: joinSurrogates rest
    else
      (if isHighSurrogate unit || isLowSurrogate unit then '\uFFFD' else Char.ofNat unit) ::
        joinSurrogates (next :: rest)

/-- A string whose opening quote has just been read. -/
def readString (input : Input) : Except ReadError (String × Input) := do
  let (units, after) ← readUnits (input.position - 1) input.position [] input.rest
  return (String.ofList (joinSurrogates units), after)

/-- A numeral at the start of a text, and its length: an optional minus sign, digits without a
leading zero, then an optional fraction and an optional exponent. -/
def numeral? (text : Text) : Option (Json × Nat) :=
  let negative := text.head? == some '-'
  let unsigned := if negative then text.drop 1 else text
  let whole :=
    match unsigned with
    | '0' :: _ => ['0']
    | _ => unsigned.takeWhile isDigit
  if whole.isEmpty then none
  else
    let afterWhole := unsigned.drop whole.length
    let fraction :=
      match afterWhole with
      | '.' :: rest => rest.takeWhile isDigit
      | _ => []
    let fractionLength := if fraction.isEmpty then 0 else fraction.length + 1
    let afterFraction := afterWhole.drop fractionLength
    let (exponent, exponentLength) : Int × Nat :=
      match afterFraction with
      | e :: rest =>
        if e = 'e' || e = 'E' then
          let signed := rest.head? == some '-' || rest.head? == some '+'
          let digits := (if signed then rest.drop 1 else rest).takeWhile isDigit
          if digits.isEmpty then (0, 0)
          else
            let value : Int := digitsValue digits
            (if rest.head? == some '-' then -value else value,
              1 + (if signed then 1 else 0) + digits.length)
        else (0, 0)
      | [] => (0, 0)
    let length := (if negative then 1 else 0) + whole.length + fractionLength + exponentLength
    if fractionLength = 0 && exponentLength = 0 then
      let value : Int := digitsValue whole
      some (.int (if negative then -value else value), length)
    else
      some (.float (.ofDecimal negative (digitsValue (whole ++ fraction)) (exponent - fraction.length)),
        length)

/-- The words that stand for values. -/
def literals : List (Text × Json) :=
  [("null".toList, .null), ("true".toList, .bool true), ("false".toList, .bool false),
    ("NaN".toList, .float .nan), ("Infinity".toList, .float (.infinite false)),
    ("-Infinity".toList, .float (.infinite true))]

/-- The number of digits in the value, if it is a whole number. -/
def wholeDigits : Json → Nat → Nat
  | .int n, length => if n < 0 then length - 1 else length
  | _, _ => 0

def readAtom (input : Input) : Except ReadError (Json × Input) :=
  match literals.find? fun literal => literal.1.isPrefixOf input.rest with
  | some literal => .ok (literal.2, input.advance literal.1.length)
  | none =>
    match numeral? input.rest with
    | some (value, length) =>
      let digits := wholeDigits value length
      if digitLimit < digits then .error (.longNumeral digits) else .ok (value, input.advance length)
    | none => .error (input.fault .expectedValue)

mutual

/-- One value, in which arrays and objects may lie `depth` deep. The fuel bounds the number of
values and commas on the way to any value. -/
def readValue : Nat → Nat → Input → Except ReadError (Json × Input)
  | 0, _, input => .error (input.fault .expectedValue)
  | fuel + 1, depth, input =>
    match input.rest, depth with
    | '"' :: _, _ => do
      let (value, after) ← readString (input.advance 1)
      return (.str value, after)
    | '[' :: _, 0 => .error .deepArray
    | '[' :: _, depth + 1 =>
      let inner := (input.advance 1).skipBlanks
      if inner.rest.head? == some ']' then .ok (.arr [], inner.advance 1)
      else readItems fuel depth [] inner
    | '{' :: _, 0 => .error .deepObject
    | '{' :: _, depth + 1 =>
      let inner := (input.advance 1).skipBlanks
      if inner.rest.head? == some '}' then .ok (.obj [], inner.advance 1)
      else readMembers fuel depth [] inner
    | _, _ => readAtom input

/-- The items of an array from the next one on; `items` holds those already read, last first. -/
def readItems : Nat → Nat → List Json → Input → Except ReadError (Json × Input)
  | 0, _, _, input => .error (input.fault .expectedValue)
  | fuel + 1, depth, items, input => do
    let (item, after) ← readValue fuel depth input
    let next := after.skipBlanks
    match next.rest with
    | ']' :: _ => return (.arr (item :: items).reverse, next.advance 1)
    | ',' :: _ => readItems fuel depth (item :: items) (next.advance 1).skipBlanks
    | _ => .error (next.fault .expectedComma)

/-- The members of an object from the next one on. -/
def readMembers : Nat → Nat → List (String × Json) → Input → Except ReadError (Json × Input)
  | 0, _, _, input => .error (input.fault .expectedName)
  | fuel + 1, depth, members, input => do
    match input.rest with
    | '"' :: _ =>
      let (name, afterName) ← readString (input.advance 1)
      let colon := afterName.skipBlanks
      match colon.rest with
      | ':' :: _ =>
        let (value, after) ← readValue fuel depth (colon.advance 1).skipBlanks
        let next := after.skipBlanks
        let grown := insertMember name value members
        match next.rest with
        | '}' :: _ => return (.obj grown, next.advance 1)
        | ',' :: _ => readMembers fuel depth grown (next.advance 1).skipBlanks
        | _ => .error (next.fault .expectedComma)
      | _ => .error (colon.fault .expectedColon)
    | _ => .error (input.fault .expectedName)

end

/-- The value that a whole text denotes. -/
def read (text : Text) : Except ReadError Json := do
  if text.head? == some '\uFEFF' then .error (.malformed ⟨.byteOrderMark, 0⟩)
  else
    let (value, after) ← readValue (2 * text.length + 2) depthLimit (Input.skipBlanks ⟨text, 0⟩)
    let rest := after.skipBlanks
    if rest.rest.isEmpty then return value else .error (rest.fault .extraData)

end QueryCompletion.Json
