import QueryCompletion.Text.Basic

/-!
Punycode: a text in letters, digits and hyphens only. The characters below U+0080 come first and as
they are; behind the last hyphen the others follow in increasing order, each as the distance from
the one before, counted over all characters and all places where it could stand.
-/

namespace QueryCompletion.Punycode

/-- The character of a digit: `a` to `z`, then `0` to `9`. -/
def digit (value : Nat) : Char := Char.ofNat (if value < 26 then 97 + value else 22 + value)

/-- The value of a digit, in either case. -/
def digitValue? (c : Char) : Option Nat :=
  if 'a' ≤ c && c ≤ 'z' then some (c.toNat - 97)
  else if 'A' ≤ c && c ≤ 'Z' then some (c.toNat - 65)
  else if '0' ≤ c && c ≤ '9' then some (c.toNat - 22)
  else none

/-- A digit below the threshold of its place is the last one of its number. -/
def threshold (place bias : Nat) : Nat := max 1 (min 26 (place - bias))

/-- A number as digits, the least place first. -/
def digitsFrom (bias place number : Nat) : Text :=
  let least := threshold place bias
  if number < least then [digit number]
  else
    digit (least + (number - least) % (36 - least)) ::
      digitsFrom bias (place + 36) ((number - least) / (36 - least))
termination_by number
decreasing_by
  have positive : 1 ≤ threshold place bias := Nat.le_max_left ..
  exact Nat.lt_of_le_of_lt (Nat.div_le_self ..) (by omega)

/-- How often a distance can be divided by 35 until it is small, in places, and what is left. -/
def shrink (distance places : Nat) : Nat × Nat :=
  if 455 < distance then shrink (distance / 35) (places + 36) else (distance, places)
termination_by distance
decreasing_by exact Nat.div_lt_self (by omega) (by omega)

/-- The bias for the number that follows a distance, once `count` characters have been written. -/
def adapt (distance count : Nat) (first : Bool) : Nat :=
  let damped := if first then distance / 700 else distance / 2
  let (left, places) := shrink (damped + damped / count) 0
  places + 36 * left / (left + 38)

/-- How far writing has come: the distance counted so far, the characters written and the bias. -/
structure Progress where
  distance : Nat := 0
  count : Nat
  bias : Nat := 72
  first : Bool := true
  written : Text := []

/-- Passes one character of the text while those equal to `code` are written. -/
def Progress.pass (code : Nat) (progress : Progress) (c : Char) : Progress :=
  if c.toNat < code then { progress with distance := progress.distance + 1 }
  else if c.toNat = code then
    { distance := 0
      count := progress.count + 1
      bias := adapt progress.distance (progress.count + 1) progress.first
      first := false
      written := progress.written ++ digitsFrom progress.bias 36 progress.distance }
  else progress

/-- Writes all characters of the given increasing codes, where `next` is the least code that has not
been counted yet. -/
def writeCodes (text : Text) (next : Nat) (progress : Progress) : List Nat → Progress
  | [] => progress
  | code :: codes =>
    let counted := { progress with
      distance := progress.distance + (code - next) * (progress.count + 1) }
    let passed := text.foldl (Progress.pass code) counted
    writeCodes text (code + 1) { passed with distance := passed.distance + 1 } codes

/-- Codes in increasing order, each once. -/
def insertCode (code : Nat) : List Nat → List Nat
  | [] => [code]
  | least :: codes =>
    if code < least then code :: least :: codes
    else if code = least then least :: codes
    else least :: insertCode code codes

/-- The text in Punycode. -/
def encode (text : Text) : Text :=
  let basic := text.filter (·.toNat < 0x80)
  let others := (text.filter (0x80 ≤ ·.toNat)).foldl (fun codes c => insertCode c.toNat codes) []
  let written := (writeCodes text 0x80 { count := basic.length } others).written
  if basic.isEmpty then written else basic ++ '-' :: written

/-- The number that digits write from a place on, and the digits behind it. -/
def readNumber? (bias place weight number : Nat) : Text → Option (Nat × Text)
  | [] => none
  | c :: rest =>
    match digitValue? c with
    | none => none
    | some value =>
      let grown := number + value * weight
      let least := threshold place bias
      if value < least then some (grown, rest)
      else readNumber? bias (place + 36) (weight * (36 - least)) grown rest

/-- Puts in the characters that digits write; `code` and `place` are those of the character put in
last. The fuel bounds the number of characters. -/
def readCodes? : Nat → Nat → Nat → Nat → Bool → Text → Text → Option Text
  | _, _, _, _, _, text, [] => some text
  | 0, _, _, _, _, _, _ :: _ => none
  | fuel + 1, bias, code, place, first, text, digits =>
    match readNumber? bias 36 1 0 digits with
    | none => none
    | some (distance, rest) =>
      let total := place + distance
      let next := code + total / (text.length + 1)
      let spot := total % (text.length + 1)
      if 0x10FFFF < next then none
      else
        let grown := text.take spot ++ Char.ofNat next :: text.drop spot
        readCodes? fuel (adapt distance grown.length first) next (spot + 1) false grown rest

/-- The text that Punycode stands for. -/
def decode? (code : Text) : Option Text :=
  let digits := (code.reverse.takeWhile (· ≠ '-')).reverse
  let basic := code.take (code.length - digits.length - 1)
  readCodes? digits.length 72 0x80 0 true basic digits

end QueryCompletion.Punycode
