import QueryCompletion.Number.Binary64
import QueryCompletion.Text.Space

/-!
Numerals typed by people, as option values: white space around them, a sign, digits grouped by
single underscores. Whole numbers may start with zeros and carry a fraction of zeros; other numbers
may be infinite or no number at all.
-/

namespace QueryCompletion.Numeral

def isDigit (c : Char) : Bool := '0' ≤ c && c ≤ '9'

/-- The value of a run of decimal digits. -/
def digitsValue (digits : Text) : Nat :=
  digits.foldl (fun value c => value * 10 + (c.toNat - 48)) 0

/-- Whether the text is `-…`, and the text behind an optional sign. -/
def splitSign : Text → Bool × Text
  | '-' :: rest => (true, rest)
  | '+' :: rest => (false, rest)
  | text => (false, text)

/-- Whether underscores stand single and neither first nor last. -/
def groupedWell (text : Text) : Bool :=
  (Text.pieces '_' text).all (!·.isEmpty)

def withoutUnderscores (text : Text) : Text := text.filter (· ≠ '_')

/-- Why a text is no whole number. -/
inductive WholeError where
  | unclear
  | oversized
deriving DecidableEq, Repr

/-- A numeral of a whole number has at most this many characters. -/
def wholeLimit : Nat := 4300

/-- A whole number in its plain form: at most a minus sign, then digits that start with a zero only
if they are a single one. -/
def plainWhole (text : Text) : Except WholeError Int :=
  let (sign, unsigned) := text.span (· == '-')
  let digits := unsigned.takeWhile isDigit
  let value : Int := digitsValue digits
  if 1 < sign.length || digits.isEmpty then .error .unclear
  else if unsigned.head? == some '0' then if unsigned.length = 1 then .ok 0 else .error .unclear
  else if wholeLimit < sign.length + digits.length then .error .oversized
  else if digits.length < unsigned.length then .error .unclear
  else .ok (if sign.isEmpty then value else -value)

/-- The numeral without the zeros at its start. Once a zero has been read, underscores are skipped
with the zeros, and a minus sign may follow them. -/
def dropZeros? (text : Text) : Option Text :=
  let starts := fun (c : Char) => isDigit c || c == '-'
  match text with
  | '0' :: rest =>
    let skipped := rest.takeWhile fun c => c == '0' || c == '_'
    match rest.drop skipped.length with
    | [] => some [('0' :: skipped).getLast?.getD '0']
    | '.' :: fraction => some (('0' :: skipped).getLast?.getD '0' :: '.' :: fraction)
    | c :: more => if starts c then some (c :: more) else none
  | c :: more => if starts c then some (c :: more) else none
  | [] => none

/-- The numeral without a fraction of zeros. -/
def dropZeroFraction (text : Text) : Text :=
  match Text.cut '.' text with
  | (whole, some fraction) => if !fraction.isEmpty && fraction.all (· == '0') then whole else text
  | (_, none) => text

/-- The plain form of a whole number with white space, a plus sign, zeros or underscores in it. -/
def tidyWhole? (text : Text) : Option Text := do
  let trimmed := Text.trimBy Text.isPatternSpace text
  let unsigned :=
    match trimmed with
    | '+' :: '-' :: _ => trimmed
    | '+' :: rest => rest
    | _ => trimmed
  let whole := dropZeroFraction (← dropZeros? unsigned)
  if groupedWell whole then return withoutUnderscores whole else none

/-- A whole number. -/
def whole (text : Text) : Except WholeError Int :=
  match plainWhole text with
  | .error .unclear => (tidyWhole? text).elim (.error .unclear) plainWhole
  | result => result

def lowerAscii (text : Text) : Text := text.map Char.toLower

/-- An exponent: an optional sign and digits. -/
def exponent? (text : Text) : Option Int :=
  let (negative, digits) := splitSign text
  if digits.isEmpty || !digits.all isDigit then none
  else some (if negative then -(digitsValue digits : Int) else digitsValue digits)

/-- An unsigned decimal: digits with at most one point among or around them, then an optional
exponent. -/
def decimal? (negative : Bool) (text : Text) : Option Binary64 :=
  let isMark := fun (c : Char) => c == 'e' || c == 'E'
  let mantissa := text.takeWhile (!isMark ·)
  let rest := text.drop mantissa.length
  let exponent := if rest.isEmpty then some 0 else exponent? (rest.drop 1)
  let whole := mantissa.takeWhile isDigit
  let pointed := mantissa.drop whole.length
  let fraction := pointed.drop 1
  let digits := whole ++ fraction
  if digits.isEmpty || !fraction.all isDigit || !(pointed.isEmpty || pointed.head? == some '.') then none
  else exponent.map fun power => .ofDecimal negative (digitsValue digits) (power - fraction.length)

/-- A number without white space or underscores. -/
def plainNumber? (text : Text) : Option Binary64 :=
  let (negative, unsigned) := splitSign text
  let word := lowerAscii unsigned
  if word = "inf".toList || word = "infinity".toList then some (.infinite negative)
  else if word = "nan".toList then some .nan
  else decimal? negative unsigned

/-- A number, with white space around it or with single underscores inside it. -/
def number? (text : Text) : Option Binary64 :=
  match plainNumber? (Text.trimBy Text.isPatternSpace text) with
  | some value => some value
  | none =>
    if text.contains '_' && groupedWell text then plainNumber? (withoutUnderscores text) else none

end QueryCompletion.Numeral
