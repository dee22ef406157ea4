import QueryCompletion.Text.CompositionTable
import QueryCompletion.Text.RangeTable

/-!
The composed form of a text: what can be written as one character is, and combining characters that
follow one another stand in the order of their classes. It is reached by taking all characters
apart, ordering the combining ones and putting together what fits.
-/

namespace QueryCompletion.Text

/-- A character that is composed of two others. -/
structure Composition where
  composed : Nat
  first : Nat
  second : Nat
deriving DecidableEq, Repr

def compositions : List Composition :=
  (entries compositionRows).map fun entry =>
    let (composed, parts) := cut ':' entry
    let (first, second) := hexBounds '+' (parts.getD [])
    ⟨hexNumber composed, first, second⟩

/-- Ranges of combining characters with their classes. -/
def combiningClasses : List ((Nat × Nat) × Nat) :=
  (entries combiningRows).map fun entry =>
    let (range, order) := cut ':' entry
    (hexBounds '-' range, hexNumber (order.getD []))

/-- The class by which a combining character is ordered, zero for any other character. -/
def combiningClass (code : Nat) : Nat :=
  ((combiningClasses.find? fun entry => entry.1.1 ≤ code && code ≤ entry.1.2).map Prod.snd).getD 0

/-- Syllables composed of two or three letters fill one block, in the order of their letters. -/
def syllableBase : Nat := 0xAC00

/-- The letters of a syllable, if the character is one. -/
def syllableLetters? (code : Nat) : Option (List Nat) :=
  if syllableBase ≤ code && code < syllableBase + 11172 then
    let index := code - syllableBase
    let final := index % 28
    some ([0x1100 + index / 588, 0x1161 + index % 588 / 28] ++ if final = 0 then [] else [0x11A7 + final])
  else none

/-- The syllable of two letters, or of a syllable and a final letter. -/
def syllable? (first second : Nat) : Option Nat :=
  if 0x1100 ≤ first && first < 0x1113 && 0x1161 ≤ second && second < 0x1176 then
    some (syllableBase + ((first - 0x1100) * 21 + (second - 0x1161)) * 28)
  else if syllableBase ≤ first && first < syllableBase + 11172 && (first - syllableBase) % 28 = 0 &&
      0x11A7 < second && second < 0x11C3 then
    some (first + (second - 0x11A7))
  else none

/-- The characters that a character is composed of. The fuel bounds how often the first of them can
be taken apart again. -/
def takeApart : Nat → Nat → List Nat
  | 0, code => [code]
  | fuel + 1, code =>
    match syllableLetters? code with
    | some letters => letters
    | none =>
      match compositions.find? (·.composed = code) with
      | some composition => takeApart fuel composition.first ++ takeApart fuel composition.second
      | none => [code]

/-- The character composed of two others, if there is one. -/
def compose? (first second : Nat) : Option Nat :=
  (syllable? first second).or
    ((compositions.find? fun composition =>
      composition.first = first && composition.second = second).map Composition.composed)

/-- Puts a combining character before those of higher classes at the start of a reversed text. -/
def insertCombining (code : Nat) : List Nat → List Nat
  | [] => [code]
  | last :: before =>
    if combiningClass code ≠ 0 && combiningClass code < combiningClass last then
      last :: insertCombining code before
    else code :: last :: before

/-- The characters with combining ones in the order of their classes. -/
def orderCombining (codes : List Nat) : List Nat := (codes.foldl (fun done code => insertCombining code done) []).reverse

/-- Puts characters together from a base on. A combining character reaches the base unless one of
its own or a higher class stands between; `between` holds those that do, last first. -/
def composeFrom (base : Nat) (between : List Nat) : List Nat → List Nat
  | [] => base :: between.reverse
  | code :: rest =>
    let order := combiningClass code
    let reaches :=
      match between with
      | [] => true
      | last :: _ => combiningClass last ≠ 0 && combiningClass last < order
    match if reaches then compose? base code else none with
    | some composed => composeFrom composed between rest
    | none =>
      if order = 0 then base :: between.reverse ++ composeFrom code [] rest
      else composeFrom base (code :: between) rest

/-- Characters put together; those before the first base are left alone. -/
def composeAll : List Nat → List Nat
  | [] => []
  | code :: rest => if combiningClass code = 0 then composeFrom code [] rest else code :: composeAll rest

/-- The composed form of a text. -/
def composed (text : Text) : Text :=
  (composeAll (orderCombining (text.flatMap fun c => takeApart 4 c.toNat))).map Char.ofNat

end QueryCompletion.Text
