import QueryCompletion.Text.Composed
import QueryCompletion.Url.LabelTable
import QueryCompletion.Url.Punycode

/-!
Labels of internationalised domain names. A label in the characters of any script is valid if it is
in its composed form, keeps the rules for hyphens, marks, joiners and punctuation and does not mix
directions of writing. It is sent in Punycode behind the sign `xn--`.
-/

namespace QueryCompletion.Url

def permittedRanges : List (Nat × Nat) := Text.ranges permittedRows

def markRanges : List (Nat × Nat) := Text.ranges markRows

def rightToLeftRanges : List (Nat × Nat) := Text.ranges rightToLeftRows

def neutralRanges : List (Nat × Nat) := Text.ranges neutralRows

def spacelessRanges : List (Nat × Nat) := Text.ranges spacelessRows

def greekRanges : List (Nat × Nat) := Text.ranges greekRows

def hebrewRanges : List (Nat × Nat) := Text.ranges hebrewRows

def eastAsianRanges : List (Nat × Nat) := Text.ranges eastAsianRows

def transparentRanges : List (Nat × Nat) := Text.ranges transparentRows

def joinsNextRanges : List (Nat × Nat) := Text.ranges joinsNextRows

def joinsPreviousRanges : List (Nat × Nat) := Text.ranges joinsPreviousRows

/-- How a character takes part in the direction of a label. -/
inductive Direction where
  | leftToRight
  | rightToLeft
  | commonDigit
  | arabicDigit
  | neutral
  | spaceless
deriving DecidableEq, Repr

def direction (c : Char) : Direction :=
  let code := c.toNat
  if Text.inRanges [(0x30, 0x39), (0x6F0, 0x6F9)] code then .commonDigit
  else if Text.inRanges [(0x660, 0x669), (0x10D30, 0x10D39)] code then .arabicDigit
  else if Text.inRanges rightToLeftRanges code then .rightToLeft
  else if Text.inRanges spacelessRanges code then .spaceless
  else if Text.inRanges neutralRanges code then .neutral
  else .leftToRight

/-- Whether a label keeps to one direction. One with characters from right to left starts with a
letter of that direction, holds none of the other, has digits of one kind and ends in a letter or
digit, marks aside. -/
def keepsDirection (label : Text) : Bool :=
  let directions := label.map direction
  let ending := (directions.reverse.dropWhile (· = .spaceless)).head?
  if !directions.contains .rightToLeft && !directions.contains .arabicDigit then true
  else
    directions.head? == some .rightToLeft && !directions.contains .leftToRight &&
      !(directions.contains .commonDigit && directions.contains .arabicDigit) &&
      (ending == some .rightToLeft || ending == some .commonDigit || ending == some .arabicDigit)

/-- A sign that silences the vowel of the letter before it. -/
def isVirama (c : Char) : Bool := Text.combiningClass c.toNat == 9

/-- Whether the nearest character that letters do not join across lies in the ranges. -/
def nearestIn (ranges : List (Nat × Nat)) (text : Text) : Bool :=
  ((text.dropWhile fun c => Text.inRanges transparentRanges c.toNat).head?.map fun c =>
    Text.inRanges ranges c.toNat).getD false

/-- Whether a character may stand where it does, between the reversed text before it and the text
behind it in a label. -/
def isPermitted (label before after : Text) (c : Char) : Bool :=
  let code := c.toNat
  let previous := fun (test : Char → Bool) => (before.head?.map test).getD false
  let next := fun (test : Char → Bool) => (after.head?.map test).getD false
  let among := fun (ranges : List (Nat × Nat)) (c : Char) => Text.inRanges ranges c.toNat
  if Text.inRanges permittedRanges code then true
  else if code = 0x200C then
    previous isVirama || (nearestIn joinsNextRanges before && nearestIn joinsPreviousRanges after)
  else if code = 0x200D then previous isVirama
  else if code = 0xB7 then previous (· == 'l') && next (· == 'l')
  else if code = 0x375 then next (among greekRanges)
  else if code = 0x5F3 || code = 0x5F4 then previous (among hebrewRanges)
  else if code = 0x30FB then label.any fun c => c.toNat ≠ 0x30FB && among eastAsianRanges c
  else if 0x660 ≤ code && code ≤ 0x669 then !label.any (among [(0x6F0, 0x6F9)])
  else if 0x6F0 ≤ code && code ≤ 0x6F9 then !label.any (among [(0x660, 0x669)])
  else false

/-- Whether all characters may stand where they do. -/
def arePermitted (label before : Text) : Text → Bool
  | [] => true
  | c :: after => isPermitted label before after c && arePermitted label (c :: before) after

/-- Whether hyphens stand neither first nor last nor third and fourth. -/
def hyphensFine (label : Text) : Bool :=
  (label.drop 2).take 2 ≠ ['-', '-'] && label.head? != some '-' && label.getLast? != some '-'

/-- Whether a label is valid in the characters of its script. -/
def isValidLabel (label : Text) : Bool :=
  !label.isEmpty && Text.composed label = label && hyphensFine label &&
    !(label.head?.map fun c => Text.inRanges markRanges c.toNat).getD false &&
    arePermitted label [] label && keepsDirection label

/-- What a label in Punycode starts with. -/
def punycodeSign : Text := ['x', 'n', '-', '-']

/-- A label has at most this many characters when it is sent. -/
def labelLimit : Nat := 63

/-- A valid label as it is sent. -/
def encodeLabel? (label : Text) : Option Text :=
  let sent := punycodeSign ++ Punycode.encode label
  if isValidLabel label && sent.length ≤ labelLimit then some sent else none

end QueryCompletion.Url
