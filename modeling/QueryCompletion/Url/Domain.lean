import QueryCompletion.Url.Label
import QueryCompletion.Url.MappingTable

/-!
Domain names in the characters of any script, made ready to be sent: characters are mapped to their
plain forms, and then each label is put into Punycode.
-/

namespace QueryCompletion.Url

/-- Characters, each of them or every other one, with what the first of them is replaced by. -/
structure MappingRun where
  first : Nat
  last : Nat
  step : Nat
  replacement : List Nat
deriving DecidableEq, Repr

def mappingRuns : List MappingRun :=
  (Text.entries mappingRows).map fun entry =>
    let (range, replacement) := Text.cut ':' entry
    let alternating := range.contains '/'
    let (first, last) := Text.hexBounds (if alternating then '/' else '-') range
    { first, last, step := if alternating then 2 else 1
      replacement := (Text.pieces '+' (replacement.getD [])).map Text.hexNumber }

def ignoredRanges : List (Nat × Nat) := Text.ranges ignoredRows

def refusedRanges : List (Nat × Nat) := Text.ranges refusedRows

/-- What a run makes of a character in it. -/
def MappingRun.map (run : MappingRun) (code : Nat) : Text :=
  run.replacement.map fun first => Char.ofNat (first + (code - run.first))

/-- The plain form of a character, if a domain name may hold it. -/
def mapChar? (c : Char) : Option Text :=
  let code := c.toNat
  let covers := fun (run : MappingRun) =>
    run.first ≤ code && code ≤ run.last && (code - run.first) % run.step == 0
  match mappingRuns.find? covers with
  | some run => some (run.map code)
  | none =>
    if Text.inRanges ignoredRanges code then some []
    else if Text.inRanges refusedRanges code then none
    else some [c]

/-- A domain name in plain, composed form. -/
def plainDomain? (domain : Text) : Option Text :=
  (domain.mapM mapChar?).map fun mapped => Text.composed mapped.flatten

/-- Full stops of all scripts. -/
def isDot (c : Char) : Bool := [0x2E, 0x3002, 0xFF0E, 0xFF61].contains c.toNat

/-- A label that needs no encoding, if it is valid. One in Punycode must stand for a valid one. -/
def plainLabel? (label : Text) : Option Text :=
  let valid :=
    if punycodeSign.isPrefixOf label then
      let code := label.drop punycodeSign.length
      !code.isEmpty && code.getLast? != some '-' && ((Punycode.decode? code).map isValidLabel).getD false
    else isValidLabel label
  if valid && label.length ≤ labelLimit then some label else none

/-- A domain name as it is sent. One full stop may end it. -/
def encodeDomain? (domain : Text) : Option Text := do
  let plain ← plainDomain? domain
  let labels := Text.pieces '.' (plain.map fun c => if isDot c then '.' else c)
  let trailing := 1 < labels.length && labels.getLast? == some []
  let named := if trailing then labels.dropLast else labels
  let encoded ← named.mapM fun label =>
    if label.all (·.toNat < 0x80) then plainLabel? label else encodeLabel? label
  let sent := Text.joinWith ['.'] (if trailing then encoded ++ [[]] else encoded)
  if plain.length ≤ 254 && sent.length ≤ (if trailing then 254 else 253) then return sent else none

end QueryCompletion.Url
