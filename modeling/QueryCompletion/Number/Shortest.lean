import QueryCompletion.Number.Binary64

/-!
Numbers as text: the fewest digits that read back as the same number, and of those the nearest
decimal. Digits are found by trying grids of 1, 2, … 17 digits and on each grid the two neighbours
of the number.
-/

namespace QueryCompletion.Binary64

/-- Half the way to the next numbers below and above, in quarters of a tick, and whether the ends
themselves still round to the number. -/
structure Neighbourhood where
  below : Nat
  above : Nat
  closed : Bool

def neighbourhood (ticks : Nat) : Neighbourhood :=
  let excess := ticks.log2 + 1 - 53
  let significand := ticks / twoTo excess
  let above := 2 * twoTo excess
  let below := if significand = twoTo 52 && 0 < excess then twoTo excess else above
  ⟨below, above, significand % 2 == 0⟩

/-- The power of ten of the leading digit: the largest `e` with `10 ^ e` not above the quotient,
searched upwards from `start`. -/
def leadingPower (numerator denominator : Nat) (start : Int) : Nat → Int
  | 0 => start
  | fuel + 1 =>
    let next := start + 1
    let fits :=
      if 0 ≤ next then denominator * tenTo next.toNat ≤ numerator
      else denominator ≤ numerator * tenTo (-next).toNat
    if fits then leadingPower numerator denominator next fuel else start

/-- Whether the decimal `digits * 10 ^ power` reads back as the number of that many ticks. -/
def readsBack (ticks digits : Nat) (power : Int) : Bool :=
  let near := neighbourhood ticks
  -- all sides are scaled by 4 and by the denominator of the decimal
  let scale := if 0 ≤ power then 1 else tenTo (-power).toNat
  let decimal := 4 * digits * unit * (if 0 ≤ power then tenTo power.toNat else 1)
  let low := (4 * ticks - near.below) * scale
  let high := (4 * ticks + near.above) * scale
  if near.closed then low ≤ decimal && decimal ≤ high else low < decimal && decimal < high

/-- The nearest decimal on the grid of a power of ten that reads back, if any. -/
def onGrid? (ticks : Nat) (power : Int) : Option Nat :=
  let numerator := if 0 ≤ power then ticks else ticks * tenTo (-power).toNat
  let denominator := if 0 ≤ power then unit * tenTo power.toNat else unit
  let nearest := roundQuotient numerator denominator
  let floor := numerator / denominator
  let other := if nearest = floor then floor + 1 else floor
  if readsBack ticks nearest power then some nearest
  else if readsBack ticks other power then some other
  else none

/-- Digits and power of ten on the first grid that holds a decimal reading back; `fuel` grids are
tried. -/
def shortestFrom (ticks : Nat) (power : Int) : Nat → Nat × Int
  | 0 => (ticks, 0)
  | fuel + 1 =>
    match onGrid? ticks power with
    | some digits => (digits, power)
    | none => shortestFrom ticks (power - 1) fuel

/-- Digits and power of ten of the shortest decimal that reads back as a positive number of
ticks. -/
def shortest (ticks : Nat) : Nat × Int :=
  shortestFrom ticks (leadingPower ticks unit (-330) 640) 20

/-- Digits without the zeros at the end. -/
def dropTrailingZeros (digits : List Char) : List Char :=
  match (digits.reverse.dropWhile (· == '0')).reverse with
  | [] => ['0']
  | kept => kept

/-- An exponent as it stands after the `e`: a sign and at least two digits. -/
def exponentText (exponent : Int) : List Char :=
  let digits := Nat.toDigits 10 exponent.natAbs
  (if exponent < 0 then '-' else '+') :: (if digits.length < 2 then '0' :: digits else digits)

/-- A positive decimal in positional notation from `0.0001` up to sixteen digits before the point,
and in exponent notation outside. -/
def decimalText (digits : Nat) (power : Int) : List Char :=
  let all := Nat.toDigits 10 digits
  let kept := dropTrailingZeros all
  -- the number of digits before the point
  let point : Int := all.length + power
  if -4 < point && point ≤ 16 then
    if point ≤ 0 then ['0', '.'] ++ List.replicate (-point).toNat '0' ++ kept
    else if kept.length ≤ point.toNat then
      kept ++ List.replicate (point.toNat - kept.length) '0' ++ ['.', '0']
    else kept.take point.toNat ++ '.' :: kept.drop point.toNat
  else
    let fraction := kept.drop 1
    kept.take 1 ++ (if fraction.isEmpty then [] else '.' :: fraction) ++ 'e' :: exponentText (point - 1)

/-- The text of a number. -/
def text : Binary64 → List Char
  | .finite negative ticks =>
    let magnitude := if ticks = 0 then ['0', '.', '0'] else decimalText (shortest ticks).1 (shortest ticks).2
    if negative then '-' :: magnitude else magnitude
  | .infinite negative => if negative then ['-', 'i', 'n', 'f'] else ['i', 'n', 'f']
  | .nan => ['n', 'a', 'n']

end QueryCompletion.Binary64
