/-!
Floating-point numbers with 53 significant bits, kept exactly: the magnitude of a finite number is a
natural number of ticks, where a tick is the least positive number, 2 to the power of -1074.
Rounding goes to the nearest number and, halfway between two, to the even one.
-/

namespace QueryCompletion

/-- A power of two. -/
def twoTo (exponent : Nat) : Nat := Nat.pow 2 exponent

/-- A power of ten. -/
def tenTo (exponent : Nat) : Nat := Nat.pow 10 exponent

/-- A floating-point number; `ticks` counts units of 2 to the power of -1074. -/
inductive Binary64 where
  | finite (negative : Bool) (ticks : Nat)
  | infinite (negative : Bool)
  | nan
deriving DecidableEq, Repr, Inhabited

namespace Binary64

/-- One, in ticks. -/
def unit : Nat := twoTo 1074

/-- The least magnitude out of range, in ticks. -/
def limit : Nat := twoTo 2098

/-- The natural number nearest to a quotient, the even one when two are equally near. -/
def roundQuotient (numerator denominator : Nat) : Nat :=
  let floor := numerator / denominator
  let double := 2 * (numerator % denominator)
  if double < denominator then floor
  else if double = denominator then floor + floor % 2
  else floor + 1

/-- The quotient rounded to 53 significant bits. -/
def roundSignificant (numerator denominator : Nat) : Nat :=
  let excess := (numerator / denominator).log2 + 1 - 53
  roundQuotient numerator (denominator * twoTo excess) * twoTo excess

/-- The number with the given sign nearest to a quotient counted in ticks. -/
def ofTicks (negative : Bool) (numerator denominator : Nat) : Binary64 :=
  let ticks := roundSignificant numerator denominator
  if limit ≤ ticks then .infinite negative else .finite negative ticks

def zero : Binary64 := .finite false 0

def ofNat (n : Nat) : Binary64 := ofTicks false (n * unit) 1

def ofInt (n : Int) : Binary64 := ofTicks (n < 0) (n.natAbs * unit) 1

/-- The number nearest to a decimal with the given digits, the last of which counts powers
`exponent` of ten. Decimals far out of range are settled by the length of the numeral. -/
def ofDecimal (negative : Bool) (digits : Nat) (exponent : Int) : Binary64 :=
  let magnitude := (Nat.toDigits 10 digits).length + exponent
  if digits = 0 || magnitude < -400 then .finite negative 0
  else if 400 < magnitude then .infinite negative
  else if 0 ≤ exponent then ofTicks negative (digits * tenTo exponent.toNat * unit) 1
  else ofTicks negative (digits * unit) (tenTo (-exponent).toNat)

/-- Whether the number is above zero. -/
def isPositive : Binary64 → Bool
  | .finite negative ticks => !negative && 0 < ticks
  | .infinite negative => !negative
  | .nan => false

/-- Whether the number is zero or above, which holds of both zeros. -/
def isNonNegative : Binary64 → Bool
  | .finite negative ticks => !negative || ticks == 0
  | .infinite negative => !negative
  | .nan => false

/-- The number unless it is infinite. -/
def bounded? : Binary64 → Option Binary64
  | .infinite _ => none
  | x => some x

/-- Whether the number is zero. -/
def isZero : Binary64 → Bool
  | .finite _ ticks => ticks == 0
  | _ => false

/-- The integer a number is equal to, if any. -/
def toInt? : Binary64 → Option Int
  | .finite negative ticks =>
    if ticks % unit = 0 then
      let n : Int := ticks / unit
      some (if negative then -n else n)
    else none
  | _ => none

end Binary64

end QueryCompletion
