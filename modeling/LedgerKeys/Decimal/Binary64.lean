/-
# Binary64 numbers

A finite number of the format is a whole number of units of `2 ^ -1074`, so its arithmetic here
is exact arithmetic on naturals. Up to `2 ^ 53` units every count is a number of the format;
beyond that only those with 53 significant bits are. A decimal is read to the nearest of these,
a tie to the one whose last bit is zero, and from `2 ^ 1024` on to infinity.
-/
import LedgerKeys.Bytes

namespace LedgerKeys

-- The powers of the core library are meant, also where there are others in sight.
attribute [local instance (high)] instPowNat

/-- A number of the binary64 format, finite ones counted in units of `2 ^ -1074`. -/
inductive Binary64 where
  | finite (negative : Bool) (units : Nat)
  | infinite (negative : Bool)
  | nan
  deriving DecidableEq

namespace Binary64

/-- The exponent of the smallest unit: a unit is `2 ^ -unitExponent`. -/
def unitExponent : Nat := 1074

/-- Units of the first power of two that is too large for the format. -/
def overflowUnits : Nat := 2 ^ (1024 + unitExponent)

/-- How many low bits of a unit count the format cannot hold. -/
def coarseness (units : Nat) : Nat := units.log2 - 52

/-- The whole number nearest to `num / den`; a tie goes to the even one. -/
def roundHalfEven (num den : Nat) : Nat :=
  let floor := num / den
  let twice := 2 * (num % den)
  if twice < den then floor
  else if den < twice then floor + 1
  else floor + floor % 2

/-- The unit count of the format nearest to `num / den` units. -/
def roundUnits (num den : Nat) : Nat :=
  let grid := 2 ^ coarseness (num / den)
  roundHalfEven num (den * grid) * grid

/-- The finite number of that many units, or infinity if they are too many. -/
def ofUnits (negative : Bool) (units : Nat) : Binary64 :=
  if units < overflowUnits then .finite negative units else .infinite negative

/-- The number nearest to `significand * 10 ^ exponent`. Exponents far outside the range of the
format decide the answer before any power is taken. -/
def ofDecimal (negative : Bool) (significand : Nat) (exponent : Int) : Binary64 :=
  if significand = 0 then .finite negative 0
  else if 400 < exponent then .infinite negative
  else if exponent + significand.log2 < -400 then .finite negative 0
  else
    let scaled := significand * 2 ^ unitExponent
    ofUnits negative <|
      if 0 ≤ exponent then roundUnits (scaled * 10 ^ exponent.toNat) 1
      else roundUnits scaled (10 ^ (-exponent).toNat)

/-- The number of units with its sign; none for infinities and what is not a number. -/
def units? : Binary64 → Option Int
  | .finite negative units => some (if negative then -(units : Int) else units)
  | _ => none

/-- Whether the number equals a whole number. -/
def equalsInt (x : Binary64) (n : Int) : Bool := x.units? == some (n * 2 ^ unitExponent)

/-- Equality as numbers: the two zeros are equal, and what is not a number equals nothing. -/
def equals : Binary64 → Binary64 → Bool
  | .nan, _ | _, .nan => false
  | .infinite a, .infinite b => a == b
  | x@(.finite _ _), y => x.units? == y.units?
  | .infinite _, .finite _ _ => false

/-- Whether the number is one of the two zeros. -/
def isZero : Binary64 → Bool
  | .finite _ units => units == 0
  | _ => false

end Binary64

end LedgerKeys
