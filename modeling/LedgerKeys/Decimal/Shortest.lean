/-
# The shortest decimal of a binary64 number

A number of the format is written with the fewest decimal digits that read back as that number;
among several such decimals the nearest one is taken, and of two equally near ones the one whose
last digit is even. The search goes through the grids of 1, 2, ... 17 significant digits and tests
on each the two neighbours of the number, all in exact arithmetic.

Numbers from `10 ^ -4` up to below `10 ^ 16` are written in positional form, a whole one with a
`.0` at its end, and all others with an exponent of a sign and at least two digits.
-/
import LedgerKeys.Decimal.Binary64
import LedgerKeys.Text.Basic

namespace LedgerKeys
namespace Binary64

-- The powers of the core library are meant, also where there are others in sight.
attribute [local instance (high)] instPowNat

/-! ## 1. The interval of decimals that read back -/

/-- The decimals that read back as one number: the fractions of `denominator` between `low` and
`high`, the number itself being `middle`. -/
structure ReadBack where
  low : Nat
  middle : Nat
  high : Nat
  closed : Bool

/-- Units are counted in quarters, so that the ends of every interval are whole. -/
def denominator : Nat := 4 * 2 ^ unitExponent

/-- The interval of a positive number. Below a power of two the neighbour is half as far. -/
def readBack (units : Nat) : ReadBack :=
  let gap := 2 ^ coarseness units
  let below := if 1 < gap ∧ units = 2 ^ units.log2 then gap else 2 * gap
  ⟨4 * units - below, 4 * units, 4 * units + 2 * gap, units / gap % 2 == 0⟩

/-! ## 2. Decimals -/

/-- The decimal `significand * 10 ^ exponent`. -/
structure Decimal where
  significand : Nat
  exponent : Int

namespace Decimal

/-- The multiplier of the significand in `d = significand * up / down`. -/
def up (d : Decimal) : Nat := 10 ^ d.exponent.toNat

/-- The divisor of the significand in `d = significand * up / down`. -/
def down (d : Decimal) : Nat := 10 ^ (-d.exponent).toNat

/-- Whether the decimal lies in the interval. -/
def isWithin (d : Decimal) (r : ReadBack) : Bool :=
  let x := d.significand * d.up * denominator
  if r.closed then r.low * d.down ≤ x && x ≤ r.high * d.down
  else r.low * d.down < x && x < r.high * d.down

/-- The distance from the middle of the interval, for decimals of one exponent. -/
def distance (d : Decimal) (r : ReadBack) : Nat :=
  let x := d.significand * d.up * denominator
  let m := r.middle * d.down
  (x - m) + (m - x)

/-- Of two decimals of one exponent the nearer one; of two equally near the even one. -/
def nearer (r : ReadBack) (a b : Decimal) : Decimal :=
  if a.distance r < b.distance r then a
  else if b.distance r < a.distance r then b
  else if a.significand % 2 = 0 then a else b

end Decimal

/-! ## 3. The search -/

/-- The least `p` with the number below `10 ^ p`. -/
def magnitude (units : Nat) : Int :=
  let below (p : Int) : Bool :=
    units * 10 ^ (-p).toNat < 10 ^ p.toNat * 2 ^ unitExponent
  (((List.range 640).map fun (i : Nat) => (i : Int) - 330).find? below).getD 309

/-- The decimal of `count` digits, on the grid of the number, that reads back best. -/
def decimalOf? (units : Nat) (count : Nat) : Option Decimal :=
  let r := readBack units
  let exponent := magnitude units - count
  let lower : Decimal := ⟨r.middle * (Decimal.mk 0 exponent).down /
    ((Decimal.mk 0 exponent).up * denominator), exponent⟩
  let upper : Decimal := ⟨lower.significand + 1, exponent⟩
  match lower.isWithin r, upper.isWithin r with
  | true, true => some (Decimal.nearer r lower upper)
  | true, false => some lower
  | false, true => some upper
  | false, false => none

/-- The shortest decimal that reads back as a positive number. -/
def shortest (units : Nat) : Decimal :=
  ((List.range 17).findSome? fun i => decimalOf? units (i + 1)).getD ⟨0, 0⟩

/-! ## 4. Written form -/

/-- `n` zeros. -/
def zeroDigits (n : Nat) : Text := List.replicate n 0x30

/-- The digits with a point after the first `places` of them. -/
def positional (digits : Text) (places : Int) : Text :=
  if places ≤ 0 then "0." ++ zeroDigits (-places).toNat ++ digits
  else
    let whole := digits.take places.toNat
    let fraction := digits.drop places.toNat
    whole ++ zeroDigits (places.toNat - digits.length) ++
      Text.ofString "." ++ (if fraction.isEmpty then zeroDigits 1 else fraction)

/-- The digits with a point after the first and an exponent. -/
def scientific (digits : Text) (exponent : Int) : Text :=
  let size := Text.ofNat exponent.natAbs
  digits.take 1 ++ (if digits.length ≤ 1 then [] else Text.ofString "." ++ digits.drop 1) ++
    Text.ofString (if exponent < 0 then "e-" else "e+") ++ zeroDigits (2 - size.length) ++ size

/-- The number of units in decimal. -/
def magnitudeText (units : Nat) : Text :=
  if units = 0 then "0.0"
  else
    let d := shortest units
    let all := Text.ofNat d.significand
    let places := d.exponent + all.length
    let digits := (all.reverse.dropWhile (· == 0x30)).reverse
    if -4 < places ∧ places ≤ 16 then positional digits places
    else scientific digits (places - 1)

/-- The written form of a number. -/
def text : Binary64 → Text
  | .finite negative units => Text.ofString (if negative then "-" else "") ++ magnitudeText units
  | .infinite negative => if negative then "-inf" else "inf"
  | .nan => "nan"

end Binary64
end LedgerKeys
