/-
# The field of the curve

Coordinates of points are numbers modulo the prime `2 ^ 255 - 19`. Powers are taken along the
bits of the exponent. The prime leaves the remainder 5 on division by 8, so one power finds a
candidate for the root of a fraction; the candidate is right up to a factor that is a root of
minus one, or the fraction has no root.
-/
import LedgerKeys.Bytes

namespace LedgerKeys
namespace Curve

-- The powers and the zero of the core library are meant, also where there are others in sight.
attribute [local instance (high)] instPowNat Zero.ofOfNat0

/-! ## 1. Numbers modulo the prime -/

/-- The prime of the field. -/
def prime : Nat := 2 ^ (255 : Nat) - 19

instance : NeZero prime := ⟨by decide⟩

/-- A number modulo the prime. -/
abbrev Field := Fin prime

/-- The number modulo the prime. -/
def Field.ofNat (n : Nat) : Field := Fin.ofNat prime n

/-! ## 2. Powers -/

/-- The low `width` bits of `n`, most significant first. -/
def bits : Nat → Nat → List Bool
  | 0, _ => []
  | width + 1, n => n.testBit width :: bits width n

/-- The power with the exponent of these bits. -/
def Field.powerBits (x : Field) (exponent : List Bool) : Field :=
  exponent.foldl (fun acc b => if b then acc * acc * x else acc * acc) 1

/-- The power with an exponent below `2 ^ 255`. -/
def Field.power (x : Field) (exponent : Nat) : Field := x.powerBits (bits 255 exponent)

/-- The inverse of a number other than zero; zero for zero. -/
def Field.inverse (x : Field) : Field := x.power (prime - 2)

/-! ## 3. Square roots -/

/-- A number whose square is minus one. -/
def rootOfMinusOne : Field :=
  Field.ofNat 19681161376707505956807079304988542015446066515923890162744021073123829784752

/-- The number itself or its negative, whichever is even. -/
def Field.even (x : Field) : Field := if x.val % 2 = 0 then x else -x

/-- The even number whose square is `u / v`, if there is one. -/
def Field.rootOfRatio? (u v : Field) : Option Field :=
  let v3 := v * v * v
  let candidate := u * v3 * (u * v3 * v3 * v).power ((prime - 5) / 8)
  let check := v * (candidate * candidate)
  if check = u then some candidate.even
  else if check = -u then some (candidate * rootOfMinusOne).even
  else none

end Curve
end LedgerKeys
