/-
# The curve test is the equation of the curve

Whether bytes are on the curve is decided by taking a root of a fraction in the field. Here that is
said once more for integers: the bytes are 32, and with their ordinate `y` some integer `x` solves
`-x² + y² = 1 + D x² y²` modulo the prime (`isOnCurve_iff_equation`). An integer stands for a number
of the field, every number of the field is the cast of one, and two integers have the same cast
exactly when they are congruent, so nothing is lost between the two readings (`onCurve_cast_iff`).

The equation sees the ordinate modulo the prime and nothing else of the bytes
(`isOnCurve_eq_of_modEq`). So neither the parity bit nor a multiple of the prime in the ordinate
makes a difference, and every way to write the ordinate of a point of the curve passes.
-/
import Mathlib.Data.Int.ModEq
import LedgerKeys.Derivation
import LedgerKeys.Proofs.Curve.Decompression

namespace LedgerKeys
namespace Curve

/-! ## 1. Integers and the field -/

/-- Casts agree exactly for integers that are congruent. -/
theorem cast_eq_cast_iff {a b : ℤ} : (a : Field) = (b : Field) ↔ a ≡ b [ZMOD prime] :=
  CharP.intCast_eq_intCast Field prime

theorem cast_val (x : Field) : ((x.val : ℤ) : Field) = x := by
  rw [Int.cast_natCast]
  exact Fin.cast_val_eq_self x

theorem ofNat_eq_cast (n : ℕ) : Field.ofNat n = ((n : ℤ) : Field) := by
  rw [Int.cast_natCast]
  exact Fin.ofNat_eq_cast prime n

/-- The integer by which the curve's coefficient is written. -/
def coefficient : ℤ := d.val

/-- It is the quotient `-121665 / 121666` modulo the prime. -/
theorem mul_coefficient : 121666 * coefficient ≡ -121665 [ZMOD prime] := by decide +kernel

/-- **The equation of the curve, on integers.** -/
theorem onCurve_cast_iff (x y : ℤ) :
    Point.OnCurve ⟨x, y⟩ ↔
      -x ^ 2 + y ^ 2 ≡ 1 + coefficient * x ^ 2 * y ^ 2 [ZMOD prime] := by
  rw [← cast_eq_cast_iff, Point.OnCurve, coefficient]
  push_cast
  rw [pow_two, pow_two]

/-! ## 2. The test -/

/-- **The test asks for an integer that solves the equation with the ordinate.** -/
theorem isOnCurve_iff_equation (bs : Bytes) :
    isOnCurve bs = true ↔
      bs.length = 32 ∧ ∃ x : ℤ, -x ^ 2 + (ordinate bs : ℤ) ^ 2 ≡
        1 + coefficient * x ^ 2 * (ordinate bs : ℤ) ^ 2 [ZMOD prime] := by
  rw [isOnCurve_iff]
  refine and_congr_right fun _ => ?_
  simp only [← onCurve_cast_iff, ← ofNat_eq_cast]
  constructor
  · rintro ⟨P, hP, hy⟩
    refine ⟨P.x.val, ?_⟩
    rw [cast_val, ← hy]
    exact hP
  · rintro ⟨x, hx⟩
    exact ⟨_, hx, rfl⟩

/-! ## 3. What the test does not see -/

theorem ordinate_ofNatLE (n : ℕ) : ordinate (Bytes.ofNatLE 32 n) = n % 2 ^ 255 := by
  rw [ordinate, Bytes.toNatLE_ofNatLE]
  exact Nat.mod_mod_of_dvd n (by decide)

/-- **Of the ordinate the test sees the remainder modulo the prime**, and nothing else of the
bytes. -/
theorem isOnCurve_eq_of_modEq {bs bs' : Bytes} (hlen : bs.length = bs'.length)
    (h : ordinate bs ≡ ordinate bs' [MOD prime]) : isOnCurve bs = isOnCurve bs' := by
  have hy : Field.ofNat (ordinate bs) = Field.ofNat (ordinate bs') := Fin.ext h
  rw [Bool.eq_iff_iff, isOnCurve_iff, isOnCurve_iff, hlen, hy]

theorem isOnCurve_ofNatLE_of_modEq {m n : ℕ} (h : m % 2 ^ 255 ≡ n % 2 ^ 255 [MOD prime]) :
    isOnCurve (Bytes.ofNatLE 32 m) = isOnCurve (Bytes.ofNatLE 32 n) := by
  refine isOnCurve_eq_of_modEq ?_ ?_
  · rw [Bytes.length_ofNatLE, Bytes.length_ofNatLE]
  · rwa [ordinate_ofNatLE, ordinate_ofNatLE]

/-- The ordinate of a point passes however the bits around it are set. -/
theorem isOnCurve_ofNatLE_ordinate (P : CurvePoint) (sign : ℕ) :
    isOnCurve (Bytes.ofNatLE 32 (P.point.y.val + 2 ^ 255 * sign)) = true := by
  have hy : P.point.y.val < 2 ^ 255 := lt_trans P.point.y.isLt (by decide)
  have hordinate : ordinate (Bytes.ofNatLE 32 (P.point.y.val + 2 ^ 255 * sign)) =
      P.point.y.val := by
    rw [ordinate_ofNatLE, Nat.add_mul_mod_self_left, Nat.mod_eq_of_lt hy]
  rw [isOnCurve_iff, hordinate, ofNat_val]
  exact ⟨Bytes.length_ofNatLE 32 _, P.point, P.onCurve, rfl⟩

end Curve

/-! ## 4. The test on values -/

namespace Derivation

/-- A byte string is tested by the curve, which also looks at its length. -/
theorem isOnCurve_byteString (bs : Bytes) : isOnCurve (.bytes bs) = .ok (Curve.isOnCurve bs) := by
  by_cases hlen : bs.length = 32
  · simp [isOnCurve, Value.length, Value.toBytes, hlen, bind, Except.bind]
  · simp [isOnCurve, Curve.isOnCurve, Value.length, hlen, bind, Except.bind, pure, Except.pure]

/-- **The test of bytes is the equation of the curve.**  Of bytes with the ordinate `y` the answer
is yes if there are 32 of them and some integer `x` solves `-x² + y² = 1 + D x² y²` modulo the
prime, where `D` is the quotient `-121665 / 121666`, and no otherwise.  So the parity bit makes no
difference, and neither does it whether the ordinate is written below the prime or, if that fits,
with the prime added.  The ordinate of a point of the curve passes with either parity, whether or
not the point is of small order and its abscissa zero. -/
theorem isOnCurve_is_equation :
    121666 * Curve.coefficient ≡ -121665 [ZMOD 2 ^ 255 - 19] ∧
    (∀ bs : Bytes, ∃ answer, isOnCurve (.bytes bs) = .ok answer ∧
      (answer = true ↔ bs.length = 32 ∧
        let y : ℤ := (Bytes.toNatLE bs % 2 ^ 255 : ℕ)
        ∃ x : ℤ, -x ^ 2 + y ^ 2 ≡
          1 + Curve.coefficient * x ^ 2 * y ^ 2 [ZMOD 2 ^ 255 - 19])) ∧
    (∀ n : ℕ, isOnCurve (.bytes (.ofNatLE 32 (n + 2 ^ 255))) =
      isOnCurve (.bytes (.ofNatLE 32 n))) ∧
    (∀ (y : Fin 19) (sign : Fin 2),
      isOnCurve (.bytes (.ofNatLE 32 (2 ^ 255 - 19 + y.val + 2 ^ 255 * sign.val))) =
        isOnCurve (.bytes (.ofNatLE 32 (y.val + 2 ^ 255 * sign.val)))) ∧
    ∀ (P : Curve.CurvePoint) (sign : Fin 2),
      isOnCurve (.bytes (.ofNatLE 32 (P.point.y.val + 2 ^ 255 * sign.val))) = .ok true := by
  simp only [isOnCurve_byteString, Except.ok.injEq]
  have hprime : ((Curve.prime : ℕ) : ℤ) = 2 ^ 255 - 19 := by decide +kernel
  refine ⟨hprime ▸ Curve.mul_coefficient, fun bs => ?equation, fun n => ?parity,
    fun y sign => ?reduced, fun P sign => Curve.isOnCurve_ofNatLE_ordinate P sign.val⟩
  case equation =>
    have h := Curve.isOnCurve_iff_equation bs
    rw [hprime] at h
    exact ⟨_, rfl, h⟩
  case parity =>
    refine Curve.isOnCurve_ofNatLE_of_modEq ?_
    rw [Nat.add_mod_right]
  case reduced =>
    have hy := y.isLt
    refine Curve.isOnCurve_ofNatLE_of_modEq ?_
    rw [Nat.add_mul_mod_self_left, Nat.add_mul_mod_self_left, Nat.mod_eq_of_lt (by omega),
      Nat.mod_eq_of_lt (by omega)]
    exact Nat.add_modEq_left

/-- The neutral element has the abscissa zero and is of small order; with the parity bit set its
bytes are no encoding that a writer makes. -/
example : Curve.isOnCurve (.ofNatLE 32 (1 + 2 ^ 255)) = true := by decide +kernel

end Derivation
end LedgerKeys
