/-
# Sums stay on the curve

The addition law of the curve has no exceptions. Its two denominators are `1 + e` and `1 - e` for
the cross term `e = d x₁ x₂ y₁ y₂`, and if one of them were zero the coefficient `d` would be a
square (`crossTerm_mul_self_ne_one`). So two points of the curve have a sum, it is on the curve
(`IsSum.onCurve`), and the formula in projective coordinates computes it without ever reaching the
denominator zero (`Represents.add`).
-/
import LedgerKeys.Proofs.Curve.Field

namespace LedgerKeys
namespace Curve

variable {A B C : Point} {P Q : Projective}

/-! ## 1. The denominators -/

namespace Point

/-- The product that makes the denominators of a sum. -/
def crossTerm (A B : Point) : Field := d * (A.x * B.x) * (A.y * B.y)

/-- The equation of the curve, solved for the square of the ordinate. -/
theorem OnCurve.ordinate (hA : A.OnCurve) :
    A.y * A.y = 1 + A.x * A.x + d * (A.x * A.x) * (A.y * A.y) := by
  unfold OnCurve at hA
  linear_combination hA

/-- A number whose square times the coefficient is a square is zero. -/
theorem eq_zero_of_coefficient {r s : Field} (h : r * r = d * (s * s)) : s = 0 := by
  by_contra hs
  refine coefficient_ne_mul_self (r * s⁻¹) ?_
  have hinv : s * s⁻¹ = 1 := by rw [mul_inv_cancel₀ hs]
  calc r * s⁻¹ * (r * s⁻¹)
      = r * r * (s⁻¹ * s⁻¹) := by ring
    _ = d * (s * s⁻¹) * (s * s⁻¹) := by
      rw [h]
      ring
    _ = d := by rw [hinv, mul_one, mul_one]

/-- **The denominators of a sum are not zero.**  If the cross term were one or minus one, then
`x₁ y₁ (i x₂ + y₂)` and `x₁ y₁ (i x₂ - y₂)`, where `i` is the root of minus one, would have squares
that are squares after multiplication with the coefficient too. So both would be zero, and with
them the cross term. -/
theorem crossTerm_mul_self_ne_one (hA : A.OnCurve) (hB : B.OnCurve) :
    crossTerm A B * crossTerm A B ≠ 1 := by
  intro he
  have hA := hA.ordinate
  have hB := hB.ordinate
  have hi := rootOfMinusOne_mul_self
  have hcross : crossTerm A B = d * (A.x * B.x) * (A.y * B.y) := rfl
  generalize crossTerm A B = e at he hcross
  generalize rootOfMinusOne = i at hi
  have hplus : A.x * A.y * (i * B.x + B.y) = 0 := by
    have hsquares : (i * A.x + e * A.y) * (i * A.x + e * A.y) =
        d * (A.x * A.y * (i * B.x + B.y) * (A.x * A.y * (i * B.x + B.y))) := by
      linear_combination (A.x * A.x - d * (A.x * A.y) * (A.x * A.y) * (B.x * B.x)) * hi +
        (A.y * A.y - 1) * he + hA - d * (A.x * A.y) * (A.x * A.y) * hB +
        (e + d * (A.x * B.x) * (A.y * B.y) + 2 * i * (A.x * A.y)) * hcross
    exact eq_zero_of_coefficient hsquares
  have hminus : A.x * A.y * (i * B.x - B.y) = 0 := by
    have hsquares : (i * A.x - e * A.y) * (i * A.x - e * A.y) =
        d * (A.x * A.y * (i * B.x - B.y) * (A.x * A.y * (i * B.x - B.y))) := by
      linear_combination (A.x * A.x - d * (A.x * A.y) * (A.x * A.y) * (B.x * B.x)) * hi +
        (A.y * A.y - 1) * he + hA - d * (A.x * A.y) * (A.x * A.y) * hB +
        (e + d * (A.x * B.x) * (A.y * B.y) - 2 * i * (A.x * A.y)) * hcross
    exact eq_zero_of_coefficient hsquares
  have htwice : (2 : Field) * (A.x * A.y * B.y) = 0 := by linear_combination hplus - hminus
  have hzero : A.x * A.y * B.y = 0 := (mul_eq_zero.mp htwice).resolve_left (by decide)
  have hcrossZero : e = 0 := by linear_combination hcross + d * B.x * hzero
  rw [hcrossZero, mul_zero] at he
  exact absurd he (by decide)

theorem one_add_crossTerm_ne_zero (hA : A.OnCurve) (hB : B.OnCurve) : 1 + crossTerm A B ≠ 0 := by
  intro h
  refine crossTerm_mul_self_ne_one hA hB ?_
  linear_combination (crossTerm A B - 1) * h

theorem one_sub_crossTerm_ne_zero (hA : A.OnCurve) (hB : B.OnCurve) : 1 - crossTerm A B ≠ 0 := by
  intro h
  refine crossTerm_mul_self_ne_one hA hB ?_
  linear_combination (-crossTerm A B - 1) * h

/-! ## 2. Sums -/

/-- `C` satisfies the addition law for `A` and `B`. -/
structure IsSum (A B C : Point) : Prop where
  x_mul : C.x * (1 + crossTerm A B) = A.x * B.y + A.y * B.x
  y_mul : C.y * (1 - crossTerm A B) = A.y * B.y + A.x * B.x

/-- Two points of the curve have a sum. -/
theorem exists_isSum (hA : A.OnCurve) (hB : B.OnCurve) : ∃ C, IsSum A B C := by
  have hplus := one_add_crossTerm_ne_zero hA hB
  have hminus := one_sub_crossTerm_ne_zero hA hB
  refine ⟨⟨(A.x * B.y + A.y * B.x) * (1 + crossTerm A B)⁻¹,
    (A.y * B.y + A.x * B.x) * (1 - crossTerm A B)⁻¹⟩, ?_, ?_⟩
  · rw [mul_assoc, inv_mul_cancel₀ hplus, mul_one]
  · rw [mul_assoc, inv_mul_cancel₀ hminus, mul_one]

/-- The equation of the curve for a sum, without denominators. -/
theorem OnCurve.sum_equation (hA : A.OnCurve) (hB : B.OnCurve) :
    ((A.y * B.y + A.x * B.x) * (1 + crossTerm A B)) ^ 2 -
        ((A.x * B.y + A.y * B.x) * (1 - crossTerm A B)) ^ 2 =
      ((1 + crossTerm A B) * (1 - crossTerm A B)) ^ 2 +
        d * ((A.x * B.y + A.y * B.x) * (A.y * B.y + A.x * B.x)) ^ 2 := by
  have hA := hA.ordinate
  have hB := hB.ordinate
  unfold crossTerm
  -- The squares of `x` and `y` come in only through `y² - x²` and `u = d x² y²`, which the
  -- equation of the curve ties together.
  set t := B.y * B.y - B.x * B.x with ht
  set u := d * (A.x * A.x) * (A.y * A.y) with hu
  set v := d * (B.x * B.x) * (B.y * B.y) with hv
  linear_combination
    (t * (1 + u * v) - v * (A.y * A.y - A.x * A.x + 1 + u)) * hA +
      ((1 + u) * (1 + u * v) - u * (t + 1 + v)) * hB

/-- **The sum of two points of the curve is on the curve.** -/
theorem IsSum.onCurve (h : IsSum A B C) (hA : A.OnCurve) (hB : B.OnCurve) : C.OnCurve := by
  have hplus := one_add_crossTerm_ne_zero hA hB
  have hminus := one_sub_crossTerm_ne_zero hA hB
  have hlaw := hA.sum_equation hB
  obtain ⟨hx, hy⟩ := h
  rw [← hx, ← hy] at hlaw
  have hscaled : (1 + crossTerm A B) ^ 2 * (1 - crossTerm A B) ^ 2 *
      (-(C.x * C.x) + C.y * C.y) =
        (1 + crossTerm A B) ^ 2 * (1 - crossTerm A B) ^ 2 *
          (1 + d * (C.x * C.x) * (C.y * C.y)) := by
    linear_combination hlaw
  exact mul_left_cancel₀ (mul_ne_zero (pow_ne_zero 2 hplus) (pow_ne_zero 2 hminus)) hscaled

end Point

/-! ## 3. Projective coordinates -/

namespace Projective

/-- `P` stands for the pair of coordinates `A`. -/
structure Represents (P : Projective) (A : Point) : Prop where
  z_ne_zero : P.z ≠ 0
  x_eq : P.x = A.x * P.z
  y_eq : P.y = A.y * P.z

theorem represents_ofPoint (A : Point) : (ofPoint A).Represents A :=
  ⟨one_ne_zero, (mul_one A.x).symm, (mul_one A.y).symm⟩

theorem Represents.toPoint_eq (h : P.Represents A) : P.toPoint = A := by
  have hinv : P.z * P.z.inverse = 1 := Field.mul_inverse h.z_ne_zero
  calc P.toPoint
      = ⟨A.x * P.z * P.z.inverse, A.y * P.z * P.z.inverse⟩ := by rw [← h.x_eq, ← h.y_eq]; rfl
    _ = A := by rw [mul_assoc, mul_assoc, hinv, mul_one, mul_one]

/-- The formula in projective coordinates satisfies the addition law. -/
theorem Represents.add_of_isSum (hP : P.Represents A) (hQ : Q.Represents B) (hA : A.OnCurve)
    (hB : B.OnCurve) (h : Point.IsSum A B C) : (P.add Q).Represents C := by
  have hplus := Point.one_add_crossTerm_ne_zero hA hB
  have hminus := Point.one_sub_crossTerm_ne_zero hA hB
  obtain ⟨hPz, hPx, hPy⟩ := hP
  obtain ⟨hQz, hQx, hQy⟩ := hQ
  obtain ⟨hx, hy⟩ := h
  have hz : (P.add Q).z =
      (P.z * Q.z) ^ 4 * ((1 - Point.crossTerm A B) * (1 + Point.crossTerm A B)) := by
    unfold add Point.crossTerm
    rw [hPx, hPy, hQx, hQy]
    ring
  refine ⟨?_, ?_, ?_⟩
  · rw [hz]
    exact mul_ne_zero (pow_ne_zero 4 (mul_ne_zero hPz hQz)) (mul_ne_zero hminus hplus)
  · rw [hz]
    have hnum : (P.add Q).x = (P.z * Q.z) ^ 4 * (1 - Point.crossTerm A B) *
        (A.x * B.y + A.y * B.x) := by
      unfold add Point.crossTerm
      rw [hPx, hPy, hQx, hQy]
      ring
    rw [hnum, ← hx]
    ring
  · rw [hz]
    have hnum : (P.add Q).y = (P.z * Q.z) ^ 4 * (1 + Point.crossTerm A B) *
        (A.y * B.y + A.x * B.x) := by
      unfold add Point.crossTerm
      rw [hPx, hPy, hQx, hQy]
      ring
    rw [hnum, ← hy]
    ring

end Projective

/-! ## 4. Sums as they are computed -/

namespace Point

/-- What is computed for two points of the curve is their sum. -/
theorem isSum_add (hA : A.OnCurve) (hB : B.OnCurve) : IsSum A B (A.add B) := by
  obtain ⟨C, hC⟩ := exists_isSum hA hB
  have hrep := (Projective.represents_ofPoint A).add_of_isSum (Projective.represents_ofPoint B)
    hA hB hC
  have heq : A.add B = C := hrep.toPoint_eq
  rw [heq]
  exact hC

theorem add_onCurve (hA : A.OnCurve) (hB : B.OnCurve) : (A.add B).OnCurve :=
  (isSum_add hA hB).onCurve hA hB

theorem zero_onCurve : zero.OnCurve := by decide

theorem base_onCurve : base.OnCurve := by decide +kernel

end Point

namespace Projective

/-- The sum in projective coordinates stands for the sum of the points. -/
theorem Represents.add (hP : P.Represents A) (hQ : Q.Represents B) (hA : A.OnCurve)
    (hB : B.OnCurve) : (P.add Q).Represents (A.add B) :=
  hP.add_of_isSum hQ hA hB (Point.isSum_add hA hB)

end Projective

end Curve
end LedgerKeys
