/-
# The points of the curve are a group

The addition law is associative. The abscissas of `(A + B) + C` and of `A + (B + C)` are fractions
in the coordinates of the three points, and the equations of the curve make their cross products
equal (`OnCurve.triple_cross`). The ordinates need no computation of their own: adding the point
`(i, 0)`, where `i` is the root of minus one, swaps the coordinates up to the factor `i`, so the
ordinate of a sum is the abscissa of a sum of other points (`IsSum.rotate`).

With that the points of the curve (`CurvePoint`) are a commutative group. Going along the bits of a
factor computes the multiple in this group (`Projective.Represents.mulBits`), so `Point.mul` is it
(`CurvePoint.mul_eq_nsmul`).
-/
import LedgerKeys.Proofs.Curve.Addition

namespace LedgerKeys
namespace Curve
namespace Point

variable {A B C D E F G : Point}

/-! ## 1. Associativity -/

@[ext] protected theorem ext (hx : A.x = B.x) (hy : A.y = B.y) : A = B := by
  cases A
  cases B
  exact congrArg₂ Point.mk hx hy

theorem crossTerm_comm (A B : Point) : crossTerm A B = crossTerm B A := by
  unfold crossTerm
  ring

theorem IsSum.comm (h : IsSum A B C) : IsSum B A C := by
  obtain ⟨hx, hy⟩ := h
  rw [crossTerm_comm] at hx hy
  exact ⟨by linear_combination hx, by linear_combination hy⟩

/-- There is one sum. -/
theorem IsSum.unique (h : IsSum A B C) (h' : IsSum A B D) (hA : A.OnCurve) (hB : B.OnCurve) :
    C = D := by
  have hx : C.x = D.x :=
    mul_right_cancel₀ (one_add_crossTerm_ne_zero hA hB) (h.x_mul.trans h'.x_mul.symm)
  have hy : C.y = D.y :=
    mul_right_cancel₀ (one_sub_crossTerm_ne_zero hA hB) (h.y_mul.trans h'.y_mul.symm)
  exact Point.ext hx hy

/-- The abscissa of a sum of three points, times `tripleDenominator`. -/
def tripleNumerator (A B C : Point) : Field :=
  (A.x * B.y + A.y * B.x) * (1 - crossTerm A B) * C.y +
    (A.y * B.y + A.x * B.x) * (1 + crossTerm A B) * C.x

/-- What clears the denominators of the abscissa of a sum of three points. -/
def tripleDenominator (A B C : Point) : Field :=
  (1 + crossTerm A B) * (1 - crossTerm A B) +
    d * ((A.x * B.y + A.y * B.x) * (A.y * B.y + A.x * B.x)) * (C.x * C.y)

theorem IsSum.tripleDenominator_eq (hD : IsSum A B D) :
    tripleDenominator A B C =
      (1 + crossTerm A B) * (1 - crossTerm A B) * (1 + crossTerm D C) := by
  obtain ⟨hx, hy⟩ := hD
  have hcross : crossTerm D C = d * (D.x * C.x) * (D.y * C.y) := rfl
  rw [tripleDenominator, ← hx, ← hy, hcross]
  ring

theorem IsSum.x_mul_triple (hD : IsSum A B D) (hF : IsSum D C F) :
    F.x * tripleDenominator A B C = tripleNumerator A B C := by
  rw [hD.tripleDenominator_eq, tripleNumerator, ← hD.x_mul, ← hD.y_mul]
  linear_combination (1 + crossTerm A B) * (1 - crossTerm A B) * hF.x_mul

theorem IsSum.tripleDenominator_ne_zero (hD : IsSum A B D) (hA : A.OnCurve) (hB : B.OnCurve)
    (hC : C.OnCurve) : tripleDenominator A B C ≠ 0 := by
  rw [hD.tripleDenominator_eq]
  exact mul_ne_zero
    (mul_ne_zero (one_add_crossTerm_ne_zero hA hB) (one_sub_crossTerm_ne_zero hA hB))
    (one_add_crossTerm_ne_zero (hD.onCurve hA hB) hC)

/-- The cross products of the two ways to add three points. -/
theorem OnCurve.triple_cross (hA : A.OnCurve) (hB : B.OnCurve) (hC : C.OnCurve) :
    tripleNumerator A B C * tripleDenominator C B A =
      tripleNumerator C B A * tripleDenominator A B C := by
  have hA := hA.ordinate
  have hB := hB.ordinate
  have hC := hC.ordinate
  unfold tripleNumerator tripleDenominator crossTerm
  generalize d = d at *
  obtain ⟨x₁, y₁⟩ := A
  obtain ⟨x₂, y₂⟩ := B
  obtain ⟨x₃, y₃⟩ := C
  simp only at *
  linear_combination
    -d * (x₂ * y₂) * (x₁ * (x₂ * x₃ + y₂ * y₃) * (x₂ * y₂ * (1 + d * (x₂ * x₃) * (y₂ * y₃)) +
        (x₂ * y₃ + y₂ * x₃) * (x₂ * x₃ - y₂ * y₃)) +
      y₁ * (x₂ * y₃ + y₂ * x₃) * (x₂ * y₂ * (1 - d * (x₂ * x₃) * (y₂ * y₃)) -
        (x₂ * x₃ + y₂ * y₃) * (x₂ * y₃ - y₂ * x₃))) * hA +
    d * (x₂ * y₂) * (x₁ * (x₁ * x₁ + 1) * (x₃ * y₃) * (x₂ * x₃ + y₂ * y₃) +
      y₁ * (y₁ * y₁ - 1) * (x₃ * y₃) * (x₂ * y₃ + y₂ * x₃) -
      x₁ * x₁ * y₁ * (x₂ * x₃ * (x₃ * x₃ + 1) + y₂ * y₃ * (y₃ * y₃ - 1)) -
      x₁ * y₁ * y₁ * (x₂ * y₃ * (y₃ * y₃ - 1) + y₂ * x₃ * (x₃ * x₃ + 1))) * hB +
    d * (x₂ * y₂) * (x₃ * (x₂ * x₁ + y₂ * y₁) * (x₂ * y₂ * (1 + d * (x₂ * x₁) * (y₂ * y₁)) +
        (x₂ * y₁ + y₂ * x₁) * (x₂ * x₁ - y₂ * y₁)) +
      y₃ * (x₂ * y₁ + y₂ * x₁) * (x₂ * y₂ * (1 - d * (x₂ * x₁) * (y₂ * y₁)) -
        (x₂ * x₁ + y₂ * y₁) * (x₂ * y₁ - y₂ * x₁))) * hC

theorem IsSum.x_eq_of_assoc (hD : IsSum A B D) (hF : IsSum D C F) (hE : IsSum B C E)
    (hG : IsSum A E G) (hA : A.OnCurve) (hB : B.OnCurve) (hC : C.OnCurve) : F.x = G.x := by
  have hF' := hD.x_mul_triple hF
  have hG' := hE.comm.x_mul_triple hG.comm
  have hleft := hD.tripleDenominator_ne_zero hA hB hC
  have hright := hE.comm.tripleDenominator_ne_zero hC hB hA
  refine mul_right_cancel₀ (mul_ne_zero hleft hright) ?_
  linear_combination tripleDenominator C B A * hF' - tripleDenominator A B C * hG' +
    hA.triple_cross hB hC

/-- The sum with the point `(i, 0)` of order four. -/
def rotate (A : Point) : Point := ⟨rootOfMinusOne * A.y, rootOfMinusOne * A.x⟩

theorem OnCurve.rotate (h : A.OnCurve) : A.rotate.OnCurve := by
  unfold OnCurve Point.rotate at *
  linear_combination h +
    (A.x * A.x - A.y * A.y - d * (A.x * A.x) * (A.y * A.y) *
      (rootOfMinusOne * rootOfMinusOne - 1)) * rootOfMinusOne_mul_self

theorem IsSum.rotate (h : IsSum A B C) : IsSum A B.rotate C.rotate := by
  have hi := rootOfMinusOne_mul_self
  obtain ⟨hx, hy⟩ := h
  have hcross : crossTerm A B.rotate = -crossTerm A B := by
    unfold crossTerm Point.rotate
    linear_combination d * (A.x * B.y) * (A.y * B.x) * hi
  constructor
  · rw [hcross]
    unfold Point.rotate
    linear_combination rootOfMinusOne * hy
  · rw [hcross]
    unfold Point.rotate
    linear_combination rootOfMinusOne * hx

/-- **The addition law is associative.** -/
theorem IsSum.assoc (hD : IsSum A B D) (hF : IsSum D C F) (hE : IsSum B C E) (hG : IsSum A E G)
    (hA : A.OnCurve) (hB : B.OnCurve) (hC : C.OnCurve) : F = G := by
  have hx : F.x = G.x := hD.x_eq_of_assoc hF hE hG hA hB hC
  have hrotated : F.rotate.x = G.rotate.x :=
    hD.x_eq_of_assoc hF.rotate hE.rotate hG.rotate hA hB hC.rotate
  have hi : rootOfMinusOne ≠ 0 := by decide
  have hy : F.y = G.y := mul_left_cancel₀ hi hrotated
  exact Point.ext hx hy

/-! ## 2. The neutral element and the opposite -/

theorem isSum_zero (A : Point) : IsSum zero A A := by
  have hcross : crossTerm zero A = 0 := by
    unfold crossTerm zero
    ring
  constructor
  · rw [hcross, zero]
    ring
  · rw [hcross, zero]
    ring

theorem OnCurve.neg (h : A.OnCurve) : A.neg.OnCurve := by
  unfold OnCurve Point.neg at *
  linear_combination h

theorem isSum_neg (h : A.OnCurve) : IsSum A.neg A zero := by
  have hA := h.ordinate
  unfold Point.neg zero
  constructor
  · ring
  · unfold crossTerm
    linear_combination -hA

end Point

/-! ## 3. The group -/

/-- A point of the curve. -/
@[ext] structure CurvePoint where
  point : Point
  onCurve : point.OnCurve

namespace CurvePoint

instance : Zero CurvePoint := ⟨⟨Point.zero, Point.zero_onCurve⟩⟩

instance : Neg CurvePoint := ⟨fun P => ⟨P.point.neg, P.onCurve.neg⟩⟩

instance : Add CurvePoint :=
  ⟨fun P Q => ⟨P.point.add Q.point, Point.add_onCurve P.onCurve Q.onCurve⟩⟩

@[simp] theorem point_zero : (0 : CurvePoint).point = Point.zero := rfl

@[simp] theorem point_neg (P : CurvePoint) : (-P).point = P.point.neg := rfl

@[simp] theorem point_add (P Q : CurvePoint) : (P + Q).point = P.point.add Q.point := rfl

theorem isSum_add (P Q : CurvePoint) : Point.IsSum P.point Q.point (P + Q).point :=
  Point.isSum_add P.onCurve Q.onCurve

theorem eq_of_isSum {P Q R : CurvePoint} (h : Point.IsSum P.point Q.point R.point) : P + Q = R :=
  CurvePoint.ext ((P.isSum_add Q).unique h P.onCurve Q.onCurve)

protected theorem add_comm (P Q : CurvePoint) : P + Q = Q + P := eq_of_isSum (Q.isSum_add P).comm

protected theorem zero_add (P : CurvePoint) : 0 + P = P := eq_of_isSum (Point.isSum_zero P.point)

/-- **The points of the curve are a commutative group.** -/
instance : AddCommGroup CurvePoint where
  add_assoc P Q R := CurvePoint.ext ((P.isSum_add Q).assoc ((P + Q).isSum_add R) (Q.isSum_add R)
    (P.isSum_add (Q + R)) P.onCurve Q.onCurve R.onCurve)
  zero_add := CurvePoint.zero_add
  add_zero P := (P.add_comm 0).trans P.zero_add
  neg_add_cancel P := eq_of_isSum (Point.isSum_neg P.onCurve)
  add_comm := CurvePoint.add_comm
  nsmul := nsmulRec
  zsmul := zsmulRec

end CurvePoint

/-! ## 4. Multiples -/

/-- What is computed for a multiple stands for the multiple in the group. -/
theorem Projective.Represents.mulBits {base : Projective} {P : CurvePoint}
    (hbase : base.Represents P.point) (width n : ℕ) :
    (base.mulBits (bits width n)).Represents ((n % 2 ^ width) • P).point := by
  have hstep : ∀ (k : ℕ) (b : Bool) (acc : Projective), acc.Represents (k • P).point →
      (if b then (acc.add acc).add base else acc.add acc).Represents
        ((2 * k + b.toNat) • P).point := by
    intro k b acc hacc
    have hdouble : (acc.add acc).Represents ((2 * k) • P).point := by
      rw [two_mul, add_nsmul]
      exact hacc.add hacc (k • P).onCurve (k • P).onCurve
    cases b with
    | false => exact hdouble
    | true =>
      rw [Bool.toNat_true, succ_nsmul]
      exact hdouble.add hbase ((2 * k) • P).onCurve P.onCurve
  have h := foldl_bits (fun acc k => Represents acc (k • P).point) hstep n width 0
    (by simpa using represents_ofPoint Point.zero)
  rw [Nat.zero_mul, Nat.zero_add] at h
  exact h

/-- `Point.mul` takes the low 256 bits of its factor. -/
theorem CurvePoint.mul_eq_mod_nsmul (P : CurvePoint) (n : ℕ) :
    P.point.mul n = ((n % 2 ^ 256) • P).point :=
  ((Projective.represents_ofPoint P.point).mulBits 256 n).toPoint_eq

/-- **`Point.mul` is the multiple in the group.** -/
theorem CurvePoint.mul_eq_nsmul (P : CurvePoint) {n : ℕ} (hn : n < 2 ^ 256) :
    P.point.mul n = (n • P).point := by
  rw [P.mul_eq_mod_nsmul, Nat.mod_eq_of_lt hn]

/-- The points of small order are those that eight brings to the neutral element. -/
theorem CurvePoint.hasSmallOrder_iff (P : CurvePoint) : P.point.HasSmallOrder ↔ 8 • P = 0 := by
  rw [Point.HasSmallOrder, P.mul_eq_nsmul (by decide), CurvePoint.ext_iff]
  rfl

/-- **The multiples of a point of the curve are on the curve.** -/
theorem Point.mul_onCurve {A : Point} (factor : ℕ) (hA : A.OnCurve) : (A.mul factor).OnCurve := by
  have h : A.mul factor = _ := CurvePoint.mul_eq_mod_nsmul ⟨A, hA⟩ factor
  rw [h]
  exact CurvePoint.onCurve _

end Curve
end LedgerKeys
