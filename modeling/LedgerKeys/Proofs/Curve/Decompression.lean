/-
# Reading what was written

Bytes are on the curve if some point of the curve has their ordinate (`isOnCurve_iff`); the
equation of the curve, read as an equation for the abscissa, asks for just the root that
`Field.rootOfRatio?` looks for. The bytes of a point hold its ordinate, so those of a point of the
curve are on the curve. A public key is such a point, a multiple of the base.

What is read from the bytes of a point is the point (`decompress?_compress`): there are two roots,
and the parity in the bytes says which one was meant. Canonical bytes from which a point is read are
the bytes of this point (`compress_of_decompress?`), unless its abscissa is zero. Zero has one root,
so the parity may be wrong then; such a point is of small order
(`CurvePoint.eight_nsmul_of_x_eq_zero`).
-/
import LedgerKeys.Ed25519
import LedgerKeys.Proofs.Curve.Group

namespace LedgerKeys
namespace Curve

/-! ## 1. The numbers in the bytes of a point -/

section Compressed

variable (P : Point)

theorem toNatLE_compress :
    Bytes.toNatLE P.compress = P.y.val + 2 ^ 255 * (P.x.val % 2) := by
  have hy : P.y.val < 2 ^ 255 := lt_trans P.y.isLt (by decide)
  have hx : P.x.val % 2 < 2 := Nat.mod_lt _ (by decide)
  rw [Point.compress, Bytes.toNatLE_ofNatLE]
  omega

theorem ordinate_compress : ordinate P.compress = P.y.val := by
  have hy : P.y.val < 2 ^ 255 := lt_trans P.y.isLt (by decide)
  rw [ordinate, toNatLE_compress]
  omega

theorem parity_compress : parity P.compress = P.x.val % 2 := by
  have hy : P.y.val < 2 ^ 255 := lt_trans P.y.isLt (by decide)
  rw [parity, toNatLE_compress]
  omega

/-- A point is written with its ordinate below the prime. -/
theorem isCanonical_compress : isCanonical P.compress = true := by
  rw [isCanonical, ordinate_compress]
  exact decide_eq_true P.y.isLt

end Compressed

theorem ofNat_val (x : Field) : Field.ofNat x.val = x := Fin.ofNat_val_eq_self x

/-- 32 bytes are known by their ordinate and their parity. -/
theorem toNatLE_eq {bs : Bytes} (hlen : bs.length = 32) :
    Bytes.toNatLE bs = ordinate bs + 2 ^ 255 * parity bs := by
  have hlt := Bytes.toNatLE_lt bs
  rw [hlen] at hlt
  unfold ordinate parity
  omega

/-! ## 2. Points with the same ordinate -/

/-- The equation of the curve is an equation for the root of a fraction in the ordinate. -/
theorem Point.onCurve_iff_root (P : Point) :
    P.OnCurve ↔ (d * (P.y * P.y) + 1) * (P.x * P.x) = P.y * P.y - 1 := by
  unfold Point.OnCurve
  constructor
  · intro h
    linear_combination -h
  · intro h
    linear_combination -h

/-- The denominator of the fraction is not zero, or the coefficient would be a square. -/
theorem coefficient_mul_add_one_ne_zero (y : Field) : d * (y * y) + 1 ≠ 0 := by
  intro h
  have hsquare : rootOfMinusOne * rootOfMinusOne = d * (y * y) := by
    linear_combination rootOfMinusOne_mul_self - h
  have hy : y = 0 := Point.eq_zero_of_coefficient hsquare
  rw [hy, mul_zero, mul_zero, zero_add] at h
  exact one_ne_zero h

theorem Point.OnCurve.x_mul_self {P Q : Point} (hP : P.OnCurve) (hQ : Q.OnCurve)
    (hy : P.y = Q.y) : P.x * P.x = Q.x * Q.x := by
  rw [Point.onCurve_iff_root, hy] at hP
  exact mul_left_cancel₀ (coefficient_mul_add_one_ne_zero Q.y)
    (hP.trans (Q.onCurve_iff_root.mp hQ).symm)

/-- Two points with the same ordinate are the same or opposite. -/
theorem CurvePoint.eq_or_eq_neg {P Q : CurvePoint} (hy : P.point.y = Q.point.y) :
    P = Q ∨ P = -Q := by
  rcases mul_self_eq_mul_self_iff.mp (P.onCurve.x_mul_self Q.onCurve hy) with hx | hx
  · exact Or.inl (CurvePoint.ext (Point.ext hx hy))
  · exact Or.inr (CurvePoint.ext (Point.ext hx hy))

/-! ## 3. Bytes on the curve -/

theorem decompress?_isSome_iff (bs : Bytes) :
    (decompress? bs).isSome ↔ ∃ P : Point, P.OnCurve ∧ P.y = Field.ofNat (ordinate bs) := by
  unfold decompress?
  rw [Option.isSome_map, rootOfRatio?_isSome_iff]
  constructor
  · rintro ⟨x, hx⟩
    exact ⟨⟨x, Field.ofNat (ordinate bs)⟩, (Point.onCurve_iff_root _).mpr hx, rfl⟩
  · rintro ⟨P, hP, hy⟩
    rw [← hy]
    exact ⟨P.x, P.onCurve_iff_root.mp hP⟩

/-- **What it is for bytes to be on the curve.** -/
theorem isOnCurve_iff (bs : Bytes) :
    isOnCurve bs = true ↔
      bs.length = 32 ∧ ∃ P : Point, P.OnCurve ∧ P.y = Field.ofNat (ordinate bs) := by
  rw [isOnCurve, Bool.and_eq_true, beq_iff_eq, decompress?_isSome_iff]

theorem isOnCurve_compress {P : Point} (hP : P.OnCurve) : isOnCurve P.compress = true := by
  rw [isOnCurve_iff]
  refine ⟨length_compress P, P, hP, ?_⟩
  rw [ordinate_compress, ofNat_val]

/-! ## 4. The point that is read -/

/-- What is read is a point of the curve with the ordinate of the bytes, and with their parity
unless its abscissa is zero. -/
theorem exists_of_decompress? {bs : Bytes} {P : Point} (h : decompress? bs = some P) :
    P.OnCurve ∧ P.y = Field.ofNat (ordinate bs) ∧ (P.x.val % 2 = parity bs ∨ P.x = 0) := by
  unfold decompress? at h
  obtain ⟨x, hx, rfl⟩ := Option.map_eq_some_iff.mp h
  obtain ⟨hroot, heven⟩ := rootOfRatio?_eq_some hx
  have hparity : parity bs < 2 := Nat.mod_lt _ (by decide)
  by_cases hodd : parity bs = 1
  · rw [if_pos hodd]
    refine ⟨?_, rfl, ?_⟩
    · rw [Point.onCurve_iff_root, neg_mul_neg]
      exact hroot
    · by_cases hzero : x = 0
      · exact Or.inr (neg_eq_zero.mpr hzero)
      · exact Or.inl (by rw [Field.val_neg_mod_two hzero, heven, hodd])
  · rw [if_neg hodd]
    refine ⟨(Point.onCurve_iff_root _).mpr hroot, rfl, Or.inl ?_⟩
    rw [heven]
    omega

/-- **Reading gives back the point that was written.** -/
theorem decompress?_compress (P : CurvePoint) : decompress? P.point.compress = some P.point := by
  have hsome : (decompress? P.point.compress).isSome := by
    rw [decompress?_isSome_iff, ordinate_compress, ofNat_val]
    exact ⟨P.point, P.onCurve, rfl⟩
  obtain ⟨Q, hQ⟩ := Option.isSome_iff_exists.mp hsome
  obtain ⟨hon, hy, hx⟩ := exists_of_decompress? hQ
  rw [ordinate_compress, ofNat_val] at hy
  have hsquare := hon.x_mul_self P.onCurve hy
  have hx : Q.x = P.point.x := by
    rcases hx with hparity | hzero
    · rw [parity_compress] at hparity
      exact Field.eq_of_mul_self_of_parity hsquare hparity
    · rw [hzero, mul_zero] at hsquare
      rw [hzero, mul_self_eq_zero.mp hsquare.symm]
  rw [hQ]
  exact congrArg some (Point.ext hx hy)

/-- **Writing gives back the bytes that were read**, if they are canonical and the abscissa is not
zero. -/
theorem compress_of_decompress? {bs : Bytes} {P : Point} (hlen : bs.length = 32)
    (hcanonical : isCanonical bs = true) (h : decompress? bs = some P) (hx : P.x ≠ 0) :
    P.compress = bs := by
  obtain ⟨-, hy, hparity⟩ := exists_of_decompress? h
  have hval : P.y.val = ordinate bs := by
    rw [hy]
    exact Nat.mod_eq_of_lt (of_decide_eq_true hcanonical)
  rw [Point.compress, hval, hparity.resolve_right hx, ← toNatLE_eq hlen, ← hlen,
    Bytes.ofNatLE_toNatLE]

/-! ## 5. Bytes of points of small order -/

/-- A point with the abscissa zero is its own opposite. -/
theorem CurvePoint.eight_nsmul_of_x_eq_zero {P : CurvePoint} (hx : P.point.x = 0) :
    8 • P = 0 := by
  have hneg : P = -P := by
    refine CurvePoint.ext (Point.ext ?_ rfl)
    rw [point_neg, Point.neg, hx, neg_zero]
  have htwice : 2 • P = 0 := by
    rw [two_nsmul]
    exact add_eq_zero_iff_eq_neg.mpr hneg
  rw [show 8 = 2 * 4 by rfl, mul_nsmul, htwice, smul_zero]

end Curve

/-! ## 6. Public keys -/

namespace Ed25519

open Curve

/-- **Every public key is on the curve.** -/
theorem isOnCurve_publicKey (seed : Bytes) : isOnCurve (publicKey seed) = true :=
  isOnCurve_compress (Point.mul_onCurve (scalar seed) Point.base_onCurve)

theorem isCanonical_publicKey (seed : Bytes) : isCanonical (publicKey seed) = true :=
  isCanonical_compress _

end Ed25519
end LedgerKeys
