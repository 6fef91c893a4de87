/-
# The equation of a signature

Read in the group of the curve, a signature satisfies the equation if its first half is the bytes of
`S B - k A` (`satisfiesEquation_iff`). A signature that was made with a seed does, because `S` is
`r + k a` up to the order of the base point and `A` is `a B`.

The strict verifier also looks at small orders. The secret scalar is eight times a number below the
order, so no public key is of small order (`isSmallOrder_publicKey`), while a nonce point is if the
nonce is zero (`isSmallOrder_take_sign`). A key that it takes is just the bytes of a point that is
not of small order (`exists_compress_iff`): a point that could be written in two ways has the
abscissa zero, and then it is of small order.
-/
import LedgerKeys.Proofs.Curve.Decompression
import LedgerKeys.Proofs.Curve.Order

namespace LedgerKeys
namespace Ed25519

open Curve

/-! ## 1. Bytes of points of small order -/

theorem isSmallOrder_of_decompress? {bs : Bytes} {P : CurvePoint}
    (h : decompress? bs = some P.point) : isSmallOrder bs = true ↔ 8 • P = 0 := by
  unfold isSmallOrder
  rw [h]
  exact decide_eq_true_iff.trans P.hasSmallOrder_iff

theorem isSmallOrder_compress (P : CurvePoint) :
    isSmallOrder P.point.compress = true ↔ 8 • P = 0 :=
  isSmallOrder_of_decompress? (decompress?_compress P)

/-- What is read is a point of the group. -/
theorem exists_curvePoint_of_decompress? {bs : Bytes} {P : Point} (h : decompress? bs = some P) :
    ∃ Q : CurvePoint, Q.point = P :=
  ⟨⟨P, (exists_of_decompress? h).1⟩, rfl⟩

/-- Bytes are of small order if the points with their ordinate are. -/
theorem isSmallOrder_iff (bs : Bytes) :
    isSmallOrder bs = true ↔
      ∃ P : CurvePoint, 8 • P = 0 ∧ P.point.y = Field.ofNat (ordinate bs) := by
  constructor
  · intro h
    cases hread : decompress? bs with
    | none =>
      unfold isSmallOrder at h
      rw [hread] at h
      cases h
    | some P =>
      obtain ⟨P, rfl⟩ := exists_curvePoint_of_decompress? hread
      exact ⟨P, (isSmallOrder_of_decompress? hread).mp h, (exists_of_decompress? hread).2.1⟩
  · rintro ⟨P, hP, hy⟩
    obtain ⟨Q, hread⟩ := Option.isSome_iff_exists.mp
      ((decompress?_isSome_iff bs).mpr ⟨P.point, P.onCurve, hy⟩)
    obtain ⟨Q, rfl⟩ := exists_curvePoint_of_decompress? hread
    rw [isSmallOrder_of_decompress? hread]
    have hsame : Q.point.y = P.point.y := (exists_of_decompress? hread).2.1.trans hy.symm
    rcases CurvePoint.eq_or_eq_neg hsame with rfl | rfl
    · exact hP
    · rw [smul_neg, hP, neg_zero]

/-- **Keys for the strict verifier.**  A canonical key from which a point that is not of small order
is read is the bytes of this point. -/
theorem exists_compress_iff {key : Bytes} (hlen : key.length = 32) :
    (∃ A : CurvePoint, key = A.point.compress ∧ 8 • A ≠ 0) ↔
      (decompress? key).isSome ∧ isCanonical key = true ∧ isSmallOrder key = false := by
  constructor
  · rintro ⟨A, rfl, hA⟩
    refine ⟨by rw [decompress?_compress]; rfl, isCanonical_compress A.point, ?_⟩
    exact Bool.eq_false_iff.mpr fun h => hA ((isSmallOrder_compress A).mp h)
  · rintro ⟨hsome, hcanonical, hsmall⟩
    obtain ⟨P, hread⟩ := Option.isSome_iff_exists.mp hsome
    obtain ⟨A, rfl⟩ := exists_curvePoint_of_decompress? hread
    have hA : 8 • A ≠ 0 := by
      intro h
      rw [(isSmallOrder_of_decompress? hread).mpr h] at hsmall
      cases hsmall
    refine ⟨A, (compress_of_decompress? hlen hcanonical hread ?_).symm, hA⟩
    exact fun hx => hA (CurvePoint.eight_nsmul_of_x_eq_zero hx)

/-! ## 2. The equation -/

theorem order_lt : order < 2 ^ 256 := by decide

theorem challenge_lt (noncePoint key message : Bytes) :
    challenge noncePoint key message < order := Nat.mod_lt _ (by decide)

theorem nonce_lt (seed message : Bytes) : nonce seed message < order := Nat.mod_lt _ (by decide)

/-- **The equation in the group.** -/
theorem satisfiesEquation_iff {key message signature : Bytes} :
    satisfiesEquation key message signature = true ↔
      ∃ A : CurvePoint, decompress? key = some A.point ∧
        Bytes.toNatLE (signature.drop 32) < order ∧
        (Bytes.toNatLE (signature.drop 32) • base -
          challenge (signature.take 32) key message • A).point.compress = signature.take 32 := by
  unfold satisfiesEquation
  cases hread : decompress? key with
  | none => simp
  | some P =>
    obtain ⟨A, rfl⟩ := exists_curvePoint_of_decompress? hread
    have hpoint : ∀ s k, s < order → k < order →
        (Point.base.mul s).add (A.point.neg.mul k) = (s • base - k • A).point := by
      intro s k hs hk
      rw [mul_base (hs.trans order_lt), ← CurvePoint.point_neg,
        (-A).mul_eq_nsmul (hk.trans order_lt), ← CurvePoint.point_add, smul_neg, sub_eq_add_neg]
    simp only [Bool.and_eq_true, decide_eq_true_eq, beq_iff_eq, Option.some.injEq]
    constructor
    · rintro ⟨hs, h⟩
      rw [hpoint _ _ hs (challenge_lt _ _ _)] at h
      exact ⟨A, rfl, hs, h⟩
    · rintro ⟨A', hA', hs, h⟩
      obtain rfl : A = A' := CurvePoint.ext hA'
      rw [hpoint _ _ hs (challenge_lt _ _ _)]
      exact ⟨hs, h⟩

/-! ## 3. Signatures that were made with a seed -/

section Own

variable (seed message : Bytes)

/-- The secret scalar is eight times a number below the order. -/
theorem exists_scalar_eq : ∃ n, 0 < n ∧ n < order ∧ scalar seed = 8 * n := by
  unfold scalar clamp
  generalize Bytes.toNatLE ((sha512 seed).take 32) = m
  refine ⟨2 ^ 251 + m % 2 ^ 254 / 8, ?_, ?_, ?_⟩
  · omega
  · unfold order
    omega
  · omega

theorem scalar_lt : scalar seed < 2 ^ 256 := by
  unfold scalar clamp
  omega

theorem publicKey_eq : publicKey seed = (scalar seed • base).point.compress := by
  rw [publicKey, mul_base (scalar_lt seed)]

theorem decompress?_publicKey :
    decompress? (publicKey seed) = some (scalar seed • base).point := by
  rw [publicKey_eq, decompress?_compress]

/-- **No public key is of small order.** -/
theorem isSmallOrder_publicKey : isSmallOrder (publicKey seed) = false := by
  obtain ⟨n, hpos, hlt, hscalar⟩ := exists_scalar_eq seed
  have hcoprime : Nat.Coprime order 8 := by decide +kernel
  refine Bool.eq_false_iff.mpr fun h => ?_
  rw [publicKey_eq, isSmallOrder_compress, eight_nsmul_nsmul_base, hscalar,
    hcoprime.dvd_mul_left] at h
  exact absurd (Nat.le_of_dvd hpos h) (Nat.not_le.mpr hlt)

theorem take_sign : (sign seed message).take 32 = (nonce seed message • base).point.compress := by
  rw [← mul_base ((nonce_lt seed message).trans order_lt)]
  exact List.take_left' (length_compress _)

theorem drop_sign :
    Bytes.toNatLE ((sign seed message).drop 32) =
      (nonce seed message +
          challenge ((sign seed message).take 32) (publicKey seed) message * scalar seed) %
        order := by
  have hlt : ∀ n, n % order < 256 ^ 32 := fun n =>
    (Nat.mod_lt n (by decide)).trans (by decide)
  have htake : (sign seed message).take 32 = (Point.base.mul (nonce seed message)).compress :=
    List.take_left' (length_compress _)
  rw [htake, sign, List.drop_left' (length_compress _), Bytes.toNatLE_ofNatLE,
    Nat.mod_eq_of_lt (hlt _)]

/-- **A signature that was made with a seed satisfies the equation** for the public key of the
seed. -/
theorem satisfiesEquation_sign :
    satisfiesEquation (publicKey seed) message (sign seed message) = true := by
  refine satisfiesEquation_iff.mpr ⟨_, decompress?_publicKey seed, ?_, ?_⟩
  · rw [drop_sign]
    exact Nat.mod_lt _ (by decide)
  · rw [drop_sign, mod_order_nsmul_base, add_nsmul, mul_nsmul', add_sub_cancel_right, take_sign]

/-- The nonce point is of small order if the nonce is zero. -/
theorem isSmallOrder_take_sign :
    isSmallOrder ((sign seed message).take 32) = true ↔ nonce seed message = 0 := by
  rw [take_sign, isSmallOrder_compress, eight_nsmul_nsmul_base]
  constructor
  · intro h
    exact Nat.eq_zero_of_dvd_of_lt h (nonce_lt seed message)
  · intro h
    rw [h]
    exact dvd_zero order

end Own

/-! ## 4. The two verifiers -/

/-- **What the strict verifier wants in addition.**  The key is the bytes of a point that is not of
small order, and the points with the ordinate of the first half of the signature are not of small
order. -/
theorem verifyStrict_iff {key message signature : Bytes} (hlen : key.length = 32) :
    verifyStrict key message signature = true ↔
      verifyLenient key message signature = true ∧
        (∃ A : CurvePoint, key = A.point.compress ∧ 8 • A ≠ 0) ∧
        ¬ ∃ R : CurvePoint, 8 • R = 0 ∧
          R.point.y = Field.ofNat (ordinate (signature.take 32)) := by
  rw [exists_compress_iff hlen, ← isSmallOrder_iff]
  unfold verifyStrict verifyLenient
  simp only [Bool.and_eq_true, Bool.not_eq_true', Bool.not_eq_true]
  constructor
  · rintro ⟨⟨⟨hcanonical, hkey⟩, hnonce⟩, hequation⟩
    obtain ⟨A, hread, -⟩ := satisfiesEquation_iff.mp hequation
    exact ⟨hequation, ⟨by rw [hread]; rfl, hcanonical, hkey⟩, hnonce⟩
  · rintro ⟨hequation, ⟨-, hcanonical, hkey⟩, hnonce⟩
    exact ⟨⟨⟨hcanonical, hkey⟩, hnonce⟩, hequation⟩

/-- The strict verifier takes a signature that was made with a seed, unless the nonce is zero. -/
theorem verifyStrict_sign (seed message : Bytes) :
    verifyStrict (publicKey seed) message (sign seed message) =
      decide (nonce seed message ≠ 0) := by
  have hnonce : isSmallOrder ((sign seed message).take 32) = decide (nonce seed message = 0) := by
    rw [Bool.eq_iff_iff, isSmallOrder_take_sign, decide_eq_true_eq]
  unfold verifyStrict
  rw [isCanonical_publicKey, isSmallOrder_publicKey, hnonce, satisfiesEquation_sign, decide_not]
  simp

end Ed25519
end LedgerKeys
