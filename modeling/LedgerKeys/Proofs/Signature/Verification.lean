/-
# What the two backends verify

Both backends compute the same keys and signatures, and each verifies what either of them signed
(`verify_sign_across_backends`). They differ in what else they verify. The lenient one asks for the
equation only; the strict one wants in addition a key that is the bytes of a point that is not of
small order, and a nonce point that is not of small order (`verify_strict_iff_verify_lenient`). So
the strict one never takes what the other one refuses.
-/
import LedgerKeys.Proofs.Signature.Equation
import LedgerKeys.Proofs.Signature.Operation

namespace LedgerKeys
namespace Signing

open Curve

variable {env : Environment} {host after : Host} {b : Backend}

/-! ## 1. Signatures of either backend -/

/-- **What either backend signs, both verify.**  A seed has one public key and a message one
signature, the same with each backend. The public key is canonical and not of small order. The
lenient backend verifies the signature, and the strict one does unless the nonce is zero; then the
nonce point is of small order. -/
theorem verify_sign_across_backends {seed : Bytes} (hseed : seed.length = 32) (message : Bytes) :
    ∃ key signature : Bytes,
      publicKeyOfSecret (.bytes (seed ++ key)) = .ok key ∧
      isCanonical key = true ∧ Ed25519.isSmallOrder key = false ∧
      ∀ (env : Environment) (host after : Host) (b : Backend),
        env.backend.outcome host = (.ok b, after) →
          (publicKeyOfSeed env (.bytes seed)).result host = .ok key ∧
          (sign env (.bytes (seed ++ key)) (.bytes message)).result host = .ok signature ∧
          (verify env (.bytes key) (.bytes message) (.bytes signature)).result host =
            .ok (decide (b = .strict → Ed25519.nonce seed message ≠ 0)) := by
  have hkey : (Ed25519.publicKey seed).length = 32 := Ed25519.length_publicKey seed
  refine ⟨Ed25519.publicKey seed, Ed25519.sign seed message, publicKeyOfSecret_bytes hseed hkey,
    Ed25519.isCanonical_publicKey seed, Ed25519.isSmallOrder_publicKey seed,
    fun env host after b hbackend => ⟨?_, result_sign_bytes hbackend hseed hkey message, ?_⟩⟩
  · exact Effect.result_of_outcome (outcome_publicKeyOfSeed_bytes hbackend hseed)
  · have hverifies : b.verifies (Ed25519.publicKey seed) message (Ed25519.sign seed message) =
        decide (b = .strict → Ed25519.nonce seed message ≠ 0) := by
      cases b with
      | strict => simpa [Backend.verifies] using Ed25519.verifyStrict_sign seed message
      | lenient =>
        simpa [Backend.verifies, Ed25519.verifyLenient] using
          Ed25519.satisfiesEquation_sign seed message
    rw [result_verify_bytes hbackend, hkey, Ed25519.length_sign, hverifies]
    rfl

/-- The preference for the lenient backend. -/
def preferLenient : Environment := { preferred := some (Text.ofString Backend.lenient.name) }

theorem outcome_backend_preferLenient :
    preferLenient.backend.outcome {} = (.ok .lenient, {}) := rfl

/-- The seed of zeros signs the empty message with the lenient backend, and the strict one verifies
it. -/
theorem verify_sign_across_backends_zeros :
    let seed := Bytes.zeros 32
    seed.length = 32 ∧ Ed25519.nonce seed [] ≠ 0 ∧
      preferLenient.backend.outcome {} = (.ok .lenient, {}) ∧
      ({} : Environment).backend.outcome {} = (.ok .strict, {}) ∧
      ∃ key signature : Bytes,
        (publicKeyOfSeed preferLenient (.bytes seed)).result {} = .ok key ∧
        (sign preferLenient (.bytes (seed ++ key)) (.bytes [])).result {} = .ok signature ∧
        (verify {} (.bytes key) (.bytes []) (.bytes signature)).result {} = .ok true := by
  intro seed
  have hseed : seed.length = 32 := Bytes.length_zeros 32
  have hnonce : Ed25519.nonce seed [] ≠ 0 := by decide +kernel
  have hstrict : ({} : Environment).backend.outcome {} = (.ok .strict, {}) := rfl
  obtain ⟨key, signature, -, -, -, hall⟩ := verify_sign_across_backends hseed []
  obtain ⟨hkey, hsign, -⟩ := hall _ _ _ _ outcome_backend_preferLenient
  obtain ⟨-, -, hverify⟩ := hall _ _ _ _ hstrict
  refine ⟨hseed, hnonce, outcome_backend_preferLenient, hstrict, key, signature, hkey, hsign, ?_⟩
  rw [hverify, decide_eq_true fun _ => hnonce]

/-! ## 2. Signatures of any origin -/

/-- If one answer is the other one under a condition, they differ where the condition fails. -/
theorem ne_iff_of_eq_true_iff_and {strict lenient : Bool} {p : Prop}
    (h : strict = true ↔ lenient = true ∧ p) : strict ≠ lenient ↔ lenient = true ∧ ¬ p := by
  cases strict with
  | true =>
    obtain ⟨hlenient, hp⟩ := h.mp rfl
    simp [hlenient, hp]
  | false =>
    cases lenient with
    | true => simpa using h
    | false => simp

/-- **How far the two backends agree.**  Both answer for all byte strings. The strict one says yes
if the lenient one does, the key is the bytes of a point that is not of small order, and the first
half of the signature does not stand for a point of small order. So the answers differ only on
signatures that satisfy the equation and have a key or a nonce point that the strict one refuses. -/
theorem verify_strict_iff_verify_lenient {env' : Environment} {host' after' : Host}
    (hstrict : env.backend.outcome host = (.ok .strict, after))
    (hlenient : env'.backend.outcome host' = (.ok .lenient, after'))
    (key message signature : Bytes) :
    ∃ strict lenient : Bool,
      (verify env (.bytes key) (.bytes message) (.bytes signature)).result host = .ok strict ∧
      (verify env' (.bytes key) (.bytes message) (.bytes signature)).result host' = .ok lenient ∧
      (strict = true ↔
        lenient = true ∧
          (∃ A : CurvePoint, key = A.point.compress ∧ 8 • A ≠ 0) ∧
          ¬ ∃ R : CurvePoint, 8 • R = 0 ∧
            R.point.y = Field.ofNat (ordinate (signature.take 32))) ∧
      (strict ≠ lenient ↔
        lenient = true ∧
          ((∀ A : CurvePoint, key = A.point.compress → 8 • A = 0) ∨
            ∃ R : CurvePoint, 8 • R = 0 ∧
              R.point.y = Field.ofNat (ordinate (signature.take 32)))) := by
  have hiff : (decide (key.length = 32) && decide (signature.length = 64) &&
        Ed25519.verifyStrict key message signature) = true ↔
      (decide (key.length = 32) && decide (signature.length = 64) &&
          Ed25519.verifyLenient key message signature) = true ∧
        (∃ A : CurvePoint, key = A.point.compress ∧ 8 • A ≠ 0) ∧
        ¬ ∃ R : CurvePoint, 8 • R = 0 ∧
          R.point.y = Field.ofNat (ordinate (signature.take 32)) := by
    simp only [Bool.and_eq_true, decide_eq_true_eq, and_assoc]
    refine and_congr_right fun hkey => and_congr_right fun _ => ?_
    exact Ed25519.verifyStrict_iff hkey
  refine ⟨_, _, result_verify_bytes hstrict key message signature,
    result_verify_bytes hlenient key message signature, hiff, ?_⟩
  refine (ne_iff_of_eq_true_iff_and hiff).trans (and_congr_right fun _ => ?_)
  rw [not_and_or, not_not]
  simp only [not_exists, not_and, not_not, ne_eq]

/-- The neutral point as a key and as a nonce point, with the scalar zero: the lenient backend takes
this signature of every message, the strict one does not. -/
theorem verify_strict_iff_verify_lenient_neutral :
    let key := Point.zero.compress
    let signature := key ++ Bytes.zeros 32
    ({} : Environment).backend.outcome {} = (.ok .strict, {}) ∧
      preferLenient.backend.outcome {} = (.ok .lenient, {}) ∧
      ∀ message : Bytes,
        (verify {} (.bytes key) (.bytes message) (.bytes signature)).result {} = .ok false ∧
        (verify preferLenient (.bytes key) (.bytes message) (.bytes signature)).result {} =
          .ok true := by
  intro key signature
  have hstrict : ({} : Environment).backend.outcome {} = (.ok .strict, {}) := rfl
  refine ⟨hstrict, outcome_backend_preferLenient, fun message => ?_⟩
  obtain ⟨strict, lenient, hs, hl, -, hdiffer⟩ :=
    verify_strict_iff_verify_lenient hstrict outcome_backend_preferLenient key message signature
  have hkey : decompress? key = some (0 : CurvePoint).point := decompress?_compress 0
  have hequation : Ed25519.satisfiesEquation key message signature = true := by
    have htake : signature.take 32 = key := List.take_left' (length_compress _)
    have hdrop : signature.drop 32 = Bytes.zeros 32 := List.drop_left' (length_compress _)
    have hzero : Bytes.toNatLE (Bytes.zeros 32) = 0 := by decide
    refine Ed25519.satisfiesEquation_iff.mpr ⟨0, hkey, ?_, ?_⟩
    · rw [hdrop, hzero]
      decide
    · rw [hdrop, hzero, htake, zero_nsmul, smul_zero, sub_zero]
      rfl
  have hyes : lenient = true := by
    rw [result_verify_bytes outcome_backend_preferLenient] at hl
    rw [← Except.ok.inj hl]
    simp [Backend.verifies, Ed25519.verifyLenient, hequation, signature, key]
  have hne : strict ≠ lenient := by
    refine hdiffer.mpr ⟨hyes, Or.inl fun A hA => ?_⟩
    have hsame : some A.point = some (0 : CurvePoint).point := by
      rw [← decompress?_compress A, ← hA, hkey]
    rw [CurvePoint.ext (Option.some.inj hsame), smul_zero]
  rw [hyes] at hl hne
  rw [Bool.eq_false_iff.mpr hne] at hs
  exact ⟨hs, hl⟩

end Signing
end LedgerKeys
