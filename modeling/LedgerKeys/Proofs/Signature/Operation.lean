/-
# Operations on byte strings

The operations take values of any kind. Handed the byte strings that they are for, each of them
chooses a backend and then does what the scheme says, so that what is proved of the scheme can be
read off. A verdict is the backend's for lengths that are right and no for others
(`result_verify_bytes`); a signature is that of the first half of the secret key, with each backend
(`result_sign_bytes`).
-/
import LedgerKeys.Proofs.Key.Generation

namespace LedgerKeys
namespace Signing

variable {env : Environment} {host after : Host} {b : Backend}

/-! ## 1. Verifying -/

/-- Verifying byte strings gives an answer, which is no for wrong lengths. -/
theorem result_verify_bytes (hbackend : env.backend.outcome host = (.ok b, after))
    (key message signature : Bytes) :
    (verify env (.bytes key) (.bytes message) (.bytes signature)).result host =
      .ok (decide (key.length = 32) && decide (signature.length = 64) &&
        b.verifies key message signature) := by
  have hverdict : verdict b (.bytes key) (.bytes message) (.bytes signature) =
      .ok (b.verifies key message signature) := by
    cases b with
    | strict => rfl
    | lenient => rfl
  unfold verify
  rw [Effect.result, Effect.outcome_bind, hbackend]
  simp only [Effect.outcome_ofExcept, Value.length, bind, Except.bind, hverdict]
  by_cases hkey : key.length = 32
  · by_cases hsignature : signature.length = 64
    · simp [hkey, hsignature, invalidIfOutOfRange]
    · simp [hkey, hsignature]
      rfl
  · simp [hkey]
    rfl

/-- A signature is verified as the bytes that it holds. -/
theorem result_verifyWith (hbackend : env.backend.outcome host = (.ok b, after)) (s : Signature)
    (key : PublicKey) (message : Bytes) :
    (verifyWith env s (.publicKey key) (.bytes message)).result host =
      .ok (b.verifies key.data message s.data) := by
  rw [verifyWith, Value.toBytes, Effect.ofExcept_ok_bind, result_verify_bytes hbackend,
    key.length_data, s.length_data]
  rfl

/-! ## 2. Signing -/

theorem wantLength_secretKey {seed key : Bytes} (hseed : seed.length = 32)
    (hkey : key.length = 32) : wantLength .secretKey (.bytes (seed ++ key)) = .ok () := by
  refine wantLength_eq_ok_iff.mpr (congrArg Except.ok ?_)
  rw [List.length_append, hseed, hkey]
  rfl

/-- A secret key signs with its first half, and the signature is the same with each backend. -/
theorem result_sign_bytes (hbackend : env.backend.outcome host = (.ok b, after)) {seed key : Bytes}
    (hseed : seed.length = 32) (hkey : key.length = 32) (message : Bytes) :
    (sign env (.bytes (seed ++ key)) (.bytes message)).result host =
      .ok (Ed25519.sign seed message) := by
  have hwant := wantLength_secretKey hseed hkey
  have hhalf : Value.toBytes (.bytes ((seed ++ key).take 32)) = .ok seed :=
    congrArg Except.ok (List.take_left' hseed)
  unfold sign
  rw [Effect.result_bind_eq_ok]
  refine ⟨(), by rw [Effect.result_ofExcept, hwant], ?_⟩
  rw [Effect.outcome_ofExcept, Effect.result_bind_eq_ok]
  refine ⟨b, Effect.result_of_outcome hbackend, ?_⟩
  rw [Effect.result_ofExcept]
  refine except_bind_eq_ok.mpr ⟨.bytes ((seed ++ key).take 32), rfl, ?_⟩
  refine except_bind_eq_ok.mpr ⟨seed, hhalf, ?_⟩
  exact except_bind_eq_ok.mpr ⟨message, rfl, rfl⟩

theorem publicKeyOfSecret_bytes {seed key : Bytes} (hseed : seed.length = 32)
    (hkey : key.length = 32) : publicKeyOfSecret (.bytes (seed ++ key)) = .ok key := by
  have hwant := wantLength_secretKey hseed hkey
  unfold publicKeyOfSecret
  simp only [hwant, Value.cut, Value.toBytes, bind, Except.bind, List.drop_left' hseed]

end Signing
end LedgerKeys
