/-
# Seeds

A seed is worth the bytes that `seedBytes` gives for it, and passes if there are at most
`maxSeedLength` of them. Callers are told to hand over byte strings, texts without surrogates and
public keys (`IsSeed`); each of these is worth some bytes, so the only thing that can be wrong with
it is its length (`eq_seedTooLong_of_shortSeed`).
-/
import Mathlib.Data.List.TakeWhile
import LedgerKeys.Derivation
import LedgerKeys.Proofs.Outcome

namespace LedgerKeys

/-! ## 1. Texts without surrogates -/

/-- A text can be written in UTF-8 exactly when no surrogate stands in it. -/
theorem Utf8.encode_eq_ok_iff {t : Text} {bs : Bytes} :
    Utf8.encode t = .ok bs ↔ (∀ c ∈ t, c.isSurrogate = false) ∧ bs = Utf8.encodeAll t := by
  have hdrop : t.dropWhile (fun c => !c.isSurrogate) = [] ↔ ∀ c ∈ t, c.isSurrogate = false := by
    simp [List.dropWhile_eq_nil_iff]
  rw [← hdrop]
  simp only [Utf8.encode, EncodeFault.find?]
  cases t.dropWhile (fun c => !c.isSurrogate) with
  | nil => simp [eq_comm]
  | cons c rest => simp

namespace Derivation

/-! ## 2. Seeds as callers are told to hand them over -/

/-- What callers are told to hand over as a seed: bytes, fixed or changeable, a text without
surrogates, or a public key. -/
inductive IsSeed : Value → Prop
  | bytes (bs : Bytes) : IsSeed (.bytes bs)
  | buffer (bs : Bytes) : IsSeed (.buffer bs)
  | text {t : Text} (ht : ∀ c ∈ t, c.isSurrogate = false) : IsSeed (.text t)
  | publicKey (k : PublicKey) : IsSeed (.publicKey k)

/-- Such a seed is worth some bytes. -/
theorem IsSeed.exists_seedBytes {seed : Value} (h : IsSeed seed) :
    ∃ bs, seedBytes seed = .ok bs := by
  cases h with
  | bytes bs => exact ⟨bs, rfl⟩
  | buffer bs => exact ⟨bs, rfl⟩
  | publicKey k => exact ⟨k.data, rfl⟩
  | @text t ht =>
    have henc : Utf8.encode t = .ok (Utf8.encodeAll t) := Utf8.encode_eq_ok_iff.mpr ⟨ht, rfl⟩
    exact ⟨Utf8.encodeAll t, by simp only [seedBytes, henc]⟩

/-- The bump that the search appends is a seed. -/
theorem isSeed_bumpSeed (bump : Nat) : IsSeed (bumpSeed bump) := .bytes _

/-! ## 3. Seeds that are not too long -/

/-- Nothing but its length can be wrong with a seed. -/
theorem IsSeed.eq_seedTooLong_of_shortSeed {seed : Value} (h : IsSeed seed) {f : Failure}
    (hf : shortSeed seed = .error f) : ∃ n, f = .seedTooLong n := by
  obtain ⟨bs, hbs⟩ := h.exists_seedBytes
  rw [shortSeed, hbs] at hf
  change (if maxSeedLength < bs.length then _ else _) = _ at hf
  split at hf
  · cases hf
    exact ⟨bs.length, rfl⟩
  · cases hf

end Derivation
end LedgerKeys
