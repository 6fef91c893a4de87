/-
# Exports that are imported again

Public keys, private keys and signatures are written in base58, keys also as JSON strings of that
text, and private keys as arrays of numbers. Each form is read back to the very value that it was
written for. Base58 text holds nothing but ASCII, so the reader of JSON has no escapes to join in
it; leading zero bytes are kept by base58 itself, and the length that is checked at the end is that
of the value.

What is read back tells values apart (`injective_of_reads_back`), so two keys are equal if any one
of their forms is.
-/
import LedgerKeys.Proofs.Key.Halves
import LedgerKeys.Proofs.Keygen.Format

namespace LedgerKeys

/-! ## 1. Base58 text in JSON -/

theorem CodePoint.isHighSurrogate_of_isAscii {c : CodePoint} (h : c.isAscii = true) :
    c.isHighSurrogate = false := by
  simp only [isAscii, isHighSurrogate, decide_eq_true_eq, Bool.and_eq_false_iff,
    decide_eq_false_iff_not] at h ⊢
  omega

namespace Json

theorem unpaired_of_isAscii {t : Text} (h : ∀ c ∈ t, c.isAscii = true) : Unpaired t :=
  unpaired_of_isHighSurrogate fun c hc => CodePoint.isHighSurrogate_of_isAscii (h c hc)

theorem unpaired_encode (bs : Bytes) : Unpaired (Base58.encode bs) :=
  unpaired_of_isAscii fun c hc =>
    Base58.isAscii_of_mem_alphabet (Base58.mem_alphabet_of_mem_encode c hc)

/-- The JSON string of a base58 text is read back. -/
theorem ofDocument_printText_encode (bs : Bytes) :
    ofDocument (.text (printText (Base58.encode bs))) = .ok (.str (Base58.encode bs)) :=
  ofDocument_print (.str (unpaired_encode bs))

end Json

/-! ## 2. Public keys and signatures -/

/-- Forms that are read back tell their values apart. -/
theorem injective_of_reads_back {α : Type} {write : α → Text} {read : Value → Except Failure α}
    (h : ∀ a, read (.text (write a)) = .ok a) : Function.Injective write := by
  intro a b hab
  have hread := h a
  rw [hab, h b] at hread
  exact (Except.ok.inj hread).symm

theorem PublicKey.ofBase58_toBase58 (k : PublicKey) : ofBase58 (.text k.toBase58) = .ok k := by
  rw [ofBase58, toBase58, Base58.decodeValue_encode]
  change ofLength .publicKey ofBytes? k.data = .ok k
  rw [ofLength, ofBytes?, dif_pos k.length_data]

theorem PublicKey.ofJson_toJson (k : PublicKey) : ofJson (.text k.toJson) = .ok k := by
  rw [ofJson, toJson, toBase58, Json.ofDocument_printText_encode]
  exact rescue_eq_ok.mpr k.ofBase58_toBase58

theorem Signature.ofBase58_toBase58 (s : Signature) : ofBase58 (.text s.toBase58) = .ok s := by
  rw [ofBase58, toBase58, Base58.decodeValue_encode]
  change ofLength .signature ofBytes? s.data = .ok s
  rw [ofLength, ofBytes?, dif_pos s.length_data]

/-! ## 3. Private keys -/

namespace PrivateKey

variable (k : PrivateKey)

theorem ofBase58_toBase58 : ofBase58 (.text k.toBase58) = .ok k :=
  bind_ofLength_eq_ok_iff.mpr (Base58.decodeValue_encode k.data)

theorem ofJson_toJson : ofJson (.text k.toJson) = .ok k := by
  rw [ofJson, toJson, toBase58, Json.ofDocument_printText_encode]
  exact k.ofBase58_toBase58

theorem ofKeygen_encode : ofKeygen (.text (Keygen.encode k.data)) = .ok k :=
  bind_ofLength_eq_ok_iff.mpr (Keygen.decode_encode k.length_data).1

/-- From the bytes of the text, as they stand in a file. -/
theorem ofKeygen_encodeAll_encode :
    ofKeygen (.bytes (Utf8.encodeAll (Keygen.encode k.data))) = .ok k :=
  bind_ofLength_eq_ok_iff.mpr (Keygen.decode_encode k.length_data).2

end PrivateKey

/-! ## 4. Every export -/

/-- **Every export is imported again to the same value.**  So values are equal just when their texts
are, in whichever form. -/
theorem export_reads_back :
    (∀ p q : PublicKey,
      PublicKey.ofBase58 (.text p.toBase58) = .ok p ∧ PublicKey.ofJson (.text p.toJson) = .ok p ∧
        (p = q ↔ p.toBase58 = q.toBase58) ∧ (p = q ↔ p.toJson = q.toJson)) ∧
    (∀ k l : PrivateKey,
      PrivateKey.ofBase58 (.text k.toBase58) = .ok k ∧ PrivateKey.ofJson (.text k.toJson) = .ok k ∧
        PrivateKey.ofKeygen (.text (Keygen.encode k.data)) = .ok k ∧
        (k = l ↔ k.toBase58 = l.toBase58) ∧ (k = l ↔ k.toJson = l.toJson) ∧
        (k = l ↔ Keygen.encode k.data = Keygen.encode l.data)) ∧
    ∀ g s : Signature,
      Signature.ofBase58 (.text g.toBase58) = .ok g ∧ (g = s ↔ g.toBase58 = s.toBase58) := by
  refine ⟨fun p q => ⟨p.ofBase58_toBase58, p.ofJson_toJson, ?_, ?_⟩,
    fun k l => ⟨k.ofBase58_toBase58, k.ofJson_toJson, k.ofKeygen_encode, ?_, ?_, ?_⟩,
    fun g s => ⟨g.ofBase58_toBase58, ?_⟩⟩
  · exact (injective_of_reads_back PublicKey.ofBase58_toBase58).eq_iff.symm
  · exact (injective_of_reads_back PublicKey.ofJson_toJson).eq_iff.symm
  · exact (injective_of_reads_back PrivateKey.ofBase58_toBase58).eq_iff.symm
  · exact (injective_of_reads_back PrivateKey.ofJson_toJson).eq_iff.symm
  · have hinjective : Function.Injective fun k : PrivateKey => Keygen.encode k.data :=
      injective_of_reads_back PrivateKey.ofKeygen_encode
    exact hinjective.eq_iff.symm
  · exact (injective_of_reads_back Signature.ofBase58_toBase58).eq_iff.symm

end LedgerKeys
