/-
# Imports in every encoding

A text that is accepted by an import is recognizable: it is an array of integers, or a string that
holds base58 text and blanks, so it begins with a character of ASCII and has neither zeros nor
surrogates in it (`Importer.recognizable_of_accept`). The reader of JSON therefore finds the same
document in its bytes, whatever encoding they are in and with a mark or without, and so does the
import.
-/
import LedgerKeys.Proofs.Json.Encodings
import LedgerKeys.Proofs.Keygen.Accepted

namespace LedgerKeys

open Encoding (Recognizable)

variable {t s : Text} {bs : Bytes} {found : Json}

/-! ## 1. Texts that are accepted -/

theorem Base58.all_alphabet_tokens : (alphabet.all fun c => decide (Json.IsToken c)) = true := by
  decide

theorem Base58.isToken_of_mem_alphabet {c : CodePoint} (hc : c ∈ alphabet) : Json.IsToken c :=
  of_decide_eq_true (List.all_eq_true.mp all_alphabet_tokens c hc)

/-- No blank is a zero or a surrogate. -/
theorem CodePoint.plain_of_isBlank {c : CodePoint} (h : c.isBlank = true) :
    c ≠ 0 ∧ c.isSurrogate = false := by
  have hzero : CodePoint.isBlank 0 = false := by decide
  refine ⟨fun hc => by simp [hc, hzero] at h, ?_⟩
  simp only [isBlank, isSurrogate, Bool.or_eq_true, Bool.and_eq_true, decide_eq_true_eq,
    beq_iff_eq, Bool.and_eq_false_iff, decide_eq_false_iff_not] at h ⊢
  omega

/-- What is read as base58 has neither zeros nor surrogates in it. -/
theorem Base58.plain_of_decodeValue (h : decodeValue (.text s) = .ok bs) :
    ∀ c ∈ s, c ≠ 0 ∧ c.isSurrogate = false := by
  obtain ⟨tail, rfl, htail⟩ := decodeValue_text_eq_ok_iff.mp h
  intro c hc
  rcases List.mem_append.mp hc with hc | hc
  · exact (isToken_of_mem_alphabet (mem_alphabet_of_mem_encode c hc)).plain
  · exact CodePoint.plain_of_isBlank (htail c hc)

namespace Importer

variable {imp : Importer}

theorem recognizable_of_ofJson (ht : Json.parse t = .ok found)
    (h : Keygen.ofJson found = .ok bs) : Recognizable t := by
  obtain ⟨rfl, hlen⟩ := Keygen.ofJson_eq_ok_iff.mp h
  exact ((Keygen.parse_eq_arrayOf_iff hlen).mp ht).recognizable

/-- **A text that an import accepts is recognizable.** -/
theorem recognizable_of_accept (ht : Json.parse t = .ok found) (h : imp.accept found = .ok bs) :
    Recognizable t := by
  cases imp with
  | keygenBytes => exact recognizable_of_ofJson ht h
  | keygenKey =>
    obtain ⟨k, hk, -⟩ := except_map_eq_ok.mp h
    obtain ⟨bs', hbs', -⟩ := except_bind_eq_ok.mp hk
    exact recognizable_of_ofJson ht hbs'
  | publicKey =>
    obtain ⟨k, hk, -⟩ := except_map_eq_ok.mp h
    cases found with
    | str s =>
      obtain ⟨bs', hbs', -⟩ := except_bind_eq_ok.mp (rescue_eq_ok.mp hk)
      exact Json.recognizable_of_parse ht (Base58.plain_of_decodeValue hbs')
    | _ => cases hk
  | privateKey =>
    obtain ⟨k, hk, -⟩ := except_map_eq_ok.mp h
    cases found with
    | str s =>
      obtain ⟨bs', hbs', -⟩ := except_bind_eq_ok.mp hk
      exact Json.recognizable_of_parse ht (Base58.plain_of_decodeValue hbs')
    | _ => cases hk

theorem recognizable_of_read (h : imp.read (.text t) = .ok bs) : Recognizable t := by
  rw [read_eq, except_bind_eq_ok] at h
  obtain ⟨found, hfound, haccept⟩ := h
  exact recognizable_of_accept (Json.ofDocument_text_eq_ok_iff.mp (rescue_eq_ok.mp hfound)) haccept

/-! ## 2. Bytes that are accepted -/

/-- **Imports do not depend on the encoding.**  A text that an import accepts has no surrogates in
it, so that its bytes are what it is written as in each encoding; and these bytes, with the mark of
the encoding in front of them or without, are accepted by the same import with the same result. -/
theorem same_in_every_encoding (imp : Importer) (t : Text) (bs : Bytes)
    (h : imp.read (.text t) = .ok bs) :
    (∀ c ∈ t, c.isSurrogate = false) ∧
      ∀ e : Encoding, imp.read (.bytes (e.encode t)) = .ok bs ∧
        imp.read (.bytes (e.mark ++ e.encode t)) = .ok bs := by
  have ht := recognizable_of_read h
  refine ⟨ht.isSurrogate, fun e => ?_⟩
  obtain ⟨hplain, hmark⟩ := Json.ofDocument_encode ht e
  rw [read_eq] at h
  constructor
  · rw [read_eq, hplain, h]
  · rw [read_eq, hmark, h]

/-- The key of zeros, with a wide space behind it and a space in front of the string, in the bytes
of two encodings. -/
theorem same_in_every_encoding_wide_space :
    let t : Text := 0x20 :: 0x22 :: (List.replicate 32 0x31 ++ [0x2003, 0x22])
    let little : Encoding := .utf16 .little
    let marked := little.mark ++ little.encode t
    let big := (Encoding.utf32 .big).encode t
    publicKey.read (.text t) = .ok (Bytes.zeros 32) ∧
      (marked.take 6 = [0xFF, 0xFE, 0x20, 0, 0x22, 0] ∧
        publicKey.read (.bytes marked) = .ok (Bytes.zeros 32)) ∧
      big.take 8 = [0, 0, 0, 0x20, 0, 0, 0, 0x22] ∧
        publicKey.read (.bytes big) = .ok (Bytes.zeros 32) := by
  intro t little marked big
  have hread : publicKey.read (.text t) = .ok (Bytes.zeros 32) :=
    except_eq_ok_of_toOption (by decide +kernel)
  obtain ⟨-, hencodings⟩ := same_in_every_encoding publicKey t (Bytes.zeros 32) hread
  exact ⟨hread, ⟨by decide +kernel, (hencodings little).2⟩, by decide +kernel,
    (hencodings (.utf32 .big)).1⟩

end Importer

end LedgerKeys
