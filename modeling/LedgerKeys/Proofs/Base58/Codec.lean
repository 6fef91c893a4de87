/-
# Base58 text and the bytes it stands for

Text and bytes are one digit string in two bases (`encode_eq`, `decode_eq`), so decoding undoes
encoding and every text over the alphabet is the text of some byte string: the one that is
decoded from it (`decode_eq_ok_iff`). A text with other characters is refused for the first of
them (`of_decode_eq_error`).
-/
import LedgerKeys.Base58
import LedgerKeys.Text.Blank
import LedgerKeys.Proofs.Base58.Rebase
import LedgerKeys.Proofs.Outcome

namespace LedgerKeys
namespace Base58

open Rebase

/-! ## 1. The alphabet -/

-- The test goes through the list: whether all code points of a list have a property could also be
-- decided by going through all code points.
theorem all_alphabet_plain : alphabet.all (fun c => c.isAscii && !c.isBlank) = true := by decide

theorem isAscii_of_mem_alphabet {c : CodePoint} (hc : c ∈ alphabet) : c.isAscii = true :=
  (Bool.and_eq_true_iff.mp (List.all_eq_true.mp all_alphabet_plain c hc)).1

theorem isBlank_of_mem_alphabet {c : CodePoint} (hc : c ∈ alphabet) : c.isBlank = false := by
  simpa using (Bool.and_eq_true_iff.mp (List.all_eq_true.mp all_alphabet_plain c hc)).2

theorem character_zero : character 0 = one := by decide

theorem value?_character : ∀ v < 58, value? (character v) = some v := by decide +kernel

theorem character_mem {v : ℕ} (hv : v < 58) : character v ∈ alphabet := by
  have hv : v < alphabet.length := hv
  simp [character, hv]

/-- A character has no other value than the one it stands at. -/
theorem of_value?_eq_some {c : CodePoint} {v : ℕ} (h : value? c = some v) :
    v < 58 ∧ character v = c := by
  obtain ⟨hv, hc, -⟩ := List.idxOf?_eq_some_iff.mp h
  exact ⟨hv, by simp [character, hv, hc]⟩

theorem values_map_character {vs : List ℕ} (hvs : ∀ v ∈ vs, v < 58) :
    values (vs.map character) = .ok vs := by
  induction vs with
  | nil => rfl
  | cons v vs ih =>
    rw [List.forall_mem_cons] at hvs
    rw [List.map_cons, values, value?_character v hvs.1, ih hvs.2]
    rfl

/-- The values of a text spell it. -/
theorem of_values_eq_ok {t : Text} {vs : List ℕ} (h : values t = .ok vs) :
    (∀ v ∈ vs, v < 58) ∧ vs.map character = t := by
  induction t generalizing vs with
  | nil =>
    cases h
    simp
  | cons c t ih =>
    rw [values] at h
    cases hc : value? c with
    | none =>
      rw [hc] at h
      cases h
    | some v =>
      rw [hc] at h
      obtain ⟨ws, ht, rfl⟩ := except_map_eq_ok.mp h
      obtain ⟨hv, rfl⟩ := of_value?_eq_some hc
      obtain ⟨hws, rfl⟩ := ih ht
      exact ⟨List.forall_mem_cons.mpr ⟨hv, hws⟩, rfl⟩

/-- The character that is refused is the first one outside the alphabet. -/
theorem of_values_eq_error {t : Text} {c : CodePoint} (h : values t = .error c) :
    ∃ before after, t = before ++ c :: after ∧ (∀ d ∈ before, d ∈ alphabet) ∧ c ∉ alphabet := by
  induction t with
  | nil => cases h
  | cons d t ih =>
    rw [values] at h
    cases hd : value? d with
    | none =>
      rw [hd] at h
      cases h
      exact ⟨[], t, rfl, by simp, List.idxOf?_eq_none_iff.mp hd⟩
    | some v =>
      rw [hd] at h
      obtain ⟨before, after, rfl, hbefore, hc⟩ := ih (except_map_eq_error.mp h)
      obtain ⟨hv, rfl⟩ := of_value?_eq_some hd
      exact ⟨character v :: before, after, rfl,
        List.forall_mem_cons.mpr ⟨character_mem hv, hbefore⟩, hc⟩

/-! ## 2. Bytes and text -/

/-- The bytes of a byte string, as digits. -/
def bytesOf (bs : Bytes) : List ℕ := bs.map UInt8.toNat

theorem lt_of_mem_bytesOf {bs : Bytes} : ∀ d ∈ bytesOf bs, d < 256 := by
  intro d hd
  obtain ⟨b, -, rfl⟩ := List.mem_map.mp hd
  exact b.toNat_lt

@[simp] theorem map_ofNat_bytesOf (bs : Bytes) : (bytesOf bs).map UInt8.ofNat = bs := by
  rw [bytesOf, List.map_map]
  exact (List.map_congr_left fun b _ => UInt8.ofNat_toNat).trans bs.map_id

theorem bytesOf_map_ofNat {ds : List ℕ} (hds : ∀ d ∈ ds, d < 256) :
    bytesOf (ds.map UInt8.ofNat) = ds := by
  rw [bytesOf, List.map_map]
  exact (List.map_congr_left fun d hd => UInt8.toNat_ofNat_of_lt (hds d hd)).trans ds.map_id

/-- The text of a byte string is the same digit string in base 58. -/
theorem encode_eq (bs : Bytes) : encode bs = (rebase 256 58 (bytesOf bs)).map character := by
  have hrun : zeroRun (bytesOf bs) = (bs.takeWhile (· == 0)).length := by
    have hzero : (fun d : ℕ => d == 0) ∘ UInt8.toNat = fun b : UInt8 => b == 0 := by
      funext b
      rw [Bool.eq_iff_iff]
      simp [← UInt8.toNat_inj]
    rw [zeroRun, bytesOf, List.takeWhile_map, List.length_map, hzero]
  rw [encode, rebase, hrun, List.map_append, List.map_replicate, character_zero, Bytes.toNat,
    bytesOf, ← List.map_reverse]

/-- The bytes of a text are the digit string of its values in base 256. -/
theorem decode_eq (t : Text) :
    decode t = (values t).map fun vs => (rebase 58 256 vs).map UInt8.ofNat := by
  cases h : values t with
  | error c => simp [decode, h, bind, Except.bind, Except.map]
  | ok vs =>
    simp [decode, h, bind, Except.bind, Except.map, pure, Except.pure, rebase, Bytes.zeros,
      Bytes.ofNat, zeroRun]

theorem decode_encode (bs : Bytes) : decode (encode bs) = .ok bs := by
  rw [decode_eq, encode_eq, values_map_character (rebase_lt (by norm_num) _), Except.map,
    rebase_rebase (by norm_num) (by norm_num) lt_of_mem_bytesOf, map_ofNat_bytesOf]

/-- **A text is decoded to the bytes that are encoded to it, and to no others.** -/
theorem decode_eq_ok_iff {t : Text} {bs : Bytes} : decode t = .ok bs ↔ encode bs = t := by
  constructor
  · intro h
    rw [decode_eq] at h
    obtain ⟨vs, hvs, rfl⟩ := except_map_eq_ok.mp h
    obtain ⟨hlt, rfl⟩ := of_values_eq_ok hvs
    rw [encode_eq, bytesOf_map_ofNat (rebase_lt (by norm_num) vs),
      rebase_rebase (by norm_num) (by norm_num) hlt]
  · rintro rfl
    exact decode_encode bs

theorem encode_injective : Function.Injective encode := fun bs _ h =>
  Except.ok.inj ((decode_encode bs).symm.trans (decode_eq_ok_iff.mpr h.symm))

theorem mem_alphabet_of_mem_encode {bs : Bytes} : ∀ c ∈ encode bs, c ∈ alphabet := by
  intro c hc
  rw [encode_eq] at hc
  obtain ⟨v, hv, rfl⟩ := List.mem_map.mp hc
  exact character_mem (rebase_lt (by norm_num) _ v hv)

/-- A text is refused for its first character outside the alphabet. -/
theorem of_decode_eq_error {t : Text} {c : CodePoint} (h : decode t = .error c) :
    ∃ before after, t = before ++ c :: after ∧ (∀ d ∈ before, d ∈ alphabet) ∧ c ∉ alphabet := by
  rw [decode_eq] at h
  exact of_values_eq_error (except_map_eq_error.mp h)

end Base58
end LedgerKeys
