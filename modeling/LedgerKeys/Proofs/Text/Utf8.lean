/-
# UTF-8 that is read as it was written

The bytes of a text, surrogates included, are read back to that text (`decode_encodeAll`). The
proof goes by the width of a code point: the reader finds the width in the lead byte, and the bits
that were divided among the bytes are put together again.

A document in UTF-8 is also told from one in another encoding: its bytes hold no zero if its text
holds none, and no byte that begins a wide mark (`detectAndDecode_encodeAll`).
-/
import LedgerKeys.Text.Encoding
import LedgerKeys.Proofs.Outcome
import Mathlib.Tactic.SplitIfs

namespace LedgerKeys
namespace Utf8

/-! ## 1. Bytes -/

/-- The bound is spelled out, as arithmetic does not look into the size of a byte. -/
theorem toNat_ofNat_of_lt {n : Nat} (h : n < 256) : (UInt8.ofNat n).toNat = n :=
  UInt8.toNat_ofNat_of_lt' h

/-- A byte that carries six bits of a code point. -/
theorem continuation_spec (k : Nat) :
    isContinuation (UInt8.ofNat (0x80 + k % 0x40)) = true ∧
      payload (UInt8.ofNat (0x80 + k % 0x40)) = k % 0x40 := by
  have hval : (UInt8.ofNat (0x80 + k % 0x40)).toNat = 0x80 + k % 0x40 :=
    toNat_ofNat_of_lt (by omega)
  simp only [isContinuation, payload, UInt8.le_iff_toNat_le, hval, Bool.and_eq_true,
    decide_eq_true_eq]
  refine ⟨⟨?_, ?_⟩, ?_⟩
  · exact Nat.le_add_right _ _
  · change 0x80 + k % 0x40 ≤ 0xBF
    omega
  · omega

theorem continuations?_of_two : ∀ k < 0x20, 2 ≤ k →
    continuations? (UInt8.ofNat (0xC0 + k)) = some 1 := by decide

theorem continuations?_of_three : ∀ k < 0x10,
    continuations? (UInt8.ofNat (0xE0 + k)) = some 2 := by decide

theorem continuations?_of_four : ∀ k < 5,
    continuations? (UInt8.ofNat (0xF0 + k)) = some 3 := by decide

/-- A lead byte is none of a single one. -/
theorem not_lt_of_lead {n : Nat} (hlow : 0x80 ≤ n) (hhigh : n < 0x100) :
    ¬ UInt8.ofNat n < 0x80 := by
  rw [UInt8.lt_iff_toNat_lt, toNat_ofNat_of_lt hhigh]
  exact Nat.not_lt.mpr hlow

/-- Which second bytes may follow, by their six bits: behind two of the lead bytes the spelling
would be longer than needed, behind one too large. -/
theorem mayFollow_of {lead k : Nat} (hlead : lead < 0x100) (hthree : lead = 0xE0 → 0x20 ≤ k % 0x40)
    (hfour : lead = 0xF0 → 0x10 ≤ k % 0x40) (hlast : lead = 0xF4 → k % 0x40 < 0x10) :
    mayFollow (UInt8.ofNat lead) (UInt8.ofNat (0x80 + k % 0x40)) = true := by
  have hval : (UInt8.ofNat (0x80 + k % 0x40)).toNat = 0x80 + k % 0x40 :=
    toNat_ofNat_of_lt (by omega)
  have heq : ∀ b : UInt8, UInt8.ofNat lead = b → lead = b.toNat := by
    rintro b rfl
    exact (toNat_ofNat_of_lt hlead).symm
  simp only [mayFollow, (continuation_spec k).1, Bool.true_and, Bool.and_eq_true,
    Bool.not_eq_true', Bool.and_eq_false_iff, beq_eq_false_iff_ne, decide_eq_false_iff_not,
    UInt8.lt_iff_toNat_lt, UInt8.le_iff_toNat_le, hval, Nat.not_lt, Nat.not_le]
  refine ⟨⟨?_, ?_⟩, ?_⟩
  · by_cases h : UInt8.ofNat lead = 0xE0
    · exact .inr (Nat.add_le_add_left (hthree (heq _ h)) 0x80)
    · exact .inl h
  · by_cases h : UInt8.ofNat lead = 0xF0
    · exact .inr (Nat.add_le_add_left (hfour (heq _ h)) 0x80)
    · exact .inl h
  · by_cases h : UInt8.ofNat lead = 0xF4
    · exact .inr (Nat.add_lt_add_left (hlast (heq _ h)) 0x80)
    · exact .inl h

/-! ## 2. Code points -/

section DecodeFrom

variable {a b c d : UInt8} {rest : Bytes} {pos : Nat}

theorem decodeFrom_one (ha : a < 0x80) :
    decodeFrom pos (a :: rest) = (CodePoint.ofByte a :: ·) <$> decodeFrom (pos + 1) rest := by
  rw [decodeFrom.eq_def]
  exact if_pos ha

theorem decodeFrom_two (ha : ¬ a < 0x80) (hmore : continuations? a = some 1)
    (hb : mayFollow a b = true) :
    decodeFrom pos (a :: b :: rest) =
      (point (a.toNat % 0x20 * 0x40 + payload b) :: ·) <$> decodeFrom (pos + 2) rest := by
  rw [decodeFrom.eq_def]
  simp [ha, hmore, hb]

theorem decodeFrom_three (ha : ¬ a < 0x80) (hmore : continuations? a = some 2)
    (hb : mayFollow a b = true) (hc : isContinuation c = true) :
    decodeFrom pos (a :: b :: c :: rest) =
      (point (a.toNat % 0x10 * 0x1000 + payload b * 0x40 + payload c) :: ·) <$>
        decodeFrom (pos + 3) rest := by
  rw [decodeFrom.eq_def]
  simp [ha, hmore, hb, hc]

theorem decodeFrom_four (ha : ¬ a < 0x80) (hmore : continuations? a = some 3)
    (hb : mayFollow a b = true) (hc : isContinuation c = true) (hd : isContinuation d = true) :
    decodeFrom pos (a :: b :: c :: d :: rest) =
      (point (a.toNat % 0x08 * 0x40000 + payload b * 0x1000 + payload c * 0x40 + payload d) :: ·)
        <$> decodeFrom (pos + 4) rest := by
  rw [decodeFrom.eq_def]
  simp [ha, hmore, hb, hc, hd]

end DecodeFrom

theorem point_val (c : CodePoint) {n : Nat} (h : n = c.val) : point n = c := by
  rw [h]
  exact Fin.ofNat_val_eq_self c

/-- **A code point is read from its bytes**, and the rest from behind them. -/
theorem decodeFrom_encodePoint (c : CodePoint) (rest : Bytes) (pos : Nat) :
    ∃ pos', decodeFrom pos (encodePoint c ++ rest) = (c :: ·) <$> decodeFrom pos' rest := by
  have hlt := c.isLt
  unfold encodePoint
  dsimp only
  split_ifs with h1 h2 h3
  · have hval := toNat_ofNat_of_lt (Nat.lt_trans h1 (by decide : 0x80 < 256))
    have hbyte : UInt8.ofNat c.val < 0x80 := by
      rw [UInt8.lt_iff_toNat_lt, hval]
      exact h1
    have hpoint : CodePoint.ofByte (UInt8.ofNat c.val) = c := Fin.ext hval
    refine ⟨pos + 1, ?_⟩
    rw [List.cons_append, List.nil_append, decodeFrom_one hbyte, hpoint]
  · refine ⟨pos + 2, ?_⟩
    rw [List.cons_append, List.cons_append, List.nil_append,
      decodeFrom_two (not_lt_of_lead (by omega) (by omega))
        (continuations?_of_two _ (by omega) (by omega)) (mayFollow_of (by omega) (by omega)
          (by omega) (by omega)),
      point_val c]
    rw [(continuation_spec _).2, toNat_ofNat_of_lt (by omega)]
    omega
  · refine ⟨pos + 3, ?_⟩
    rw [List.cons_append, List.cons_append, List.cons_append, List.nil_append,
      decodeFrom_three (not_lt_of_lead (by omega) (by omega))
        (continuations?_of_three _ (by omega)) (mayFollow_of (by omega) (by omega)
          (by omega) (by omega)) (continuation_spec _).1,
      point_val c]
    rw [(continuation_spec _).2, (continuation_spec _).2, toNat_ofNat_of_lt (by omega)]
    omega
  · refine ⟨pos + 4, ?_⟩
    rw [List.cons_append, List.cons_append, List.cons_append, List.cons_append, List.nil_append,
      decodeFrom_four (not_lt_of_lead (by omega) (by omega))
        (continuations?_of_four _ (by omega)) (mayFollow_of (by omega) (by omega)
          (by omega) (by omega)) (continuation_spec _).1 (continuation_spec _).1,
      point_val c]
    rw [(continuation_spec _).2, (continuation_spec _).2, (continuation_spec _).2,
      toNat_ofNat_of_lt (by omega)]
    omega

theorem decodeFrom_encodeAll (t : Text) (pos : Nat) : decodeFrom pos (encodeAll t) = .ok t := by
  induction t generalizing pos with
  | nil => rfl
  | cons c t ih =>
    obtain ⟨pos', hc⟩ := decodeFrom_encodePoint c (encodeAll t) pos
    rw [encodeAll, List.flatMap_cons, ← encodeAll, hc, ih]
    rfl

/-- **A text is read from its bytes.** -/
theorem decode_encodeAll (t : Text) : decode (encodeAll t) = .ok t := decodeFrom_encodeAll t 0

/-! ## 3. Documents -/

theorem ofNat_ne_zero {n : Nat} (hpos : 0 < n) (hlt : n < 256) : UInt8.ofNat n ≠ 0 := by
  intro h
  have hval := toNat_ofNat_of_lt hlt
  rw [h] at hval
  exact Nat.ne_of_lt hpos hval

/-- Only the code point zero is spelled with a zero byte. -/
theorem zero_not_mem_encodePoint {c : CodePoint} (hc : c ≠ 0) : 0 ∉ encodePoint c := by
  have hlt := c.isLt
  have hpos : 0 < c.val := Nat.pos_of_ne_zero fun h => hc (Fin.ext h)
  unfold encodePoint
  dsimp only
  split_ifs with h1 h2 h3
  all_goals simp only [List.mem_cons, List.not_mem_nil, or_false, not_or]
  · exact (ofNat_ne_zero hpos (by omega)).symm
  · exact ⟨(ofNat_ne_zero (by omega) (by omega)).symm, (ofNat_ne_zero (by omega) (by omega)).symm⟩
  · exact ⟨(ofNat_ne_zero (by omega) (by omega)).symm, (ofNat_ne_zero (by omega) (by omega)).symm,
      (ofNat_ne_zero (by omega) (by omega)).symm⟩
  · exact ⟨(ofNat_ne_zero (by omega) (by omega)).symm, (ofNat_ne_zero (by omega) (by omega)).symm,
      (ofNat_ne_zero (by omega) (by omega)).symm, (ofNat_ne_zero (by omega) (by omega)).symm⟩

theorem zero_not_mem_encodeAll {t : Text} (ht : 0 ∉ t) : 0 ∉ encodeAll t := by
  intro h
  obtain ⟨c, hc, hzero⟩ := List.mem_flatMap.mp h
  exact zero_not_mem_encodePoint (fun heq => ht (heq ▸ hc)) hzero

end Utf8

namespace Encoding

/-- No bytes of a text begin with a mark unless the text does. -/
theorem ofMark?_encodeAll {t : Text} (hzero : 0 ∉ t) (hmark : t.head? ≠ some byteOrderMark) :
    ofMark? (Utf8.encodeAll t) = none := by
  have hread := Utf8.decode_encodeAll t
  have hbytes := Utf8.zero_not_mem_encodeAll hzero
  rw [ofMark?, List.find?_eq_none]
  intro e _
  rw [List.isPrefixOf_iff_prefix]
  rintro ⟨rest, hrest⟩
  rw [← hrest] at hread hbytes
  cases e with
  | utf8 =>
    -- The bytes of the mark are those of its code point, which then begins the text.
    rw [Utf8.decode, mark, List.cons_append, List.cons_append, List.cons_append, List.nil_append,
      Utf8.decodeFrom_three (by decide) (by decide) (by decide) (by decide)] at hread
    obtain ⟨tail, -, rfl⟩ := except_map_eq_ok.mp hread
    exact hmark rfl
  | utf16 order => cases order <;> cases hread
  | utf32 order =>
    cases order with
    | big => simp [mark] at hbytes
    | little => cases hread

theorem ofZeros_of_zero_not_mem {bs : Bytes} (h : 0 ∉ bs) : ofZeros bs = utf8 := by
  unfold ofZeros
  split <;> simp_all

/-- **A document in UTF-8 is read as it was written**, if its text has no zero in it and begins
with no mark. -/
theorem detectAndDecode_encodeAll {t : Text} (hzero : 0 ∉ t)
    (hmark : t.head? ≠ some byteOrderMark) : detectAndDecode (Utf8.encodeAll t) = .ok t := by
  rw [detectAndDecode, ofMark?_encodeAll hzero hmark]
  dsimp only
  rw [ofZeros_of_zero_not_mem (Utf8.zero_not_mem_encodeAll hzero)]
  exact Utf8.decode_encodeAll t

end Encoding
end LedgerKeys
