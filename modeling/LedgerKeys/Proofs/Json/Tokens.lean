/-
# Tokens that are read as they were written

The readers of numbers and strings meet a text with more behind it. A number is read up to the
first character that cannot go on with it, and behind a value in a written document there is nothing
but a comma, a closing bracket or the end (`EndsValue`). A string ends at its own closing quote,
and escapes in it are read in two steps: the writer spells a large code point by two escapes, the
reader collects pieces (`Spells`) and joins them. Only a text in which a low surrogate follows a
high one would be joined to something else (`Unpaired`).
-/
import LedgerKeys.Json.Parser
import LedgerKeys.Json.Printer
import LedgerKeys.Proofs.Outcome
import Mathlib.Data.List.Chain

namespace LedgerKeys
namespace Json

/-! ## 1. What comes behind -/

/-- What stands behind a value in a written document, if anything does. -/
def EndsValue (rest : Text) : Prop := ∀ c ∈ rest.head?, c = 0x2C ∨ c = 0x5D ∨ c = 0x7D

theorem endsValue_nil : EndsValue [] := by simp [EndsValue]

theorem ne_of_isDigit {c d : CodePoint} (hc : isDigit c = true) (hd : isDigit d = false) :
    c ≠ d := by
  rintro rfl
  rw [hc] at hd
  cases hd

/-- A reader takes a text for a value, whatever ends the value behind it. -/
def Reads (reader : Reader) (t : Text) (v : Json) : Prop :=
  ∀ rest offset, EndsValue rest →
    ∃ offset', reader ⟨t ++ rest, offset⟩ = .ok (v, ⟨rest, offset'⟩)

/-! ## 2. Runs of characters -/

theorem Cursor.span_append {p : CodePoint → Bool} {run rest : Text} {offset : Nat}
    (hrun : ∀ c ∈ run, p c = true) (hrest : ∀ c ∈ rest.head?, p c = false) :
    Cursor.span p ⟨run ++ rest, offset⟩ = (run, ⟨rest, offset + run.length⟩) := by
  have htake : rest.takeWhile p = [] := by
    cases rest with
    | nil => rfl
    | cons c rest => simp [hrest c rfl]
  have hdrop : rest.dropWhile p = rest := by
    cases rest with
    | nil => rfl
    | cons c rest => simp [hrest c rfl]
  simp only [Cursor.span, List.takeWhile_append_of_pos hrun, List.dropWhile_append_of_pos hrun,
    htake, hdrop, List.append_nil]

theorem Cursor.skipBlanks_cons {c d : CodePoint} {rest : Text} {offset : Nat}
    (hc : isBlank c = true) (hd : isBlank d = false) :
    Cursor.skipBlanks ⟨c :: d :: rest, offset⟩ = ⟨d :: rest, offset + 1⟩ := by
  simp [Cursor.skipBlanks, Cursor.span, hc, hd]

/-- There is nothing to skip in front of what is no blank. -/
theorem Cursor.skipBlanks_of_head {c : CodePoint} {rest : Text} {offset : Nat}
    (h : isBlank c = false) : Cursor.skipBlanks ⟨c :: rest, offset⟩ = ⟨c :: rest, offset⟩ := by
  simp [Cursor.skipBlanks, Cursor.span, h]

/-! ## 3. Decimal numbers -/

theorem isDigit_ofChar {c : Char} (h : c.isDigit = true) :
    isDigit (CodePoint.ofChar c) = true ∧
      (CodePoint.ofChar c).digitValue?.getD 0 = c.toNat - 48 := by
  rw [Char.isDigit_iff_toNat] at h
  have hval : (CodePoint.ofChar c).val = c.toNat := rfl
  have hrange : 0x30 ≤ c.toNat ∧ c.toNat ≤ 0x39 := h
  simp [isDigit, CodePoint.digitValue?, hval, hrange]

theorem isDigit_of_mem_ofNat {n : Nat} : ∀ c ∈ Text.ofNat n, isDigit c = true := by
  intro c hc
  obtain ⟨d, hd, rfl⟩ := List.mem_map.mp hc
  exact (isDigit_ofChar (Nat.isDigit_of_mem_toDigits (by decide) (by decide) hd)).1

theorem ofNat_ne_nil (n : Nat) : Text.ofNat n ≠ [] := by
  simp [Text.ofNat, Text.ofChars, Nat.toDigits_ne_nil]

/-- The digits of a number stand for it. -/
theorem numberOf_ofNat (n : Nat) : numberOf (Text.ofNat n) = n := by
  have hfold : numberOf (Text.ofNat n) = Nat.ofDigitChars 10 (Nat.toDigits 10 n) 0 := by
    rw [numberOf, Text.ofNat, Text.ofChars, List.foldl_map, Nat.ofDigitChars_eq_foldl]
    refine List.foldl_ext _ _ _ fun m c hc => ?_
    have hdigit := Nat.isDigit_of_mem_toDigits (by decide) (by decide) hc
    rw [(isDigit_ofChar hdigit).2, Nat.mul_comm]
    rfl
  rw [hfold, Nat.ofDigitChars_ten_toDigits]

/-- The digits of a number begin with a zero only if there is no other. -/
theorem head?_toDigits_eq_zero {n : Nat} (h : (Nat.toDigits 10 n).head? = some '0') : n = 0 := by
  induction n using Nat.strongRecOn with
  | ind n ih =>
    rcases Nat.lt_or_ge n 10 with hlt | hge
    · simpa [Nat.toDigits_of_lt_base hlt] using h
    · rw [Nat.toDigits_of_base_le (by decide) hge,
        List.head?_append_of_ne_nil _ Nat.toDigits_ne_nil] at h
      have hzero := ih (n / 10) (by omega) h
      omega

/-- The digits of a whole number: a zero alone, or any that do not begin with zero. -/
structure Whole (digits : Text) : Prop where
  isDigit : ∀ c ∈ digits, Json.isDigit c = true
  ne_nil : digits ≠ []
  zero_alone : digits.head? = some 0x30 → digits = [0x30]

theorem whole_ofNat (n : Nat) : Whole (Text.ofNat n) where
  isDigit := isDigit_of_mem_ofNat
  ne_nil := ofNat_ne_nil n
  zero_alone := by
    intro hhead
    obtain ⟨c, digits, hn⟩ := List.exists_cons_of_ne_nil (Nat.toDigits_ne_nil (b := 10) (n := n))
    have hc : CodePoint.ofChar c = 0x30 := by
      simpa [Text.ofNat, Text.ofChars, hn] using hhead
    have hval : (CodePoint.ofChar c).val = (0x30 : CodePoint).val := by rw [hc]
    have hzero : c = '0' := Char.toNat_inj.mp hval
    obtain rfl : n = 0 := head?_toDigits_eq_zero (by rw [hn, hzero]; rfl)
    rfl

/-- Nothing behind a number goes on with it. -/
def EndsNumber (rest : Text) : Prop :=
  ∀ c ∈ rest.head?, isDigit c = false ∧ c ≠ 0x2E ∧ c ≠ 0x65 ∧ c ≠ 0x45

theorem EndsValue.endsNumber {rest : Text} (h : EndsValue rest) : EndsNumber rest := by
  intro c hc
  rcases h c hc with rfl | rfl | rfl <;> decide

section ReadNumber

variable {digits rest : Text}

theorem Whole.exists_cons (h : Whole digits) :
    ∃ c tail, digits = c :: tail ∧ Json.isDigit c = true := by
  obtain ⟨c, tail, rfl⟩ := List.exists_cons_of_ne_nil h.ne_nil
  exact ⟨c, tail, rfl, h.isDigit c List.mem_cons_self⟩

theorem Whole.readWhole (h : Whole digits) (hrest : EndsNumber rest) (offset : Nat) :
    readWhole ⟨digits ++ rest, offset⟩ = (digits, ⟨rest, offset + digits.length⟩) := by
  rw [Json.readWhole]
  split
  · next tail htext =>
    -- A leading zero is taken alone, and then it is all there is.
    obtain ⟨c, more, hdigits, -⟩ := h.exists_cons
    have hzero : digits.head? = some 0x30 := by
      rw [hdigits]
      rw [hdigits] at htext
      exact congrArg some (List.cons.inj htext).1
    rw [h.zero_alone hzero] at htext ⊢
    cases htext
    rfl
  · exact Cursor.span_append h.isDigit fun c hc => (hrest c hc).1

theorem EndsNumber.readFraction (hrest : EndsNumber rest) (offset : Nat) :
    readFraction ⟨rest, offset⟩ = ([], ⟨rest, offset⟩) := by
  unfold Json.readFraction
  split
  · next tail h =>
    subst h
    exact absurd rfl (hrest _ rfl).2.1
  · rfl

theorem EndsNumber.readExponent (hrest : EndsNumber rest) (offset : Nat) :
    readExponent ⟨rest, offset⟩ = (none, ⟨rest, offset⟩) := by
  unfold Json.readExponent
  cases rest with
  | nil => rfl
  | cons c rest =>
    obtain ⟨-, -, hlower, hupper⟩ := hrest c rfl
    simp [hlower, hupper]

/-- Digits without a sign are read as their number, or they are too many. -/
theorem Whole.readNumber (h : Whole digits) (hrest : EndsNumber rest) (offset : Nat) :
    readNumber ⟨digits ++ rest, offset⟩ =
      if digitLimit < digits.length then .error (.tooManyDigits digits.length)
      else .ok (int (numberOf digits), ⟨rest, offset + digits.length⟩) := by
  have hsign : ((digits ++ rest).head? == some 0x2D) = false := by
    obtain ⟨c, tail, hdigits, hc⟩ := h.exists_cons
    rw [hdigits, List.cons_append, List.head?_cons, beq_eq_false_iff_ne]
    rintro ⟨⟩
    cases hc
  simp only [Json.readNumber, hsign, Bool.false_eq_true, if_false, h.readWhole hrest,
    hrest.readFraction, hrest.readExponent, List.isEmpty_eq_false_iff.mpr h.ne_nil,
    List.isEmpty_nil, Option.isNone_none, and_self, if_true]

/-- Behind a sign they are read as the number that is as far below zero. -/
theorem Whole.readNumber_minus (h : Whole digits) (hrest : EndsNumber rest) (offset : Nat) :
    Json.readNumber ⟨0x2D :: (digits ++ rest), offset⟩ =
      if digitLimit < digits.length then .error (.tooManyDigits digits.length)
      else .ok (int (-numberOf digits), ⟨rest, offset + 1 + digits.length⟩) := by
  have hadvance : Cursor.advance 1 ⟨0x2D :: (digits ++ rest), offset⟩ =
      ⟨digits ++ rest, offset + 1⟩ := rfl
  simp only [Json.readNumber, List.head?_cons, beq_self_eq_true, if_true, hadvance,
    h.readWhole hrest, hrest.readFraction, hrest.readExponent,
    List.isEmpty_eq_false_iff.mpr h.ne_nil, List.isEmpty_nil, Option.isNone_none, and_self,
    Bool.false_eq_true, if_false]

/-- The text of an integer: the digits of a whole number, no more of them than are read, and
perhaps a sign in front. -/
inductive IntLiteral : Text → Int → Prop where
  | plain {digits : Text} (h : Whole digits) (hshort : digits.length ≤ digitLimit) :
      IntLiteral digits (numberOf digits)
  | minus {digits : Text} (h : Whole digits) (hshort : digits.length ≤ digitLimit) :
      IntLiteral (0x2D :: digits) (-numberOf digits)

theorem intLiteral_ofInt {n : Int} (h : (Text.ofNat n.natAbs).length ≤ digitLimit) :
    IntLiteral (Text.ofInt n) n := by
  cases n with
  | ofNat n =>
    have hliteral := IntLiteral.plain (whole_ofNat n) h
    rwa [numberOf_ofNat] at hliteral
  | negSucc n =>
    have hliteral := IntLiteral.minus (whole_ofNat (n + 1)) h
    rwa [numberOf_ofNat] at hliteral

/-- An integer begins with a digit, or with a sign and a digit. -/
theorem IntLiteral.begins {lit : Text} {n : Int} (h : IntLiteral lit n) :
    ∃ c tail, Json.isDigit c = true ∧ (lit = c :: tail ∨ lit = 0x2D :: c :: tail) := by
  cases h with
  | plain h hshort =>
    obtain ⟨c, tail, rfl, hc⟩ := h.exists_cons
    exact ⟨c, tail, hc, .inl rfl⟩
  | minus h hshort =>
    obtain ⟨c, tail, rfl, hc⟩ := h.exists_cons
    exact ⟨c, tail, hc, .inr rfl⟩

theorem IntLiteral.readNumber {lit : Text} {n : Int} (h : IntLiteral lit n)
    (hrest : EndsNumber rest) (offset : Nat) :
    ∃ offset', readNumber ⟨lit ++ rest, offset⟩ = .ok (int n, ⟨rest, offset'⟩) := by
  cases h with
  | plain h hshort =>
    rw [h.readNumber hrest, if_neg (Nat.not_lt.mpr hshort)]
    exact ⟨_, rfl⟩
  | minus h hshort =>
    rw [List.cons_append, h.readNumber_minus hrest, if_neg (Nat.not_lt.mpr hshort)]
    exact ⟨_, rfl⟩

end ReadNumber

/-! ## 4. Strings -/

/-- No low surrogate follows a high one, so that joining escapes makes nothing new. -/
def Unpaired (t : Text) : Prop :=
  t.IsChain fun c d => ¬ (c.isHighSurrogate = true ∧ d.isLowSurrogate = true)

theorem unpaired_of_isHighSurrogate {t : Text} (h : ∀ c ∈ t, c.isHighSurrogate = false) :
    Unpaired t := by
  refine List.Pairwise.isChain (List.pairwise_of_forall_mem_list fun c hc d _ => ?_)
  rw [h c hc]
  simp

/-- The surrogates that stand for a large code point. -/
def highHalf (c : CodePoint) : CodePoint := Fin.ofNat _ (0xD800 + (c.val - 0x10000) / 0x400)

@[inherit_doc highHalf]
def lowHalf (c : CodePoint) : CodePoint := Fin.ofNat _ (0xDC00 + (c.val - 0x10000) % 0x400)

/-- The pieces that stand for a text: one for each code point that fits a unit, and two escaped
surrogates for each that does not. -/
inductive Spells : List Piece → Text → Prop where
  | nil : Spells [] []
  | unit {c : CodePoint} (escaped : Bool) {ps : List Piece} {t : Text} (hc : c.val < 0x10000)
      (h : Spells ps t) : Spells (⟨c, escaped⟩ :: ps) (c :: t)
  | pair {c : CodePoint} {ps : List Piece} {t : Text} (hc : 0x10000 ≤ c.val) (h : Spells ps t) :
      Spells (⟨highHalf c, true⟩ :: ⟨lowHalf c, true⟩ :: ps) (c :: t)

theorem val_halves (c : CodePoint) :
    (highHalf c).val = 0xD800 + (c.val - 0x10000) / 0x400 ∧
      (lowHalf c).val = 0xDC00 + (c.val - 0x10000) % 0x400 := by
  have hlt := c.isLt
  exact ⟨Nat.mod_eq_of_lt (by omega), Nat.mod_eq_of_lt (by omega)⟩

theorem halves_of_large {c : CodePoint} (hc : 0x10000 ≤ c.val) :
    (highHalf c).isHighSurrogate = true ∧ (lowHalf c).isLowSurrogate = true ∧
      (highHalf c).isLowSurrogate = false ∧
      CodePoint.joinSurrogates (highHalf c) (lowHalf c) = c := by
  have hlt := c.isLt
  obtain ⟨hhigh, hlow⟩ := val_halves c
  simp only [CodePoint.isHighSurrogate, CodePoint.isLowSurrogate, hhigh, hlow, Bool.and_eq_true,
    decide_eq_true_eq, Bool.and_eq_false_iff, decide_eq_false_iff_not, CodePoint.joinSurrogates,
    Fin.ext_iff]
  omega

/-- The pieces of a text without pairs are joined to that text. -/
theorem joinEscapes_of_spells {ps : List Piece} {t : Text} (h : Spells ps t) (ht : Unpaired t) :
    joinEscapes ps = t := by
  induction h with
  | nil => rfl
  | @unit c escaped ps t hc h ih =>
    have htail : joinEscapes ps = t := ih ht.tail
    cases h with
    | nil => rfl
    | @unit d escaped' ps t hd h =>
      have hpair : ¬ (c.isHighSurrogate = true ∧ d.isLowSurrogate = true) :=
        (List.isChain_cons_cons.mp ht).1
      rw [joinEscapes, if_neg fun hall => hpair ⟨hall.2.1, hall.2.2.2⟩, htail]
    | @pair d ps t hd h =>
      have hlow : (highHalf d).isLowSurrogate = false := (halves_of_large hd).2.2.1
      rw [joinEscapes, if_neg fun hall => by simp [hlow] at hall, htail]
  | @pair c ps t hc h ih =>
    obtain ⟨hhigh, hlow, -, hjoin⟩ := halves_of_large hc
    rw [joinEscapes, if_pos ⟨rfl, hhigh, rfl, hlow⟩, hjoin, ih ht.tail]

theorem hexValue?_digitChar :
    ∀ d < 16, (CodePoint.ofChar (Nat.digitChar d)).hexValue? = some d := by decide

/-- The escape of a unit is its four digits behind a backslash and a letter. -/
theorem exists_unitEscape_eq {u : Nat} (hu : u < 0x10000) :
    ∃ a b c d, unitEscape u = [0x5C, 0x75, a, b, c, d] ∧
      hexPoint? a b c d = some (Fin.ofNat 0x110000 u) := by
  refine ⟨_, _, _, _, rfl, ?_⟩
  simp only [hexPoint?, hexValue?_digitChar _ (Nat.mod_lt _ (by decide : 0 < 16))]
  exact congrArg (fun n => some (Fin.ofNat 0x110000 n)) (by omega)

section ReadString

variable {c : CodePoint} {rest : Text} (start offset : Nat)

theorem readString_quote :
    readString start offset (0x22 :: rest) = .ok ([], ⟨rest, offset + 1⟩) := by
  rw [readString.eq_def]
  exact if_pos rfl

theorem readString_plain (hquote : c ≠ 0x22) (hcontrol : ¬ c.val < 0x20) (hslash : c ≠ 0x5C) :
    readString start offset (c :: rest) =
      prepend ⟨c, false⟩ <$> readString start (offset + 1) rest := by
  rw [readString.eq_def]
  simp only [hquote, hcontrol, ne_eq, hslash, not_false_eq_true, if_false, if_true]

/-- A backslash is neither a quote nor a control character. -/
theorem not_quote_not_control : (0x5C : CodePoint) ≠ 0x22 ∧ ¬ (0x5C : CodePoint).val < 0x20 := by
  decide

theorem readString_shortEscape {e : CodePoint} (h : shortEscape? e = some c) (he : e ≠ 0x75) :
    readString start offset (0x5C :: e :: rest) =
      prepend ⟨c, false⟩ <$> readString start (offset + 2) rest := by
  rw [readString.eq_def]
  simp only [not_quote_not_control, ne_eq, not_true_eq_false, if_false, he, h]

/-- The escape of a unit is read if there is something behind it, be it only the closing quote. -/
theorem readString_unitEscape {u : Nat} (hu : u < 0x10000) (hrest : rest ≠ []) :
    readString start offset (unitEscape u ++ rest) =
      prepend ⟨Fin.ofNat 0x110000 u, true⟩ <$> readString start (offset + 6) rest := by
  obtain ⟨a, b, c, d, hescape, hpoint⟩ := exists_unitEscape_eq hu
  obtain ⟨next, rest, rfl⟩ := List.exists_cons_of_ne_nil hrest
  rw [hescape, readString.eq_def]
  simp only [List.cons_append, List.nil_append, not_quote_not_control, ne_eq, not_true_eq_false,
    if_false, if_true, hpoint]

/-- A code point of one unit is read as one piece. -/
theorem readString_escapePoint_unit (hc : c.val < 0x10000) (hrest : rest ≠ []) :
    ∃ escaped offset', readString start offset (escapePoint c ++ rest) =
      prepend ⟨c, escaped⟩ <$> readString start offset' rest := by
  unfold escapePoint
  split_ifs with hquote hslash hbreak hreturn htab hfeed hback hplain
  · exact ⟨false, offset + 2, hquote ▸ readString_shortEscape _ _ (by decide) (by decide)⟩
  · exact ⟨false, offset + 2, hslash ▸ readString_shortEscape _ _ (by decide) (by decide)⟩
  · exact ⟨false, offset + 2, hbreak ▸ readString_shortEscape _ _ (by decide) (by decide)⟩
  · exact ⟨false, offset + 2, hreturn ▸ readString_shortEscape _ _ (by decide) (by decide)⟩
  · exact ⟨false, offset + 2, htab ▸ readString_shortEscape _ _ (by decide) (by decide)⟩
  · exact ⟨false, offset + 2, hfeed ▸ readString_shortEscape _ _ (by decide) (by decide)⟩
  · exact ⟨false, offset + 2, hback ▸ readString_shortEscape _ _ (by decide) (by decide)⟩
  · exact ⟨false, offset + 1, readString_plain _ _ hquote (Nat.not_lt.mpr hplain.1) hslash⟩
  · refine ⟨true, offset + 6, ?_⟩
    rw [readString_unitEscape _ _ hc hrest, Fin.ofNat_val_eq_self]

/-- A larger one is read as two, the surrogates that its escapes spell. -/
theorem readString_escapePoint_pair (hc : 0x10000 ≤ c.val) (hrest : rest ≠ []) :
    ∃ offset', readString start offset (escapePoint c ++ rest) =
      prepend ⟨highHalf c, true⟩ <$> prepend ⟨lowHalf c, true⟩ <$>
        readString start offset' rest := by
  have hlt := c.isLt
  have hescape : escapePoint c = unitEscape (0xD800 + (c.val - 0x10000) / 0x400) ++
      unitEscape (0xDC00 + (c.val - 0x10000) % 0x400) := by
    have hne : ∀ d : CodePoint, d.val < 0x10000 → c ≠ d := by
      rintro d hd rfl
      omega
    rw [escapePoint, if_neg (hne _ (by decide)), if_neg (hne _ (by decide)),
      if_neg (hne _ (by decide)), if_neg (hne _ (by decide)), if_neg (hne _ (by decide)),
      if_neg (hne _ (by decide)), if_neg (hne _ (by decide)), if_neg (by omega),
      if_neg (by omega)]
  rw [hescape, List.append_assoc, readString_unitEscape _ _ (by omega) (by simp [hrest]),
    readString_unitEscape _ _ (by omega) hrest]
  exact ⟨_, rfl⟩

/-- **A string is read up to its closing quote**, as pieces that spell its text. -/
theorem exists_spells_of_readString (t rest : Text) :
    ∃ ps offset', readString start offset (t.flatMap escapePoint ++ 0x22 :: rest) =
      .ok (ps, ⟨rest, offset'⟩) ∧ Spells ps t := by
  induction t generalizing offset with
  | nil => exact ⟨[], offset + 1, readString_quote start offset, .nil⟩
  | cons c t ih =>
    have hne : t.flatMap escapePoint ++ 0x22 :: rest ≠ [] := by simp
    rw [List.flatMap_cons, List.append_assoc]
    rcases Nat.lt_or_ge c.val 0x10000 with hc | hc
    · obtain ⟨escaped, behind, hread⟩ := readString_escapePoint_unit start offset hc hne
      obtain ⟨ps, offset', hps, hspells⟩ := ih behind
      rw [hread, hps]
      exact ⟨_, _, rfl, .unit escaped hc hspells⟩
    · obtain ⟨behind, hread⟩ := readString_escapePoint_pair start offset hc hne
      obtain ⟨ps, offset', hps, hspells⟩ := ih behind
      rw [hread, hps]
      exact ⟨_, _, rfl, .pair hc hspells⟩

end ReadString

/-- **A string that is written is read again**, whatever stands behind it. -/
theorem readText_printText {t : Text} (ht : Unpaired t) (rest : Text) (offset : Nat) :
    ∃ offset', readText ⟨printText t ++ rest, offset⟩ = .ok (t, ⟨rest, offset'⟩) := by
  obtain ⟨ps, offset', hps, hspells⟩ :=
    exists_spells_of_readString offset (offset + 1) t rest
  have hbehind : (printText t ++ rest).drop 1 = t.flatMap escapePoint ++ 0x22 :: rest := by
    simp [printText]
  simp only [readText, hbehind, hps, bind, Except.bind, pure, Except.pure,
    joinEscapes_of_spells hspells ht]
  exact ⟨_, rfl⟩

end Json
end LedgerKeys
