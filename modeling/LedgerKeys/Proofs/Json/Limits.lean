/-
# When the reader of JSON gives up

A document may be malformed, and it may be too much for the reader: nested deeper than its budget
of levels, or with an integer of more digits than it turns into a number. The second kind of refusal
always has its cause in the text (`Refusal.Excuse`). A refusal for depth needs more opening brackets
than there are levels, and a refusal for digits needs a run of that many.

Every reader is held to the same contract (`Behaves`): what it leaves is a suffix of its text, and
what it refuses has an excuse in the text. The contract is carried through sequences, so each
reader is checked against those it calls; the levels go down by one behind an opening bracket, and
that bracket is the one more that the excuse needs.

Section 6 has the other direction: texts that are given up on, of any length beyond the bounds.
-/
import LedgerKeys.Proofs.Json.RoundTrip
import Mathlib.Data.List.TakeWhile

namespace LedgerKeys
namespace Json

/-! ## 1. Excuses -/

/-- A bracket or brace that opens an array or an object. -/
def isOpening (c : CodePoint) : Bool := c == 0x5B || c == 0x7B

/-- What in a text excuses its refusal: a flaw needs nothing more, as it has its own place. -/
def Refusal.Excuse (levels : Nat) (t : Text) : Refusal → Prop
  | .flaw _ _ => True
  | .tooDeep => levels < t.countP isOpening
  | .tooManyDigits count =>
    digitLimit < count ∧ ∃ run, run <:+: t ∧ run.length = count ∧ ∀ c ∈ run, isDigit c = true

variable {levels : Nat}

/-- What excuses a refusal of the end of a text excuses one of the text. -/
theorem Refusal.Excuse.of_suffix {s t : Text} {r : Refusal} (h : r.Excuse levels s)
    (hst : s <:+ t) : r.Excuse levels t := by
  cases r with
  | flaw what offset => trivial
  | tooDeep => exact Nat.lt_of_lt_of_le h (hst.sublist.countP_le)
  | tooManyDigits count =>
    obtain ⟨hcount, run, hrun, hlen, hdigits⟩ := h
    exact ⟨hcount, run, hrun.trans hst.isInfix, hlen, hdigits⟩

/-- Behind an opening bracket there is one level less. -/
theorem Refusal.Excuse.of_opening {c : CodePoint} {t : Text} {r : Refusal}
    (h : r.Excuse levels t) (hc : isOpening c = true) : r.Excuse (levels + 1) (c :: t) := by
  cases r with
  | flaw what offset => trivial
  | tooDeep =>
    change levels + 1 < (c :: t).countP isOpening
    rw [List.countP_cons_of_pos hc]
    exact Nat.succ_lt_succ h
  | tooManyDigits count =>
    exact Excuse.of_suffix (r := .tooManyDigits count) h (List.suffix_cons c t)

/-! ## 2. The contract of a reader -/

/-- What is left is a suffix of the text, and a refusal of the text has an excuse in it. -/
structure Behaves {α : Type} (levels : Nat) (t : Text) (result : Except Refusal (α × Cursor)) :
    Prop where
  suffix : ∀ a c, result = .ok (a, c) → c.rest <:+ t
  excuse : ∀ r, result = .error r → r.Excuse levels t

namespace Behaves

variable {α β : Type} {t : Text}

theorem ok {a : α} {c : Cursor} (h : c.rest <:+ t) : Behaves levels t (.ok (a, c)) where
  suffix := by
    rintro _ _ ⟨⟩
    exact h
  excuse := by rintro _ ⟨⟩

theorem error {r : Refusal} (h : r.Excuse levels t) :
    Behaves levels t (.error r : Except Refusal (α × Cursor)) where
  suffix := by rintro _ _ ⟨⟩
  excuse := by
    rintro _ ⟨⟩
    exact h

theorem refuse (c : Cursor) (what : Flaw) :
    Behaves levels t (c.refuse what : Except Refusal (α × Cursor)) := error trivial

theorem of_suffix {s : Text} {result : Except Refusal (α × Cursor)} (h : Behaves levels s result)
    (hst : s <:+ t) : Behaves levels t result where
  suffix := fun a c hok => (h.suffix a c hok).trans hst
  excuse := fun r herror => (h.excuse r herror).of_suffix hst

theorem of_opening {c : CodePoint} {result : Except Refusal (α × Cursor)}
    (h : Behaves levels t result) (hc : isOpening c = true) :
    Behaves (levels + 1) (c :: t) result where
  suffix := fun a c' hok => (h.suffix a c' hok).trans (List.suffix_cons c t)
  excuse := fun r herror => (h.excuse r herror).of_opening hc

/-- A sequence behaves if its first part does and the second does on whatever may be left. -/
theorem bind {x : Except Refusal (α × Cursor)} {next : α × Cursor → Except Refusal (β × Cursor)}
    (hx : Behaves levels t x)
    (hnext : ∀ a c, c.rest <:+ t → Behaves levels c.rest (next (a, c))) :
    Behaves levels t (x >>= next) := by
  cases x with
  | error r => exact error (hx.excuse r rfl)
  | ok found =>
    obtain ⟨a, c⟩ := found
    have hsuffix := hx.suffix a c rfl
    exact (hnext a c hsuffix).of_suffix hsuffix

theorem map {x : Except Refusal (α × Cursor)} {g : α × Cursor → β × Cursor}
    (hx : Behaves levels t x) (hg : ∀ a c, (g (a, c)).2 = c) : Behaves levels t (g <$> x) := by
  cases x with
  | error r => exact error (hx.excuse r rfl)
  | ok found =>
    obtain ⟨a, c⟩ := found
    have hsuffix := hx.suffix a c rfl
    rw [← hg a c] at hsuffix
    exact ok hsuffix

end Behaves

/-! ## 3. Cursors and strings -/

theorem Cursor.advance_suffix (n : Nat) (c : Cursor) : (c.advance n).rest <:+ c.rest :=
  List.drop_suffix n c.rest

theorem Cursor.span_suffix (p : CodePoint → Bool) (c : Cursor) : (c.span p).2.rest <:+ c.rest :=
  List.dropWhile_suffix p

theorem Cursor.skipBlanks_suffix (c : Cursor) : c.skipBlanks.rest <:+ c.rest :=
  c.span_suffix isBlank

theorem behaves_readString (start offset : Nat) (t : Text) :
    Behaves levels t (readString start offset t) := by
  fun_induction readString start offset t with
  | case2 => exact .ok (List.suffix_cons _ _)
  | case4 offset c rest hquote hcontrol hslash ih =>
    exact (ih.map fun _ _ => rfl).of_suffix (List.suffix_cons c rest)
  | case6 offset c hquote hcontrol hslash h1 h2 h3 h4 next rest point hpoint ih =>
    exact (ih.map fun _ _ => rfl).of_suffix
      (List.suffix_append [c, 0x75, h1, h2, h3, h4] (next :: rest))
  | case9 offset c hquote hcontrol hslash e rest he point hpoint ih =>
    exact (ih.map fun _ _ => rfl).of_suffix (List.suffix_append [c, e] rest)
  | case1 | case3 | case5 | case7 | case8 | case10 => exact .error trivial

theorem behaves_readText (c : Cursor) : Behaves levels c.rest (readText c) :=
  ((behaves_readString c.offset (c.offset + 1) (c.rest.drop 1)).of_suffix
    (List.drop_suffix 1 c.rest)).bind fun _ _ _ => .ok List.suffix_rfl

/-! ## 4. Numbers -/

theorem readWhole_suffix (c : Cursor) : (readWhole c).2.rest <:+ c.rest := by
  unfold readWhole
  split
  · next rest h =>
    rw [h]
    exact List.suffix_cons _ _
  · exact c.span_suffix isDigit

/-- The digits of the whole part stand in the text. -/
theorem readWhole_digits (c : Cursor) :
    (readWhole c).1 <:+: c.rest ∧ ∀ d ∈ (readWhole c).1, isDigit d = true := by
  unfold readWhole
  split
  · next rest h =>
    rw [h]
    refine ⟨(List.prefix_append [0x30] rest).isInfix, fun d hd => ?_⟩
    rw [List.mem_singleton.mp hd]
    decide
  · exact ⟨(List.takeWhile_prefix isDigit).isInfix, fun d hd => List.mem_takeWhile_imp hd⟩

theorem readFraction_suffix (c : Cursor) : (readFraction c).2.rest <:+ c.rest := by
  unfold readFraction
  split
  · dsimp only
    split
    · exact List.suffix_rfl
    · exact ((c.advance 1).span_suffix isDigit).trans (c.advance_suffix 1)
  · exact List.suffix_rfl

theorem readExponent_suffix (c : Cursor) : (readExponent c).2.rest <:+ c.rest := by
  unfold readExponent
  split
  · split
    · next e rest h he =>
      dsimp only
      generalize (if (rest.head? == some 0x2D || rest.head? == some 0x2B) = true then 2 else 1) = n
      split
      · exact List.suffix_rfl
      · exact ((c.advance n).span_suffix isDigit).trans (c.advance_suffix n)
    · exact List.suffix_rfl
  · exact List.suffix_rfl

theorem behaves_readNumber (c : Cursor) : Behaves levels c.rest (readNumber c) := by
  have hsign : (if c.rest.head? == some 0x2D then c.advance 1 else c).rest <:+ c.rest := by
    split
    · exact c.advance_suffix 1
    · exact List.suffix_rfl
  unfold readNumber
  generalize hsigned : (if c.rest.head? == some 0x2D then c.advance 1 else c) = signed at hsign
  obtain ⟨hrun, hdigits⟩ := readWhole_digits signed
  have hsuffix := (readExponent_suffix (readFraction (readWhole signed).2).2).trans
    ((readFraction_suffix (readWhole signed).2).trans ((readWhole_suffix signed).trans hsign))
  dsimp only
  rw [hsigned]
  split
  · exact .refuse c .value
  · split
    · split
      · next hlong => exact .error ⟨hlong, _, hrun.trans hsign.isInfix, rfl, hdigits⟩
      · exact .ok hsuffix
    · exact .ok hsuffix

/-! ## 5. Values -/

theorem behaves_readAtom (c : Cursor) : Behaves levels c.rest (readAtom c) := by
  unfold readAtom
  split
  · exact .ok (c.advance_suffix _)
  · exact behaves_readNumber c

/-- Behind the next character that is no blank there is a suffix. -/
theorem Cursor.suffix_of_skipBlanks {c : Cursor} {d : CodePoint} {rest : Text}
    (h : c.skipBlanks.rest = d :: rest) : rest <:+ c.rest := by
  have hsuffix := c.skipBlanks_suffix
  rw [h] at hsuffix
  exact (List.suffix_cons d rest).trans hsuffix

/-- So there is behind that character and further blanks. -/
theorem Cursor.skipBlanks_suffix_of_skipBlanks {c : Cursor} {d : CodePoint} {rest : Text}
    (h : c.skipBlanks.rest = d :: rest) (offset : Nat) :
    (Cursor.skipBlanks ⟨rest, offset⟩).rest <:+ c.rest :=
  (Cursor.skipBlanks_suffix ⟨rest, offset⟩).trans (Cursor.suffix_of_skipBlanks h)

section Lists

variable {value : Reader} (hvalue : ∀ c, Behaves levels c.rest (value c))
include hvalue

theorem behaves_readElements (fuel : Nat) (c : Cursor) :
    Behaves levels c.rest (readElements value fuel c) := by
  induction fuel generalizing c with
  | zero => exact .refuse c .value
  | succ fuel ih =>
    rw [readElements]
    refine (hvalue c).bind fun v c _ => ?_
    dsimp only
    split
    · next rest h => exact .ok (Cursor.suffix_of_skipBlanks h)
    · next rest h =>
      have hbehind := Cursor.skipBlanks_suffix_of_skipBlanks h (c.skipBlanks.offset + 1)
      refine Behaves.of_suffix ?_ hbehind
      exact (ih _).bind fun vs c _ => .ok List.suffix_rfl
    · exact .refuse _ .comma

theorem behaves_readMembers (fuel : Nat) (c : Cursor) :
    Behaves levels c.rest (readMembers value fuel c) := by
  induction fuel generalizing c with
  | zero => exact .refuse c .propertyName
  | succ fuel ih =>
    rw [readMembers]
    dsimp only
    split
    · exact .refuse c .propertyName
    · refine (behaves_readText c).bind fun key c _ => ?_
      dsimp only
      split
      · exact .refuse _ .colon
      · have hcolon : ((c.skipBlanks.advance 1).skipBlanks).rest <:+ c.rest :=
          (Cursor.skipBlanks_suffix _).trans
            ((Cursor.advance_suffix 1 _).trans c.skipBlanks_suffix)
        refine ((hvalue _).bind fun v c _ => ?_).of_suffix hcolon
        dsimp only
        split
        · next rest h => exact .ok (Cursor.suffix_of_skipBlanks h)
        · next rest h =>
          have hbehind := Cursor.skipBlanks_suffix_of_skipBlanks h (c.skipBlanks.offset + 1)
          refine Behaves.of_suffix ?_ hbehind
          exact (ih _).bind fun ms c _ => .ok List.suffix_rfl
        · exact .refuse _ .comma

theorem behaves_readArray (c : Cursor) : Behaves levels c.rest (readArray value c) := by
  unfold readArray
  dsimp only
  split
  · next rest h => exact .ok (Cursor.suffix_of_skipBlanks h)
  · refine Behaves.of_suffix ?_ c.skipBlanks_suffix
    exact (behaves_readElements hvalue _ _).bind fun vs c _ => .ok List.suffix_rfl

theorem behaves_readObject (c : Cursor) : Behaves levels c.rest (readObject value c) := by
  unfold readObject
  dsimp only
  split
  · next rest h => exact .ok (Cursor.suffix_of_skipBlanks h)
  · refine Behaves.of_suffix ?_ c.skipBlanks_suffix
    exact (behaves_readMembers hvalue _ _).bind fun ms c _ => .ok List.suffix_rfl

end Lists

/-- Without a level left, the first opening bracket is one too many. -/
theorem behaves_readWith_flat (inner : Reader) (c : Cursor) :
    Behaves 0 c.rest (readWith inner false c) := by
  have hopen : ∀ {o : CodePoint} {rest : Text}, isOpening o = true → c.rest = o :: rest →
      Refusal.tooDeep.Excuse 0 c.rest := by
    intro o rest ho h
    change 0 < c.rest.countP isOpening
    rw [h, List.countP_cons_of_pos ho]
    exact Nat.succ_pos _
  unfold readWith
  split
  · exact (behaves_readText c).bind fun _ _ _ => .ok List.suffix_rfl
  · next rest h => exact .error (hopen (by decide) h)
  · next rest h => exact .error (hopen (by decide) h)
  · exact behaves_readAtom c

/-- With one level more than what is inside. -/
theorem behaves_readWith_nested {inner : Reader} (hinner : ∀ c, Behaves levels c.rest (inner c))
    (c : Cursor) : Behaves (levels + 1) c.rest (readWith inner true c) := by
  have hrest : ∀ {o : CodePoint} {rest : Text}, c.rest = o :: rest → (c.advance 1).rest = rest := by
    intro o rest h
    rw [Cursor.advance, h]
    rfl
  unfold readWith
  split
  · exact (behaves_readText c).bind fun _ _ _ => .ok List.suffix_rfl
  · next rest h =>
    have harray := behaves_readArray hinner (c.advance 1)
    rw [h]
    rw [hrest h] at harray
    exact harray.of_opening (by decide)
  · next rest h =>
    have hobject := behaves_readObject hinner (c.advance 1)
    rw [h]
    rw [hrest h] at hobject
    exact hobject.of_opening (by decide)
  · exact behaves_readAtom c

theorem behaves_readValue (levels : Nat) (c : Cursor) :
    Behaves levels c.rest (readValue levels c) := by
  induction levels generalizing c with
  | zero => exact behaves_readWith_flat _ c
  | succ levels ih => exact behaves_readWith_nested ih c

/-- **A text is refused with an excuse only.** -/
theorem excuse_of_parse {t : Text} {r : Refusal} (h : parse t = .error r) :
    r.Excuse nestingLimit t := by
  have hvalue := (behaves_readValue nestingLimit (Cursor.skipBlanks ⟨t, 0⟩)).of_suffix
    (Cursor.skipBlanks_suffix ⟨t, 0⟩)
  rw [parse, except_bind_eq_error] at h
  rcases h with h | ⟨⟨v, c⟩, -, h⟩
  · exact hvalue.excuse r h
  · dsimp only at h
    split at h
    · cases h
    · cases h
      trivial

/-! ## 6. Texts that are given up on -/

/-- What is refused behind an opening bracket is refused with it, on one level more. -/
theorem readValue_of_opening {t : Text} (ht : BeginsValue t) {r : Refusal} {offset : Nat}
    (h : readValue levels ⟨t, offset + 1⟩ = .error r) :
    readValue (levels + 1) ⟨0x5B :: t, offset⟩ = .error r := by
  change readArray (readValue levels) ⟨t, offset + 1⟩ = _
  rw [readArray, ht.skipBlanks]
  obtain ⟨c, tail, rfl, -, hclose, -⟩ := ht
  split
  · next rest h => exact absurd (List.cons.inj h).1 hclose
  · simp only [readElements, h, bind, Except.bind]

theorem beginsValue_openings {n : Nat} (h : 0 < n) (rest : Text) :
    BeginsValue (List.replicate n 0x5B ++ rest) := by
  obtain ⟨n, rfl⟩ := Nat.exists_eq_add_one_of_ne_zero (Nat.ne_of_gt h)
  exact ⟨0x5B, List.replicate n 0x5B ++ rest, rfl, by decide⟩

/-- One opening bracket more than there are levels is too many, whatever stands behind it. -/
theorem readValue_of_openings (levels : Nat) {n : Nat} (h : levels < n) (rest : Text)
    (offset : Nat) :
    readValue levels ⟨List.replicate n 0x5B ++ rest, offset⟩ = .error .tooDeep := by
  obtain ⟨n, rfl⟩ := Nat.exists_eq_add_one_of_ne_zero (Nat.ne_of_gt (Nat.zero_lt_of_lt h))
  induction levels generalizing n offset with
  | zero => rfl
  | succ levels ih =>
    have hmore : levels < n := Nat.lt_of_succ_lt_succ h
    obtain ⟨m, rfl⟩ := Nat.exists_eq_add_one_of_ne_zero (Nat.ne_of_gt (Nat.zero_lt_of_lt hmore))
    exact readValue_of_opening (beginsValue_openings (Nat.succ_pos m) rest) (ih _ m hmore)

/-- **Every text that begins with more opening brackets than there are levels is too deep.** -/
theorem parse_of_openings {n : Nat} (h : nestingLimit < n) (rest : Text) :
    parse (List.replicate n 0x5B ++ rest) = .error .tooDeep := by
  have hbegins := beginsValue_openings (Nat.zero_lt_of_lt h) rest
  rw [parse, hbegins.skipBlanks, readValue_of_openings nestingLimit h rest 0]
  rfl

/-- A run of digits that is too long for a number: more of them than are turned into one, and the
first is no zero, as a zero would stand alone. -/
structure TooLong (digits : Text) : Prop where
  isDigit : ∀ c ∈ digits, isDigit c = true
  head : digits.head? ≠ some 0x30
  length : digitLimit < digits.length

section TooLong

variable {digits rest : Text} (h : TooLong digits) (hrest : EndsValue rest)
include h

theorem TooLong.exists_cons :
    ∃ c tail, digits = c :: tail ∧ Json.isDigit c = true ∧ c ≠ 0x30 := by
  obtain ⟨c, tail, rfl⟩ := List.exists_cons_of_length_pos (Nat.zero_lt_of_lt h.length)
  exact ⟨c, tail, rfl, h.isDigit c List.mem_cons_self, fun hc => h.head (congrArg some hc)⟩

theorem TooLong.whole : Whole digits where
  isDigit := h.isDigit
  ne_nil := List.ne_nil_of_length_pos (Nat.zero_lt_of_lt h.length)
  zero_alone := fun hzero => absurd hzero h.head

theorem TooLong.beginsValue (rest : Text) : BeginsValue (digits ++ rest) := by
  obtain ⟨c, tail, rfl, hc, -⟩ := h.exists_cons
  exact ⟨c, tail ++ rest, rfl, startsValue_of_isDigit hc⟩

include hrest

theorem TooLong.readNumber (offset : Nat) :
    readNumber ⟨digits ++ rest, offset⟩ = .error (.tooManyDigits digits.length) := by
  rw [h.whole.readNumber hrest.endsNumber, if_pos h.length]

theorem TooLong.readValue (levels offset : Nat) :
    readValue levels ⟨digits ++ rest, offset⟩ = .error (.tooManyDigits digits.length) := by
  rw [← h.readNumber hrest offset]
  obtain ⟨c, tail, rfl, hc, -⟩ := h.exists_cons
  rw [← readAtom_of_isDigit hc (.inl (List.cons_append ..)) offset]
  exact readValue_atom (isAtomStart_of_isDigit hc) levels (tail ++ rest) offset

/-- **Every number with too many digits is given up on**, in however many arrays it stands. -/
theorem TooLong.parse {n : Nat} (hn : n ≤ nestingLimit) :
    parse (List.replicate n 0x5B ++ (digits ++ rest)) = .error (.tooManyDigits digits.length) := by
  have hbegins : ∀ n, BeginsValue (List.replicate n 0x5B ++ (digits ++ rest)) := by
    rintro (_ | n)
    · exact h.beginsValue rest
    · exact beginsValue_openings (Nat.succ_pos n) _
  have hread : ∀ levels offset, Json.readValue (levels + n)
      ⟨List.replicate n 0x5B ++ (digits ++ rest), offset⟩ =
        .error (.tooManyDigits digits.length) := by
    clear hn
    induction n with
    | zero => exact h.readValue hrest
    | succ n ih =>
      intro levels offset
      exact readValue_of_opening (hbegins n) (ih levels (offset + 1))
  have hlimit := hread (nestingLimit - n) 0
  rw [Nat.sub_add_cancel hn] at hlimit
  rw [Json.parse, (hbegins n).skipBlanks, hlimit]
  rfl

end TooLong

end Json
end LedgerKeys
