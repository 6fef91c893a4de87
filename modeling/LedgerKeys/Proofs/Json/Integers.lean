/-
# Arrays of integers

The texts that stand for an array of integers, and the integers that they stand for (`IntArray`):
this is the grammar of JSON as far as it concerns them. A sign may stand in front of a zero, but no
zero in front of other digits, and white space may stand around every element. The reader takes a
text for an array of integers just if it is one in this grammar (`parse_eq_arr_int_iff`); so a point
or an exponent makes a number another value, and a word is no integer either.

From the grammar to the reader the induction is along the elements, and what stands behind an
integer must not go on with it. From the reader to the grammar it is along the fuel, and each reader
is inverted on its own: what it took for an integer was the text of one.
-/
import LedgerKeys.Proofs.Json.Inversion

namespace LedgerKeys
namespace Json

/-! ## 1. The grammar -/

/-- The elements of an array of integers, from the first one up to the closing bracket. -/
inductive IntElements : Text → List Int → Prop where
  | last {lit after : Text} {n : Int} (h : IntLiteral lit n) (hafter : Blanks after) :
      IntElements (lit ++ after) [n]
  | more {lit after before rest : Text} {n : Int} {ns : List Int} (h : IntLiteral lit n)
      (hafter : Blanks after) (hbefore : Blanks before) (hrest : IntElements rest ns) :
      IntElements (lit ++ (after ++ 0x2C :: (before ++ rest))) (n :: ns)

/-- The text of an array of integers that is not empty. -/
inductive IntArray : Text → List Int → Prop where
  | mk {outer before inside after : Text} {ns : List Int} (houter : Blanks outer)
      (hbefore : Blanks before) (h : IntElements inside ns) (hafter : Blanks after) :
      IntArray (outer ++ 0x5B :: (before ++ (inside ++ 0x5D :: after))) ns

theorem isBlank_head_cons {c : CodePoint} {rest : Text} (hc : isBlank c = false) :
    ∀ d ∈ (c :: rest).head?, isBlank d = false := by
  rintro _ ⟨⟩
  exact hc

theorem endsNumber_cons {c : CodePoint} {rest : Text}
    (hc : isDigit c = false ∧ c ≠ 0x2E ∧ c ≠ 0x65 ∧ c ≠ 0x45) : EndsNumber (c :: rest) := by
  rintro _ ⟨⟩
  exact hc

/-- An integer ends at white space, too. -/
theorem EndsNumber.of_blanks {after rest : Text} (hafter : Blanks after)
    (hrest : EndsNumber rest) : EndsNumber (after ++ rest) := by
  cases after with
  | nil => exact hrest
  | cons c after =>
    have hblank := hafter c List.mem_cons_self
    simp only [isBlank, Bool.or_eq_true, beq_iff_eq] at hblank
    rcases hblank with ((rfl | rfl) | rfl) | rfl <;> exact endsNumber_cons (by decide)

/-- Elements begin with an integer. -/
theorem IntElements.beginsValue {inside : Text} {ns : List Int} (h : IntElements inside ns) :
    BeginsValue inside := by
  cases h with
  | last h hafter => exact h.beginsValue.append _
  | more h hafter hbefore hrest => exact h.beginsValue.append _

theorem BeginsValue.isBlank_head {t : Text} (h : BeginsValue t) :
    ∀ c ∈ t.head?, isBlank c = false := by
  obtain ⟨c, tail, rfl, hc⟩ := h
  exact isBlank_head_cons hc.1

/-- Every element takes at least one character. -/
theorem IntElements.length_le {inside : Text} {ns : List Int} (h : IntElements inside ns) :
    ns.length ≤ inside.length := by
  have hpos : ∀ {lit : Text} {n : Int}, IntLiteral lit n → 0 < lit.length := by
    intro lit n h
    obtain ⟨c, tail, rfl, -⟩ := h.beginsValue
    exact Nat.succ_pos _
  induction h with
  | last h hafter =>
    have hlit := hpos h
    simp only [List.length_append, List.length_singleton]
    omega
  | more h hafter hbefore hrest ih =>
    have hlit := hpos h
    simp only [List.length_append, List.length_cons]
    omega

/-! ## 2. From the grammar to the reader -/

/-- The elements are read up to the closing bracket. -/
theorem IntElements.readElements {inside : Text} {ns : List Int} (h : IntElements inside ns)
    (levels : Nat) (rest : Text) : ∀ {fuel : Nat}, ns.length ≤ fuel → ∀ offset, ∃ offset',
      readElements (readValue levels) fuel ⟨inside ++ 0x5D :: rest, offset⟩ =
        .ok (ns.map int, ⟨rest, offset'⟩) := by
  induction h with
  | @last lit after n h hafter =>
    intro fuel hfuel offset
    obtain ⟨fuel, rfl⟩ := Nat.exists_eq_add_one_of_ne_zero (Nat.ne_of_gt hfuel)
    have hends : EndsNumber (after ++ 0x5D :: rest) :=
      .of_blanks hafter (endsNumber_cons (by decide))
    obtain ⟨behind, hread⟩ := h.readValue hends levels offset
    have hskip : Cursor.skipBlanks ⟨after ++ 0x5D :: rest, behind⟩ = _ :=
      Cursor.skipBlanks_append hafter (isBlank_head_cons rfl) behind
    rw [Json.readElements, List.append_assoc, hread]
    simp only [bind, Except.bind, hskip]
    exact ⟨_, rfl⟩
  | @more lit after before inside n ns h hafter hbefore hinside ih =>
    intro fuel hfuel offset
    obtain ⟨fuel, rfl⟩ := Nat.exists_eq_add_one_of_ne_zero (Nat.ne_of_gt (Nat.zero_lt_of_lt hfuel))
    have htext : lit ++ (after ++ 0x2C :: (before ++ inside)) ++ 0x5D :: rest =
        lit ++ (after ++ 0x2C :: (before ++ (inside ++ 0x5D :: rest))) := by simp
    have hends : EndsNumber (after ++ 0x2C :: (before ++ (inside ++ 0x5D :: rest))) :=
      .of_blanks hafter (endsNumber_cons (by decide))
    obtain ⟨behind, hread⟩ := h.readValue hends levels offset
    have hskip : Cursor.skipBlanks
        ⟨after ++ 0x2C :: (before ++ (inside ++ 0x5D :: rest)), behind⟩ = _ :=
      Cursor.skipBlanks_append hafter (isBlank_head_cons rfl) behind
    have hnext := Cursor.skipBlanks_append hbefore
      (hinside.beginsValue.append (0x5D :: rest)).isBlank_head (behind + after.length + 1)
    obtain ⟨offset', hmore⟩ := ih (Nat.le_of_succ_le_succ hfuel)
      (behind + after.length + 1 + before.length)
    rw [Json.readElements, htext, hread]
    simp only [bind, Except.bind, hskip, hnext, hmore]
    exact ⟨_, rfl⟩

/-- So is an array, wherever one may stand. -/
theorem IntElements.readValue {before inside : Text} {ns : List Int} (h : IntElements inside ns)
    (hbefore : Blanks before) (levels : Nat) (rest : Text) (offset : Nat) : ∃ offset',
      readValue (levels + 1) ⟨0x5B :: (before ++ (inside ++ 0x5D :: rest)), offset⟩ =
        .ok (arr (ns.map int), ⟨rest, offset'⟩) := by
  have hbegins := h.beginsValue.append (0x5D :: rest)
  have hskip := Cursor.skipBlanks_append hbefore hbegins.isBlank_head (offset + 1)
  have hfuel : ns.length ≤ (inside ++ 0x5D :: rest).length + 1 := by
    have hle := h.length_le
    rw [List.length_append]
    omega
  obtain ⟨offset', hread⟩ := h.readElements levels rest hfuel (offset + 1 + before.length)
  change ∃ offset', readArray (Json.readValue levels)
    ⟨before ++ (inside ++ 0x5D :: rest), offset + 1⟩ = _
  rw [readArray, hskip]
  obtain ⟨c, tail, hc, -, hclose, -⟩ := hbegins
  split
  · next h =>
    rw [hc] at h
    exact absurd (List.cons.inj h).1 hclose
  · simp only [hread, bind, Except.bind]
    exact ⟨_, rfl⟩

/-- **The text of an array of integers is read as that array.** -/
theorem IntArray.parse {t : Text} {ns : List Int} (h : IntArray t ns) :
    parse t = .ok (arr (ns.map int)) := by
  cases h with
  | @mk outer before inside after ns houter hbefore h hafter =>
    obtain ⟨offset', hread⟩ := h.readValue hbefore (nestingLimit - 1) after (0 + outer.length)
    refine parse_eq_ok_iff.mpr ⟨⟨after, offset'⟩, ?_, hafter⟩
    rw [Cursor.skipBlanks_append houter (isBlank_head_cons rfl)]
    exact hread

/-! ## 3. From the reader to the grammar -/

variable {c c' : Cursor} {n : Int} {ns : List Int}

/-- The digits of a whole number are split off. -/
theorem readWhole_spec (c : Cursor) :
    c.rest = (readWhole c).1 ++ (readWhole c).2.rest ∧
      ((readWhole c).1 ≠ [] → Whole (readWhole c).1) := by
  have hdigits := (readWhole_digits c).2
  refine ⟨?_, fun hne => ⟨hdigits, hne, ?_⟩⟩
  · unfold readWhole
    split
    · next rest h => exact h
    · exact List.takeWhile_append_dropWhile.symm
  · unfold readWhole
    split
    · next rest h => exact fun _ => rfl
    · next h =>
      -- A run of digits that begins with a zero stands behind a zero.
      intro hhead
      obtain ⟨rest, hrest⟩ := List.head?_eq_some_iff.mp hhead
      have hprefix := List.takeWhile_prefix (l := c.rest) isDigit
      change c.rest.takeWhile isDigit = _ at hrest
      rw [hrest] at hprefix
      obtain ⟨tail, htail⟩ := hprefix
      exact absurd htail.symm (h _)

/-- Where no digits are found behind a point, the cursor stays. -/
theorem readFraction_cases (c : Cursor) :
    readFraction c = ([], c) ∨ (readFraction c).1.isEmpty = false := by
  unfold readFraction
  split
  · dsimp only
    split
    · exact .inl rfl
    · next hne => exact .inr (Bool.not_eq_true _ ▸ hne)
  · exact .inl rfl

theorem readExponent_cases (c : Cursor) :
    readExponent c = (none, c) ∨ (readExponent c).1.isNone = false := by
  unfold readExponent
  split
  · next e rest hc =>
    split
    · dsimp only
      generalize (if (rest.head? == some 0x2D || rest.head? == some 0x2B) = true then 2 else 1) = n
      split
      · exact .inl rfl
      · exact .inr rfl
    · exact .inl rfl
  · exact .inl rfl

/-- A number that is an integer has neither a fraction nor an exponent, so it ends where its
digits do. -/
theorem exists_intLiteral_of_readNumber (h : readNumber c = .ok (int n, c')) :
    ∃ lit, IntLiteral lit n ∧ c.rest = lit ++ c'.rest := by
  unfold readNumber at h
  generalize hsigned : (if c.rest.head? == some 0x2D then c.advance 1 else c) = signed at h
  dsimp only at h
  rw [hsigned] at h
  split at h
  · cases h
  next hne =>
  split at h
  case isFalse => cases h
  next hinteger =>
  split at h
  · cases h
  next hshort =>
  have hfraction := (readFraction_cases (readWhole signed).2).resolve_right (by simp [hinteger.1])
  have hexponent :=
    (readExponent_cases (readFraction (readWhole signed).2).2).resolve_right (by simp [hinteger.2])
  obtain ⟨hsplit, hwhole⟩ := readWhole_spec signed
  rw [hexponent, hfraction] at h
  rw [List.isEmpty_iff] at hne
  obtain ⟨hn, rfl⟩ := Prod.mk.inj (Except.ok.inj h)
  obtain rfl := Json.int.inj hn
  cases hsign : c.rest.head? == some 0x2D with
  | false =>
    rw [hsign, if_neg Bool.false_ne_true] at hsigned
    exact ⟨_, .plain (hwhole hne) (Nat.not_lt.mp hshort), hsigned ▸ hsplit⟩
  | true =>
    rw [hsign, if_pos rfl] at hsigned
    obtain ⟨rest, hrest⟩ := List.head?_eq_some_iff.mp (beq_iff_eq.mp hsign)
    refine ⟨_, .minus (hwhole hne) (Nat.not_lt.mp hshort), ?_⟩
    rw [hrest, List.cons_append, ← hsplit, ← hsigned, Cursor.advance, hrest]
    rfl

/-- No word stands for an integer. -/
theorem exists_intLiteral_of_readAtom (h : readAtom c = .ok (int n, c')) :
    ∃ lit, IntLiteral lit n ∧ c.rest = lit ++ c'.rest := by
  unfold readAtom at h
  split at h
  · next word value hfind =>
    have hmem := List.mem_of_find?_eq_some hfind
    cases h
    simp [words] at hmem
  · exact exists_intLiteral_of_readNumber h

theorem exists_intLiteral_of_readWith {inner : Reader} {nested : Bool}
    (h : readWith inner nested c = .ok (int n, c')) :
    ∃ lit, IntLiteral lit n ∧ c.rest = lit ++ c'.rest := by
  obtain ⟨t, rest, hv, -⟩ | ⟨vs, rest, hv, -⟩ | ⟨ms, hv⟩ | ⟨-, hatom⟩ := readWith_cases h
  · cases hv
  · cases hv
  · cases hv
  · exact exists_intLiteral_of_readAtom hatom

/-- Whatever is read as an integer is the text of one. -/
theorem exists_intLiteral_of_readValue {levels : Nat} (h : readValue levels c = .ok (int n, c')) :
    ∃ lit, IntLiteral lit n ∧ c.rest = lit ++ c'.rest := by
  cases levels with
  | zero => exact exists_intLiteral_of_readWith h
  | succ levels => exact exists_intLiteral_of_readWith h

/-- Elements that are all integers were integers in the text, with commas between them. -/
theorem exists_intElements_of_readElements {levels : Nat} (fuel : Nat)
    (h : readElements (readValue levels) fuel c = .ok (ns.map int, c')) :
    ∃ inside, IntElements inside ns ∧ c.rest = inside ++ 0x5D :: c'.rest := by
  induction fuel generalizing c ns with
  | zero => cases h
  | succ fuel ih =>
    rw [readElements] at h
    obtain ⟨⟨v, behind⟩, hvalue, h⟩ := except_bind_eq_ok.mp h
    obtain ⟨after, hafter, hskip⟩ := behind.exists_blanks
    dsimp only at h
    split at h
    · next rest hclose =>
      obtain ⟨hvs, rfl⟩ := Prod.mk.inj (Except.ok.inj h)
      obtain ⟨n, rfl, rfl⟩ := List.map_eq_singleton_iff.mp hvs.symm
      obtain ⟨lit, hlit, hrest⟩ := exists_intLiteral_of_readValue hvalue
      refine ⟨lit ++ after, .last hlit hafter, ?_⟩
      rw [hrest, hskip, hclose, List.append_assoc]
    · next rest hcomma =>
      obtain ⟨⟨vs, last⟩, hmore, h⟩ := except_bind_eq_ok.mp h
      obtain ⟨hvs, rfl⟩ := Prod.mk.inj (Except.ok.inj h)
      obtain ⟨n, ns, rfl, rfl, rfl⟩ := List.map_eq_cons_iff.mp hvs.symm
      obtain ⟨lit, hlit, hrest⟩ := exists_intLiteral_of_readValue hvalue
      obtain ⟨inside, hinside, hinner⟩ := ih hmore
      obtain ⟨before, hbefore, hskip'⟩ := Cursor.exists_blanks ⟨rest, behind.skipBlanks.offset + 1⟩
      refine ⟨_, .more hlit hafter hbefore hinside, ?_⟩
      rw [hrest, hskip, hcomma, show rest = _ from hskip', hinner]
      simp
    · cases h

theorem exists_intElements_of_readArray {levels : Nat} (hne : ns ≠ [])
    (h : readArray (readValue levels) c = .ok (arr (ns.map int), c')) :
    ∃ before inside, Blanks before ∧ IntElements inside ns ∧
      c.rest = before ++ (inside ++ 0x5D :: c'.rest) := by
  obtain ⟨before, hbefore, hskip⟩ := c.exists_blanks
  unfold readArray at h
  dsimp only at h
  split at h
  · have hnil := (Prod.mk.inj (Except.ok.inj h)).1
    exact absurd (List.map_eq_nil_iff.mp (Json.arr.inj hnil).symm) hne
  · obtain ⟨⟨vs, last⟩, helements, h⟩ := except_bind_eq_ok.mp h
    obtain ⟨hvs, rfl⟩ := Prod.mk.inj (Except.ok.inj h)
    obtain rfl := Json.arr.inj hvs
    obtain ⟨inside, hinside, hrest⟩ := exists_intElements_of_readElements _ helements
    exact ⟨before, inside, hbefore, hinside, hrest ▸ hskip⟩

/-- **A text that is read as an array of integers is the text of one.** -/
theorem intArray_of_parse {t : Text} (hne : ns ≠ []) (h : parse t = .ok (arr (ns.map int))) :
    IntArray t ns := by
  obtain ⟨behind, hvalue, hafter⟩ := parse_eq_ok_iff.mp h
  obtain ⟨outer, houter, hstart⟩ := Cursor.exists_blanks ⟨t, 0⟩
  obtain ⟨u, rest, hv, -⟩ | ⟨vs, rest, -, hopen, harray⟩ | ⟨ms, hv⟩ | ⟨hatom, -⟩ :=
    readWith_cases hvalue
  · cases hv
  · obtain ⟨before, inside, hbefore, hinside, hrest⟩ := exists_intElements_of_readArray hne harray
    rw [Cursor.advance, hopen] at hrest
    change rest = _ at hrest
    change t = _ at hstart
    rw [hstart, hopen, hrest]
    exact .mk houter hbefore hinside hafter
  · cases hv
  · cases hatom

/-- **The texts that are read as an array of integers.** -/
theorem parse_eq_arr_int_iff {t : Text} (hne : ns ≠ []) :
    parse t = .ok (arr (ns.map int)) ↔ IntArray t ns :=
  ⟨intArray_of_parse hne, IntArray.parse⟩

end Json
end LedgerKeys
