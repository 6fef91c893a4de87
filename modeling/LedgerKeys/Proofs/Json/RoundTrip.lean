/-
# Documents that are read as they were written

A written document is read back to its value (`parse_print`) if the reader stays within its bounds
on it, which is what `Readable` says: no more levels than it has a budget for, no integer with too
many digits, no string whose escapes would be joined, and no object with a name twice. Reals are
left out, as their text is only as long as it has to be to be told from other reals.

The levels of `Readable` are the budget of the reader. The proof is an induction along them, and
for the elements of an array and the members of an object one along the list, whatever reader of
values there is inside.
-/
import LedgerKeys.Json.Document
import LedgerKeys.Proofs.Json.Tokens

namespace LedgerKeys
namespace Json

/-! ## 1. What is read back -/

/-- The value is read back with so many levels. -/
inductive Readable : Nat → Json → Prop where
  | null (levels : Nat) : Readable levels null
  | bool (levels : Nat) (b : Bool) : Readable levels (bool b)
  | int {levels : Nat} {n : Int} (h : (Text.ofNat n.natAbs).length ≤ digitLimit) :
      Readable levels (int n)
  | str {levels : Nat} {t : Text} (h : Unpaired t) : Readable levels (str t)
  | arr {levels : Nat} {vs : List Json} (h : ∀ v ∈ vs, Readable levels v) :
      Readable (levels + 1) (arr vs)
  | obj {levels : Nat} {ms : List (Text × Json)} (hnames : (ms.map Prod.fst).Nodup)
      (hunpaired : ∀ m ∈ ms, Unpaired m.1) (h : ∀ m ∈ ms, Readable levels m.2) :
      Readable (levels + 1) (obj ms)

/-- It may be read with more levels than it needs. -/
theorem Readable.mono {levels more : Nat} {v : Json} (h : Readable levels v)
    (hle : levels ≤ more) : Readable more v := by
  induction h generalizing more with
  | null levels => exact .null more
  | bool levels b => exact .bool more b
  | int h => exact .int h
  | str h => exact .str h
  | arr h ih =>
    obtain ⟨more, rfl⟩ := Nat.exists_eq_add_one_of_ne_zero (Nat.ne_zero_of_lt hle)
    exact .arr fun v hv => ih v hv (Nat.le_of_succ_le_succ hle)
  | obj hnames hunpaired h ih =>
    obtain ⟨more, rfl⟩ := Nat.exists_eq_add_one_of_ne_zero (Nat.ne_zero_of_lt hle)
    exact .obj hnames hunpaired fun m hm => ih m hm (Nat.le_of_succ_le_succ hle)

/-! ## 2. The beginning of a value -/

/-- A value may begin with this character, and neither what skips blanks nor what looks for the end
of an array or object takes it. -/
def StartsValue (c : CodePoint) : Prop :=
  isBlank c = false ∧ c ≠ 0x5D ∧ c ≠ 0x7D ∧ c ≠ Encoding.byteOrderMark

instance : DecidablePred StartsValue := fun _ => inferInstanceAs (Decidable (_ ∧ _ ∧ _ ∧ _))

/-- The text begins as a value does. -/
def BeginsValue (t : Text) : Prop := ∃ c tail, t = c :: tail ∧ StartsValue c

theorem BeginsValue.append {t : Text} (h : BeginsValue t) (rest : Text) :
    BeginsValue (t ++ rest) := by
  obtain ⟨c, tail, rfl, hc⟩ := h
  exact ⟨c, tail ++ rest, rfl, hc⟩

theorem BeginsValue.skipBlanks {t : Text} (h : BeginsValue t) (offset : Nat) :
    Cursor.skipBlanks ⟨t, offset⟩ = ⟨t, offset⟩ := by
  obtain ⟨c, tail, rfl, hc⟩ := h
  exact Cursor.skipBlanks_of_head hc.1

theorem BeginsValue.skipBlanks_space {t : Text} (h : BeginsValue t) (offset : Nat) :
    Cursor.skipBlanks ⟨0x20 :: t, offset⟩ = ⟨t, offset + 1⟩ := by
  obtain ⟨c, tail, rfl, hc⟩ := h
  exact Cursor.skipBlanks_cons rfl hc.1

theorem startsValue_of_isDigit {c : CodePoint} (h : isDigit c = true) : StartsValue c := by
  have hne : ∀ d, isDigit d = false → c ≠ d := fun d => ne_of_isDigit h
  refine ⟨?_, hne _ (by decide), hne _ (by decide), hne _ (by decide)⟩
  simp [isBlank, hne 0x20 (by decide), hne 0x09 (by decide), hne 0x0A (by decide),
    hne 0x0D (by decide)]

theorem IntLiteral.beginsValue {lit : Text} {n : Int} (h : IntLiteral lit n) :
    BeginsValue lit := by
  obtain ⟨c, tail, hc, rfl | rfl⟩ := h.begins
  · exact ⟨c, tail, rfl, startsValue_of_isDigit hc⟩
  · exact ⟨0x2D, _, rfl, by decide⟩

theorem beginsValue_print {levels : Nat} {v : Json} (h : Readable levels v) :
    BeginsValue (print v) := by
  cases h with
  | null => exact ⟨0x6E, _, rfl, by decide⟩
  | bool levels b =>
    cases b with
    | false => exact ⟨0x66, _, rfl, by decide⟩
    | true => exact ⟨0x74, _, rfl, by decide⟩
  | int h => exact (intLiteral_ofInt h).beginsValue
  | str h => exact ⟨0x22, _, rfl, by decide⟩
  | arr h => exact ⟨0x5B, _, rfl, by decide⟩
  | obj hnames hunpaired h => exact ⟨0x7B, _, rfl, by decide⟩

/-! ## 3. Words and numbers -/

theorem reads_null : Reads readAtom (print null) null :=
  fun _ offset _ => ⟨offset + 4, rfl⟩

theorem reads_bool (b : Bool) : Reads readAtom (print (bool b)) (bool b) := by
  intro rest offset _
  cases b with
  | false => exact ⟨offset + 5, rfl⟩
  | true => exact ⟨offset + 4, rfl⟩

theorem readAtom_of_no_word {c : Cursor}
    (h : ∀ w ∈ words, c.rest.startsWith w.1 = false) : readAtom c = readNumber c := by
  have hnone : (words.find? fun w => c.rest.startsWith w.1) = none :=
    List.find?_eq_none.mpr fun w hw => by simp [h w hw]
  simp only [readAtom, hnone]

/-- No word begins with a digit, or with a sign and a digit. -/
theorem words_begin : ∀ w ∈ words, ∃ a b tail, Text.ofString w.1 = a :: b :: tail ∧
    isDigit a = false ∧ (a = 0x2D → isDigit b = false) := by
  intro w hw
  simp only [words, List.mem_cons, List.not_mem_nil, or_false] at hw
  rcases hw with rfl | rfl | rfl | rfl | rfl | rfl <;>
    exact ⟨_, _, _, rfl, by decide, by decide⟩

/-- So a text that begins like a number is not taken for a word. -/
theorem readAtom_of_isDigit {c : CodePoint} {tail t : Text} (hc : isDigit c = true)
    (ht : t = c :: tail ∨ t = 0x2D :: c :: tail) (offset : Nat) :
    readAtom ⟨t, offset⟩ = readNumber ⟨t, offset⟩ := by
  refine readAtom_of_no_word fun w hw => ?_
  obtain ⟨a, b, more, hword, ha, hb⟩ := words_begin w hw
  rw [Text.startsWith, hword, ← Bool.not_eq_true, List.isPrefixOf_iff_prefix]
  intro hpre
  rcases ht with rfl | rfl
  · rw [List.cons_prefix_cons] at hpre
    exact ne_of_isDigit hc ha hpre.1.symm
  · rw [List.cons_prefix_cons, List.cons_prefix_cons] at hpre
    exact ne_of_isDigit hc (hb hpre.1) hpre.2.1.symm

theorem IntLiteral.readAtom {lit rest : Text} {n : Int} (h : IntLiteral lit n)
    (hrest : EndsNumber rest) (offset : Nat) :
    ∃ offset', readAtom ⟨lit ++ rest, offset⟩ = .ok (int n, ⟨rest, offset'⟩) := by
  obtain ⟨offset', hread⟩ := h.readNumber hrest offset
  refine ⟨offset', ?_⟩
  rw [← hread]
  obtain ⟨c, tail, hc, rfl | rfl⟩ := h.begins
  · exact readAtom_of_isDigit hc (.inl rfl) offset
  · exact readAtom_of_isDigit hc (.inr rfl) offset

/-! ## 4. Arrays -/

/-- What is read at the first character that can begin a value, if it begins neither a string nor
an array nor an object. -/
theorem readWith_atom {inner : Reader} {nested : Bool} {c : CodePoint} {t : Text} {offset : Nat}
    (hstring : c ≠ 0x22) (harray : c ≠ 0x5B) (hobject : c ≠ 0x7B) :
    readWith inner nested ⟨c :: t, offset⟩ = readAtom ⟨c :: t, offset⟩ := by
  unfold readWith
  split
  · next h => exact absurd (List.cons.inj h).1 hstring
  · next h => exact absurd (List.cons.inj h).1 harray
  · next h => exact absurd (List.cons.inj h).1 hobject
  · rfl

/-- The levels do not count there. -/
theorem readValue_atom {c : CodePoint} (hc : c ≠ 0x22 ∧ c ≠ 0x5B ∧ c ≠ 0x7B) (levels : Nat)
    (t : Text) (offset : Nat) :
    readValue levels ⟨c :: t, offset⟩ = readAtom ⟨c :: t, offset⟩ := by
  cases levels with
  | zero => exact readWith_atom hc.1 hc.2.1 hc.2.2
  | succ levels => exact readWith_atom hc.1 hc.2.1 hc.2.2

/-- A digit begins neither a string nor an array nor an object. -/
theorem isAtomStart_of_isDigit {c : CodePoint} (h : isDigit c = true) :
    c ≠ 0x22 ∧ c ≠ 0x5B ∧ c ≠ 0x7B :=
  ⟨ne_of_isDigit h (by decide), ne_of_isDigit h (by decide), ne_of_isDigit h (by decide)⟩

/-- **An integer is read in front of whatever does not go on with it**, on any level. -/
theorem IntLiteral.readValue {lit rest : Text} {n : Int} (h : IntLiteral lit n)
    (hrest : EndsNumber rest) (levels offset : Nat) :
    ∃ offset', readValue levels ⟨lit ++ rest, offset⟩ = .ok (int n, ⟨rest, offset'⟩) := by
  obtain ⟨offset', hread⟩ := h.readAtom hrest offset
  refine ⟨offset', ?_⟩
  obtain ⟨c, tail, hc, rfl | rfl⟩ := h.begins
  · rw [← hread]
    exact readValue_atom (isAtomStart_of_isDigit hc) levels (tail ++ rest) offset
  · rw [← hread]
    exact readValue_atom (by decide) levels (c :: tail ++ rest) offset

/-- The texts between separators, and what comes behind the first. -/
theorem join_cons_cons (separator s t : Text) (ts : List Text) :
    Text.join separator (s :: t :: ts) = s ++ (separator ++ Text.join separator (t :: ts)) := by
  rw [Text.join, List.append_assoc]
  exact fun h => (List.cons_ne_nil _ _ h)

theorem BeginsValue.join {t : Text} (h : BeginsValue t) (separator : Text) (ts : List Text) :
    BeginsValue (Text.join separator (t :: ts)) := by
  cases ts with
  | nil => exact h
  | cons s ts =>
    rw [join_cons_cons]
    exact h.append _

/-- The elements up to the closing bracket, if they are read one by one. -/
theorem readElements_join {value : Reader} (rest : Text) {vs : List Json} (hne : vs ≠ [])
    (hvalue : ∀ v ∈ vs, Reads value (print v) v) (hbegins : ∀ v ∈ vs, BeginsValue (print v)) :
    ∀ {fuel : Nat}, vs.length ≤ fuel → ∀ offset, ∃ offset',
      readElements value fuel ⟨Text.join ", " (printAll vs) ++ 0x5D :: rest, offset⟩ =
        .ok (vs, ⟨rest, offset'⟩) := by
  induction vs with
  | nil => exact absurd rfl hne
  | cons v vs ih =>
    intro fuel hfuel offset
    obtain ⟨fuel, rfl⟩ := Nat.exists_eq_add_one_of_ne_zero (n := fuel) (by
      rintro rfl
      simp at hfuel)
    rw [readElements]
    cases vs with
    | nil =>
      obtain ⟨behind, hv⟩ := hvalue v (by simp) (0x5D :: rest) offset (by simp [EndsValue])
      simp only [printAll, Text.join, hv, bind, Except.bind,
        Cursor.skipBlanks_of_head (c := 0x5D) (by decide)]
      exact ⟨_, rfl⟩
    | cons w ws =>
      have hmore : BeginsValue (Text.join ", " (printAll (w :: ws)) ++ 0x5D :: rest) :=
        ((hbegins w (by simp)).join _ _).append _
      obtain ⟨behind, hv⟩ := hvalue v (by simp)
        (0x2C :: 0x20 :: (Text.join ", " (printAll (w :: ws)) ++ 0x5D :: rest)) offset
        (by simp [EndsValue])
      obtain ⟨offset', htail⟩ := ih (by simp) (fun u hu => hvalue u (by simp [hu]))
        (fun u hu => hbegins u (by simp [hu])) (Nat.le_of_succ_le_succ hfuel) (behind + 2)
      have htext : Text.join ", " (printAll (v :: w :: ws)) ++ 0x5D :: rest =
          print v ++ 0x2C :: 0x20 :: (Text.join ", " (printAll (w :: ws)) ++ 0x5D :: rest) := by
        rw [printAll, printAll, join_cons_cons, List.append_assoc, List.append_assoc]
        rfl
      simp only [htext, hv, bind, Except.bind, Cursor.skipBlanks_of_head (c := 0x2C) (by decide),
        hmore.skipBlanks_space, htail]
      exact ⟨_, rfl⟩

theorem length_le_length_join (separator : Text) {ts : List Text} (h : ∀ t ∈ ts, t ≠ []) :
    ts.length ≤ (Text.join separator ts).length := by
  induction ts with
  | nil => exact Nat.zero_le _
  | cons t ts ih =>
    have ht : 0 < t.length := List.length_pos_of_ne_nil (h t (by simp))
    cases ts with
    | nil => exact ht
    | cons s ts =>
      have hmore := ih fun u hu => h u (List.mem_cons_of_mem t hu)
      rw [join_cons_cons, List.length_append, List.length_append]
      simp only [List.length_cons] at hmore ⊢
      omega

/-- The reader of the elements or members behind a bracket has fuel enough for all of them. -/
theorem length_le_fuel (separator rest : Text) {ts : List Text} (h : ∀ t ∈ ts, t ≠ []) :
    ts.length ≤ (Text.join separator ts ++ rest).length + 1 := by
  have hle := length_le_length_join separator h
  rw [List.length_append]
  omega

theorem printAll_eq_map (vs : List Json) : printAll vs = vs.map print := by
  induction vs with
  | nil => rfl
  | cons v vs ih => rw [printAll, ih, List.map_cons]

theorem reads_arr {levels : Nat} {vs : List Json}
    (hvalue : ∀ v ∈ vs, Reads (readValue levels) (print v) v)
    (hbegins : ∀ v ∈ vs, BeginsValue (print v)) :
    Reads (readValue (levels + 1)) (print (arr vs)) (arr vs) := by
  intro rest offset _
  have htext : print (arr vs) ++ rest = 0x5B :: (Text.join ", " (printAll vs) ++ 0x5D :: rest) := by
    simp [print]
  rw [htext]
  change ∃ offset', readArray (readValue levels)
    ⟨Text.join ", " (printAll vs) ++ 0x5D :: rest, offset + 1⟩ = _
  cases vs with
  | nil => exact ⟨offset + 2, rfl⟩
  | cons v vs =>
    have hbegin : BeginsValue (Text.join ", " (printAll (v :: vs)) ++ 0x5D :: rest) :=
      ((hbegins v (by simp)).join _ _).append _
    have hfuel : (v :: vs).length ≤
        (Text.join ", " (printAll (v :: vs)) ++ 0x5D :: rest).length + 1 := by
      have hne : ∀ t ∈ (v :: vs).map print, t ≠ [] := by
        intro t ht
        obtain ⟨u, hu, rfl⟩ := List.mem_map.mp ht
        obtain ⟨c, tail, hc, -⟩ := hbegins u hu
        simp [hc]
      have hle := length_le_fuel ", " (0x5D :: rest) hne
      rwa [List.length_map, ← printAll_eq_map] at hle
    obtain ⟨offset', hread⟩ := readElements_join rest (List.cons_ne_nil v vs) hvalue hbegins hfuel
      (offset + 1)
    rw [readArray, hbegin.skipBlanks]
    obtain ⟨c, tail, hc, -, hclose, -⟩ := hbegin
    split
    · next h =>
      rw [hc] at h
      exact absurd (List.cons.inj h).1 hclose
    · simp only [hread, bind, Except.bind]
      exact ⟨_, rfl⟩

/-! ## 5. Objects -/

/-- A member as it stands in an object. -/
def memberText (m : Text × Json) : Text := printText m.1 ++ (Text.ofString ": " ++ print m.2)

theorem printMembers_eq_map (ms : List (Text × Json)) : printMembers ms = ms.map memberText := by
  induction ms with
  | nil => rfl
  | cons m ms ih => rw [printMembers, ih, List.map_cons, memberText, List.append_assoc]

theorem beginsValue_memberText (m : Text × Json) : BeginsValue (memberText m) :=
  ⟨0x22, _, rfl, by decide⟩

/-- A member is read as a name and, behind a colon and a space, a value. -/
theorem exists_read_member {value : Reader} {m : Text × Json} (hunpaired : Unpaired m.1)
    (hvalue : Reads value (print m.2) m.2) (hbegins : BeginsValue (print m.2)) (rest : Text)
    (hrest : EndsValue rest) (offset : Nat) :
    ∃ named behind, readText ⟨memberText m ++ rest, offset⟩ =
        .ok (m.1, ⟨0x3A :: 0x20 :: (print m.2 ++ rest), named⟩) ∧
      value (Cursor.skipBlanks ⟨0x20 :: (print m.2 ++ rest), named + 1⟩) =
        .ok (m.2, ⟨rest, behind⟩) := by
  obtain ⟨named, hname⟩ :=
    readText_printText hunpaired (Text.ofString ": " ++ print m.2 ++ rest) offset
  obtain ⟨behind, hv⟩ := hvalue rest (named + 2) hrest
  refine ⟨named, behind, ?_, ?_⟩
  · rw [memberText, List.append_assoc]
    exact hname
  · rw [(hbegins.append rest).skipBlanks_space, hv]

/-- The members up to the closing brace, if their values are read one by one. -/
theorem readMembers_join {value : Reader} (rest : Text) {ms : List (Text × Json)} (hne : ms ≠ [])
    (hunpaired : ∀ m ∈ ms, Unpaired m.1) (hvalue : ∀ m ∈ ms, Reads value (print m.2) m.2)
    (hbegins : ∀ m ∈ ms, BeginsValue (print m.2)) :
    ∀ {fuel : Nat}, ms.length ≤ fuel → ∀ offset, ∃ offset',
      readMembers value fuel ⟨Text.join ", " (ms.map memberText) ++ 0x7D :: rest, offset⟩ =
        .ok (ms, ⟨rest, offset'⟩) := by
  induction ms with
  | nil => exact absurd rfl hne
  | cons m ms ih =>
    intro fuel hfuel offset
    obtain ⟨fuel, rfl⟩ := Nat.exists_eq_add_one_of_ne_zero (n := fuel) (by
      rintro rfl
      simp at hfuel)
    have hmember : ∀ more, (memberText m ++ more).head? = some 0x22 := fun _ => rfl
    rw [readMembers]
    cases ms with
    | nil =>
      obtain ⟨named, behind, hname, hv⟩ := exists_read_member (hunpaired m (by simp))
        (hvalue m (by simp)) (hbegins m (by simp)) (0x7D :: rest) (by simp [EndsValue])
        offset
      simp only [List.map_cons, List.map_nil, Text.join, hmember, ne_eq, not_true_eq_false,
        if_false, hname, bind, Except.bind, pure, Except.pure,
        Cursor.skipBlanks_of_head (c := 0x3A) (by decide), List.head?_cons, Cursor.advance,
        List.drop_one, List.tail_cons, hv, Cursor.skipBlanks_of_head (c := 0x7D) (by decide)]
      exact ⟨_, rfl⟩
    | cons n ns =>
      have hmore : BeginsValue (Text.join ", " ((n :: ns).map memberText) ++ 0x7D :: rest) :=
        ((beginsValue_memberText n).join _ _).append _
      obtain ⟨named, behind, hname, hv⟩ := exists_read_member (hunpaired m (by simp))
        (hvalue m (by simp)) (hbegins m (by simp))
        (0x2C :: 0x20 :: (Text.join ", " ((n :: ns).map memberText) ++ 0x7D :: rest))
        (by simp [EndsValue]) offset
      obtain ⟨offset', htail⟩ := ih (by simp) (fun u hu => hunpaired u (by simp [hu]))
        (fun u hu => hvalue u (by simp [hu])) (fun u hu => hbegins u (by simp [hu]))
        (Nat.le_of_succ_le_succ hfuel) (behind + 2)
      have htext : Text.join ", " ((m :: n :: ns).map memberText) ++ 0x7D :: rest =
          memberText m ++
            0x2C :: 0x20 :: (Text.join ", " ((n :: ns).map memberText) ++ 0x7D :: rest) := by
        rw [List.map_cons, List.map_cons, join_cons_cons, List.append_assoc, List.append_assoc]
        rfl
      simp only [htext, hmember, ne_eq, not_true_eq_false, if_false, hname, bind, Except.bind,
        pure, Except.pure, Cursor.skipBlanks_of_head (c := 0x3A) (by decide), List.head?_cons,
        Cursor.advance, List.drop_one, List.tail_cons, hv,
        Cursor.skipBlanks_of_head (c := 0x2C) (by decide), hmore.skipBlanks_space, htail]
      exact ⟨_, rfl⟩

theorem setMember_of_not_mem {name : Text} {v : Json} {ms : List (Text × Json)}
    (h : name ∉ ms.map Prod.fst) : setMember name v ms = ms ++ [(name, v)] := by
  induction ms with
  | nil => rfl
  | cons m ms ih =>
    rw [List.map_cons, List.mem_cons, not_or] at h
    rw [setMember, if_neg (Ne.symm h.1), ih h.2, List.cons_append]

/-- Members with names of their own are kept as they come. -/
theorem membersOf_of_nodup {ms : List (Text × Json)} (h : (ms.map Prod.fst).Nodup) :
    membersOf ms = ms := by
  have hset : ∀ kept : List (Text × Json), ((kept ++ ms).map Prod.fst).Nodup →
      ms.foldl (fun members m => setMember m.1 m.2 members) kept = kept ++ ms := by
    clear h
    induction ms with
    | nil => simp
    | cons m ms ih =>
      intro kept hkept
      have hnew : m.1 ∉ kept.map Prod.fst := by
        rw [List.map_append, List.map_cons, List.nodup_append] at hkept
        exact fun hmem => hkept.2.2 _ hmem _ List.mem_cons_self rfl
      rw [List.foldl_cons, setMember_of_not_mem hnew, ih _ (by simpa using hkept)]
      simp
  exact hset [] h

theorem reads_obj {levels : Nat} {ms : List (Text × Json)} (hnames : (ms.map Prod.fst).Nodup)
    (hunpaired : ∀ m ∈ ms, Unpaired m.1)
    (hvalue : ∀ m ∈ ms, Reads (readValue levels) (print m.2) m.2)
    (hbegins : ∀ m ∈ ms, BeginsValue (print m.2)) :
    Reads (readValue (levels + 1)) (print (obj ms)) (obj ms) := by
  intro rest offset _
  have htext : print (obj ms) ++ rest =
      0x7B :: (Text.join ", " (ms.map memberText) ++ 0x7D :: rest) := by
    simp [print, printMembers_eq_map]
  rw [htext]
  change ∃ offset', readObject (readValue levels)
    ⟨Text.join ", " (ms.map memberText) ++ 0x7D :: rest, offset + 1⟩ = _
  cases ms with
  | nil => exact ⟨offset + 2, rfl⟩
  | cons m ms =>
    have hbegin : BeginsValue (Text.join ", " ((m :: ms).map memberText) ++ 0x7D :: rest) :=
      ((beginsValue_memberText m).join _ _).append _
    have hfuel : (m :: ms).length ≤
        (Text.join ", " ((m :: ms).map memberText) ++ 0x7D :: rest).length + 1 := by
      have hne : ∀ t ∈ (m :: ms).map memberText, t ≠ [] := by
        intro t ht
        obtain ⟨n, -, rfl⟩ := List.mem_map.mp ht
        exact List.cons_ne_nil _ _
      have hle := length_le_fuel ", " (0x7D :: rest) hne
      rwa [List.length_map] at hle
    obtain ⟨offset', hread⟩ := readMembers_join rest (List.cons_ne_nil m ms) hunpaired hvalue
      hbegins hfuel (offset + 1)
    rw [readObject, hbegin.skipBlanks]
    obtain ⟨c, tail, hc, -, -, hclose, -⟩ := hbegin
    split
    · next h =>
      rw [hc] at h
      exact absurd (List.cons.inj h).1 hclose
    · simp only [hread, bind, Except.bind, membersOf_of_nodup hnames]
      exact ⟨_, rfl⟩

/-! ## 6. Documents -/

theorem reads_str {inner : Reader} {nested : Bool} {t : Text} (ht : Unpaired t) :
    Reads (readWith inner nested) (print (str t)) (str t) := by
  intro rest offset _
  obtain ⟨offset', hread⟩ := readText_printText ht rest offset
  refine ⟨offset', ?_⟩
  change (readText ⟨printText t ++ rest, offset⟩ >>= fun r => pure (str r.1, r.2)) = _
  rw [hread]
  rfl

theorem reads_of_atom {v : Json} {c : CodePoint} {tail : Text} (hv : print v = c :: tail)
    (hc : c ≠ 0x22 ∧ c ≠ 0x5B ∧ c ≠ 0x7B) (h : Reads readAtom (print v) v) (levels : Nat) :
    Reads (readValue levels) (print v) v := by
  intro rest offset hrest
  obtain ⟨offset', hread⟩ := h rest offset hrest
  refine ⟨offset', ?_⟩
  rw [hv, List.cons_append] at hread ⊢
  rw [readValue_atom hc, hread]

/-- **A value is read as it was written**, whatever ends it. -/
theorem Readable.reads {levels : Nat} {v : Json} (h : Readable levels v) :
    Reads (readValue levels) (print v) v := by
  induction h with
  | null levels => exact reads_of_atom (c := 0x6E) rfl (by decide) reads_null levels
  | bool levels b =>
    cases b with
    | false => exact reads_of_atom (c := 0x66) rfl (by decide) (reads_bool false) levels
    | true => exact reads_of_atom (c := 0x74) rfl (by decide) (reads_bool true) levels
  | @int levels n h =>
    exact fun rest offset hrest => (intLiteral_ofInt h).readValue hrest.endsNumber levels offset
  | @str levels t h =>
    cases levels with
    | zero => exact reads_str h
    | succ levels => exact reads_str h
  | arr h ih => exact reads_arr ih fun v hv => beginsValue_print (h v hv)
  | obj hnames hunpaired h ih =>
    exact reads_obj hnames hunpaired ih fun m hm => beginsValue_print (h m hm)

/-- **A written document is read back.** -/
theorem parse_print {v : Json} (h : Readable nestingLimit v) : parse (print v) = .ok v := by
  have hbegin := (beginsValue_print h).skipBlanks 0
  obtain ⟨offset', hread⟩ := h.reads [] 0 endsValue_nil
  rw [List.append_nil] at hread
  rw [parse, hbegin, hread]
  rfl

/-- What begins as a value does has no mark in front of it. -/
theorem ofDocument_text {t : Text} (ht : BeginsValue t) : ofDocument (.text t) = ofText t := by
  obtain ⟨c, tail, rfl, -, -, -, hmark⟩ := ht
  exact if_neg fun h => hmark (Option.some.inj h)

/-- As a document the text is not refused either. -/
theorem ofDocument_print {v : Json} (h : Readable nestingLimit v) :
    ofDocument (.text (print v)) = .ok v := by
  rw [ofDocument_text (beginsValue_print h), ofText, parse_print h]

end Json
end LedgerKeys
