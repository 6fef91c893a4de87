/-
# What was read

A value that was read shows where it came from: around it there was nothing but white space
(`parse_eq_ok_iff`), and its sort tells the reader that it came from (`readWith_cases`). A string
was read up to its closing quote, and what stood in between was an escape, which is spelled in
ASCII, or is in the string itself.
-/
import LedgerKeys.Proofs.Json.Limits

namespace LedgerKeys
namespace Json

/-! ## 1. White space -/

/-- There is nothing but white space. -/
def Blanks (t : Text) : Prop := ∀ c ∈ t, isBlank c = true

/-- Nothing that is no blank is skipped. -/
theorem Cursor.skipBlanks_append {run rest : Text} (hrun : Blanks run)
    (hrest : ∀ c ∈ rest.head?, isBlank c = false) (offset : Nat) :
    Cursor.skipBlanks ⟨run ++ rest, offset⟩ = ⟨rest, offset + run.length⟩ := by
  rw [Cursor.skipBlanks, Cursor.span_append hrun hrest]

/-- What is skipped is white space. -/
theorem Cursor.exists_blanks (c : Cursor) :
    ∃ run, Blanks run ∧ c.rest = run ++ c.skipBlanks.rest := by
  refine ⟨c.rest.takeWhile isBlank, fun d hd => List.mem_takeWhile_imp hd, ?_⟩
  exact List.takeWhile_append_dropWhile.symm

/-- Nothing is left just if there was nothing but white space. -/
theorem Cursor.skipBlanks_eq_nil_iff {c : Cursor} : c.skipBlanks.rest = [] ↔ Blanks c.rest :=
  List.dropWhile_eq_nil_iff

/-- A value is read from a text if there is nothing but white space around it. -/
theorem parse_eq_ok_iff {t : Text} {v : Json} :
    parse t = .ok v ↔
      ∃ behind : Cursor, readValue nestingLimit (Cursor.skipBlanks ⟨t, 0⟩) = .ok (v, behind) ∧
        Blanks behind.rest := by
  rw [parse, except_bind_eq_ok]
  constructor
  · rintro ⟨⟨w, behind⟩, hvalue, hend⟩
    dsimp only at hend
    split at hend
    · next hempty =>
      cases hend
      exact ⟨behind, hvalue, Cursor.skipBlanks_eq_nil_iff.mp (List.isEmpty_iff.mp hempty)⟩
    · cases hend
  · rintro ⟨behind, hvalue, hblanks⟩
    refine ⟨(v, behind), hvalue, ?_⟩
    dsimp only
    rw [Cursor.skipBlanks_eq_nil_iff.mpr hblanks]
    rfl

/-! ## 2. The sort of a value -/

variable {c c' : Cursor}

/-- Words and numbers are no strings, arrays or objects. -/
def IsAtom : Json → Prop
  | .str _ | .arr _ | .obj _ => False
  | _ => True

theorem isAtom_of_mem_words : ∀ w ∈ words, IsAtom w.2 := by
  intro w hw
  simp only [words, List.mem_cons, List.not_mem_nil, or_false] at hw
  rcases hw with rfl | rfl | rfl | rfl | rfl | rfl <;> trivial

theorem isAtom_of_readAtom {v : Json} (h : readAtom c = .ok (v, c')) : IsAtom v := by
  unfold readAtom at h
  split at h
  · next word value hfind =>
    cases h
    exact isAtom_of_mem_words _ (List.mem_of_find?_eq_some hfind)
  · unfold readNumber at h
    dsimp only at h
    split_ifs at h <;> cases h <;> trivial

theorem exists_arr_of_readArray {value : Reader} {v : Json} (h : readArray value c = .ok (v, c')) :
    ∃ vs, v = arr vs := by
  unfold readArray at h
  dsimp only at h
  split at h
  · cases h
    exact ⟨[], rfl⟩
  · obtain ⟨⟨vs, behind⟩, -, h⟩ := except_bind_eq_ok.mp h
    cases h
    exact ⟨vs, rfl⟩

theorem exists_obj_of_readObject {value : Reader} {v : Json}
    (h : readObject value c = .ok (v, c')) : ∃ ms, v = obj ms := by
  unfold readObject at h
  dsimp only at h
  split at h
  · cases h
    exact ⟨[], rfl⟩
  · obtain ⟨⟨ms, behind⟩, -, h⟩ := except_bind_eq_ok.mp h
    cases h
    exact ⟨membersOf ms, rfl⟩

/-- **The sort of a value shows which reader it came from**, and that shows how its text begins. -/
theorem readWith_cases {inner : Reader} {nested : Bool} {v : Json}
    (h : readWith inner nested c = .ok (v, c')) :
    (∃ t rest, v = str t ∧ c.rest = 0x22 :: rest ∧ readText c = .ok (t, c')) ∨
      (∃ vs rest, v = arr vs ∧ c.rest = 0x5B :: rest ∧
        readArray inner (c.advance 1) = .ok (v, c')) ∨
      (∃ ms, v = obj ms) ∨ IsAtom v ∧ readAtom c = .ok (v, c') := by
  unfold readWith at h
  split at h
  · next rest hrest =>
    obtain ⟨⟨t, behind⟩, hread, h⟩ := except_bind_eq_ok.mp h
    cases h
    exact .inl ⟨t, rest, rfl, hrest, hread⟩
  · next rest hrest =>
    split at h
    · obtain ⟨vs, hvs⟩ := exists_arr_of_readArray h
      exact .inr (.inl ⟨vs, rest, hvs, hrest, h⟩)
    · cases h
  · split at h
    · exact .inr (.inr (.inl (exists_obj_of_readObject h)))
    · cases h
  · exact .inr (.inr (.inr ⟨isAtom_of_readAtom h, h⟩))

/-- No value begins with a byte order mark. -/
theorem head?_ne_of_parse {t : Text} {v : Json} (h : parse t = .ok v) :
    t.head? ≠ some Encoding.byteOrderMark := by
  intro hhead
  obtain ⟨rest, rfl⟩ := List.head?_eq_some_iff.mp hhead
  have hword : ∀ w ∈ words,
      Text.startsWith (Encoding.byteOrderMark :: rest) w.1 = false := by
    intro w hw
    simp only [words, List.mem_cons, List.not_mem_nil, or_false] at hw
    rcases hw with rfl | rfl | rfl | rfl | rfl | rfl <;> rfl
  have hnumber : readNumber ⟨Encoding.byteOrderMark :: rest, 0⟩ = .error (.flaw .value 0) := rfl
  obtain ⟨behind, hvalue, -⟩ := parse_eq_ok_iff.mp h
  rw [Cursor.skipBlanks_of_head (by decide), readValue_atom (by decide),
    readAtom_of_no_word hword, hnumber] at hvalue
  cases hvalue

theorem ofText_eq_ok_iff {t : Text} {v : Json} : ofText t = .ok v ↔ parse t = .ok v := by
  rw [ofText]
  cases parse t <;> simp

/-- So a document that is a text is read just as the text is. -/
theorem ofDocument_text_eq_ok_iff {t : Text} {v : Json} :
    ofDocument (.text t) = .ok v ↔ parse t = .ok v := by
  rw [ofDocument]
  split
  · next hmark => exact ⟨nofun, fun h => absurd hmark (head?_ne_of_parse h)⟩
  · exact ofText_eq_ok_iff

/-! ## 3. Strings -/

/-- A character of ASCII that is not zero. -/
def IsToken (c : CodePoint) : Prop := 0 < c.val ∧ c.val < 0x80

instance : DecidablePred IsToken := fun _ => inferInstanceAs (Decidable (_ ∧ _))

theorem isToken_of_shortEscape? {e point : CodePoint} (h : shortEscape? e = some point) :
    IsToken e := by
  unfold shortEscape? at h
  split_ifs at h with hself hback hfeed hbreak hreturn htab
  · rcases hself with rfl | rfl | rfl <;> decide
  · exact hback ▸ by decide
  · exact hfeed ▸ by decide
  · exact hbreak ▸ by decide
  · exact hreturn ▸ by decide
  · exact htab ▸ by decide

theorem isToken_of_hexValue? {d : CodePoint} {n : Nat} (h : d.hexValue? = some n) : IsToken d := by
  unfold CodePoint.hexValue? at h
  unfold IsToken
  split_ifs at h with hdigit hupper hlower <;> omega

theorem isToken_of_hexPoint? {h1 h2 h3 h4 point : CodePoint}
    (h : hexPoint? h1 h2 h3 h4 = some point) : ∀ c ∈ [h1, h2, h3, h4], IsToken c := by
  unfold hexPoint? at h
  split at h
  · next a b c d ha hb hc hd =>
    simp only [List.forall_mem_cons]
    exact ⟨isToken_of_hexValue? ha, isToken_of_hexValue? hb, isToken_of_hexValue? hc,
      isToken_of_hexValue? hd, nofun⟩
  · cases h

/-- What is read as it stands is in the string. -/
theorem mem_joinEscapes {c : CodePoint} {ps : List Piece} (h : ⟨c, false⟩ ∈ ps) :
    c ∈ joinEscapes ps := by
  fun_induction joinEscapes ps with
  | case1 high low rest hpair ih =>
    have hhigh : (⟨c, false⟩ : Piece) ≠ high := fun heq => by simp [← heq] at hpair
    have hlow : (⟨c, false⟩ : Piece) ≠ low := fun heq => by simp [← heq] at hpair
    obtain hmem := List.mem_of_ne_of_mem hlow (List.mem_of_ne_of_mem hhigh h)
    exact List.mem_cons_of_mem _ (ih hmem)
  | case2 high low rest hpair ih =>
    rcases List.mem_cons.mp h with rfl | hmem
    · exact List.mem_cons_self
    · exact List.mem_cons_of_mem _ (ih hmem)
  | case3 last =>
    rw [List.mem_singleton] at h ⊢
    exact congrArg Piece.point h
  | case4 => cases h

/-- Characters in front of what is read of a string, if they make one piece. -/
theorem exists_body_cons (front : Text) {rest : Text} {piece : Piece} {ps : List Piece}
    {x : Except Refusal (List Piece × Cursor)} (h : prepend piece <$> x = .ok (ps, c'))
    (hfront : ∀ c ∈ front, IsToken c ∨ ⟨c, false⟩ = piece)
    (ih : ∀ {ps}, x = .ok (ps, c') →
      ∃ body, rest = body ++ 0x22 :: c'.rest ∧ ∀ c ∈ body, IsToken c ∨ ⟨c, false⟩ ∈ ps) :
    ∃ body, front ++ rest = body ++ 0x22 :: c'.rest ∧
      ∀ c ∈ body, IsToken c ∨ ⟨c, false⟩ ∈ ps := by
  obtain ⟨⟨ps', last⟩, hread, hcons⟩ := except_map_eq_ok.mp h
  cases hcons
  obtain ⟨body, hrest, hbody⟩ := ih hread
  refine ⟨front ++ body, by rw [hrest, List.append_assoc], fun c hc => ?_⟩
  rcases List.mem_append.mp hc with hc | hc
  · refine (hfront c hc).imp_right fun heq => ?_
    rw [heq]
    exact List.mem_cons_self
  · exact (hbody c hc).imp_right (List.mem_cons_of_mem piece)

/-- A string is read up to its closing quote, and each character in it belongs to an escape or is a
piece of its own. -/
theorem exists_body_of_readString {start offset : Nat} {t : Text} {ps : List Piece}
    (h : readString start offset t = .ok (ps, c')) :
    ∃ body, t = body ++ 0x22 :: c'.rest ∧ ∀ c ∈ body, IsToken c ∨ ⟨c, false⟩ ∈ ps := by
  fun_induction readString start offset t generalizing ps with
  | case2 =>
    cases h
    exact ⟨[], rfl, List.forall_mem_nil _⟩
  | case4 offset c rest hquote hcontrol hslash ih =>
    refine exists_body_cons [c] h (fun d hd => .inr ?_) ih
    rw [List.mem_singleton.mp hd]
  | case6 offset c hquote hcontrol hslash h1 h2 h3 h4 next rest point hpoint ih =>
    obtain rfl : c = 0x5C := not_ne_iff.mp hslash
    refine exists_body_cons [0x5C, 0x75, h1, h2, h3, h4] h (fun d hd => .inl ?_) ih
    rcases List.mem_cons.mp hd with rfl | hd
    · decide
    · rcases List.mem_cons.mp hd with rfl | hd
      · decide
      · exact isToken_of_hexPoint? hpoint d hd
  | case9 offset c hquote hcontrol hslash e rest he point hpoint ih =>
    obtain rfl : c = 0x5C := not_ne_iff.mp hslash
    refine exists_body_cons [0x5C, e] h (fun d hd => .inl ?_) ih
    rcases List.mem_cons.mp hd with rfl | hd
    · decide
    · rw [List.mem_singleton.mp hd]
      exact isToken_of_shortEscape? hpoint
  | case1 | case3 | case5 | case7 | case8 | case10 => cases h

/-- **What is read as a string stands between quotes**, and its text has no character that is
neither of ASCII nor in the string. -/
theorem exists_body_of_parse {t s : Text} (h : parse t = .ok (str s)) :
    ∃ before body after, Blanks before ∧ Blanks after ∧
      t = before ++ 0x22 :: (body ++ 0x22 :: after) ∧ ∀ c ∈ body, IsToken c ∨ c ∈ s := by
  obtain ⟨behind, hvalue, hafter⟩ := parse_eq_ok_iff.mp h
  obtain ⟨before, hbefore, hstart⟩ := Cursor.exists_blanks ⟨t, 0⟩
  obtain ⟨u, rest, hv, hopen, hread⟩ | ⟨vs, rest, hv, -⟩ | ⟨ms, hv⟩ | ⟨hatom, -⟩ :=
    readWith_cases hvalue
  · cases hv
    unfold readText at hread
    obtain ⟨⟨ps, last⟩, hpieces, hread⟩ := except_bind_eq_ok.mp hread
    obtain ⟨hs, rfl⟩ := Prod.mk.inj (Except.ok.inj hread)
    obtain ⟨body, hrest, hbody⟩ := exists_body_of_readString hpieces
    rw [hopen] at hrest
    change rest = _ at hrest
    change t = _ at hstart
    refine ⟨before, body, _, hbefore, hafter, ?_, fun c hc => ?_⟩
    · rw [hstart, hopen, hrest]
    · exact (hbody c hc).imp_right fun hmem => hs ▸ mem_joinEscapes hmem
  · cases hv
  · cases hv
  · cases hatom

end Json
end LedgerKeys
