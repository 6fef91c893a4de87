/-
# Written documents in bytes

A written document is plain (`Plain`): it holds printable ASCII and nothing else, whatever the
strings in it are. So its bytes in UTF-8 cannot be taken for another encoding, and from them it is
read back like from the text itself (`ofDocument_encodeAll_print`).
-/
import LedgerKeys.Proofs.Json.RoundTrip
import LedgerKeys.Proofs.Text.Utf8

namespace LedgerKeys
namespace Json

/-! ## 1. Plain texts -/

/-- All of the text is printable ASCII. -/
def Plain (t : Text) : Prop := ∀ c ∈ t, 0x20 ≤ c.val ∧ c.val ≤ 0x7E

instance (t : Text) : Decidable (Plain t) := List.decidableBAll _ t

theorem plain_nil : Plain [] := by decide

theorem Plain.append {s t : Text} (hs : Plain s) (ht : Plain t) : Plain (s ++ t) := by
  intro c hc
  rcases List.mem_append.mp hc with hc | hc
  · exact hs c hc
  · exact ht c hc

theorem plain_join {separator : Text} (hseparator : Plain separator) {ts : List Text}
    (h : ∀ t ∈ ts, Plain t) : Plain (Text.join separator ts) := by
  induction ts with
  | nil => exact plain_nil
  | cons t ts ih =>
    have ht : Plain t := h t (by simp)
    cases ts with
    | nil => exact ht
    | cons s ts =>
      rw [join_cons_cons]
      exact ht.append (hseparator.append (ih fun u hu => h u (List.mem_cons_of_mem t hu)))

theorem plain_of_isDigit {t : Text} (h : ∀ c ∈ t, isDigit c = true) : Plain t := by
  intro c hc
  by_contra hout
  have hrange : ¬ (0x30 ≤ c.val ∧ c.val ≤ 0x39) := by omega
  have hdigit := h c hc
  simp [isDigit, CodePoint.digitValue?, hrange] at hdigit

theorem plain_ofNat (n : Nat) : Plain (Text.ofNat n) := plain_of_isDigit isDigit_of_mem_ofNat

theorem plain_ofInt (n : Int) : Plain (Text.ofInt n) := by
  cases n with
  | ofNat n => exact plain_ofNat n
  | negSucc n => exact Plain.append (s := [0x2D]) (by decide) (plain_ofNat (n + 1))

theorem plain_digitChar : ∀ d < 16, Plain [CodePoint.ofChar (Nat.digitChar d)] := by decide

theorem plain_hex (width n : Nat) : Plain (Text.hex width n) := by
  induction width generalizing n with
  | zero => exact plain_nil
  | succ width ih => exact (ih (n / 16)).append (plain_digitChar _ (Nat.mod_lt n (by decide)))

theorem plain_unitEscape (u : Nat) : Plain (unitEscape u) :=
  Plain.append (by decide) (plain_hex 4 u)

theorem plain_escapePoint (c : CodePoint) : Plain (escapePoint c) := by
  unfold escapePoint
  split_ifs with hquote hslash hbreak hreturn htab hfeed hback hplain hunit
  · decide
  · decide
  · decide
  · decide
  · decide
  · decide
  · decide
  · rintro d hd
    rw [List.mem_singleton.mp hd]
    exact hplain
  · exact plain_unitEscape _
  · exact (plain_unitEscape _).append (plain_unitEscape _)

theorem plain_printText (t : Text) : Plain (printText t) := by
  refine Plain.append (Plain.append (by decide) ?_) (by decide)
  intro c hc
  obtain ⟨d, -, hd⟩ := List.mem_flatMap.mp hc
  exact plain_escapePoint d c hd

/-! ## 2. Documents -/

/-- **A written document is plain.** -/
theorem plain_print {levels : Nat} {v : Json} (h : Readable levels v) : Plain (print v) := by
  induction h with
  | null => decide
  | bool levels b => cases b <;> decide
  | @int levels n h => exact plain_ofInt n
  | @str levels t h => exact plain_printText t
  | @arr levels vs h ih =>
    rw [print, printAll_eq_map]
    refine Plain.append (Plain.append (by decide) (plain_join (by decide) ?_)) (by decide)
    intro t ht
    obtain ⟨v, hv, rfl⟩ := List.mem_map.mp ht
    exact ih v hv
  | @obj levels ms hnames hunpaired h ih =>
    rw [print, printMembers_eq_map]
    refine Plain.append (Plain.append (by decide) (plain_join (by decide) ?_)) (by decide)
    intro t ht
    obtain ⟨m, hm, rfl⟩ := List.mem_map.mp ht
    exact (plain_printText m.1).append (Plain.append (by decide) (ih m hm))

/-- **From its bytes a written document is read back.** -/
theorem ofDocument_encodeAll_print {v : Json} (h : Readable nestingLimit v) :
    ofDocument (.bytes (Utf8.encodeAll (print v))) = .ok v := by
  have hplain := plain_print h
  have hzero : 0 ∉ print v := fun hmem => absurd (hplain 0 hmem).1 (by decide)
  have hmark : (print v).head? ≠ some Encoding.byteOrderMark := fun hhead =>
    absurd (hplain _ (List.mem_of_head? hhead)).2 (by decide)
  rw [ofDocument, ofBytes, Encoding.detectAndDecode_encodeAll hzero hmark]
  dsimp only
  rw [ofText, parse_print h]

end Json
end LedgerKeys
