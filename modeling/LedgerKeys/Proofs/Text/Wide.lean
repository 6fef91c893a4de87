/-
# UTF-16 and UTF-32 that are read as they were written

The bytes of a text in a wide encoding are read back to that text. In UTF-32 this holds of every
text. In UTF-16 it holds of every text in which no low surrogate follows a high one: the units of a
text are its code points, and two surrogates for each one that does not fit a unit, and the reader
joins units just as escapes in JSON are joined (`joinPairs_eq`).
-/
import LedgerKeys.Proofs.Json.Tokens
import LedgerKeys.Proofs.Text.Utf8

namespace LedgerKeys

/-! ## 1. UTF-16 -/

namespace Utf16

/-- A unit is read from its two bytes. -/
theorem exists_encodeUnit_eq (order : ByteOrder) {u : CodePoint} (hu : u.val < 0x10000) :
    ∃ a b, encodeUnit order u.val = [a, b] ∧ unit order a b = u := by
  have hhigh : (UInt8.ofNat (u.val / 256)).toNat = u.val / 256 :=
    Utf8.toNat_ofNat_of_lt (by omega)
  have hlow : (UInt8.ofNat u.val).toNat = u.val % 256 := UInt8.toNat_ofNat'
  cases order with
  | big =>
    refine ⟨_, _, rfl, Fin.ext ?_⟩
    simp only [unit, hhigh, hlow]
    omega
  | little =>
    refine ⟨_, _, rfl, Fin.ext ?_⟩
    simp only [unit, hhigh, hlow]
    omega

/-- The units are read one after the other. -/
theorem unitsFrom_flatMap (order : ByteOrder) {us : Text} (hus : ∀ u ∈ us, u.val < 0x10000)
    (pos : Nat) : unitsFrom order pos (us.flatMap fun u => encodeUnit order u.val) = .ok us := by
  induction us generalizing pos with
  | nil => rfl
  | cons u us ih =>
    obtain ⟨a, b, hbytes, hunit⟩ := exists_encodeUnit_eq order (hus u List.mem_cons_self)
    rw [List.flatMap_cons, hbytes, List.cons_append, List.cons_append, List.nil_append, unitsFrom,
      ih fun v hv => hus v (List.mem_cons_of_mem u hv), hunit]
    rfl

/-- The units of a code point. -/
def unitsOf (c : CodePoint) : Text :=
  if c.val < 0x10000 then [c] else [Json.highHalf c, Json.lowHalf c]

theorem encodePoint_eq (order : ByteOrder) (c : CodePoint) :
    encodePoint order c = (unitsOf c).flatMap fun u => encodeUnit order u.val := by
  obtain ⟨hhigh, hlow⟩ := Json.val_halves c
  rw [encodePoint, unitsOf]
  split
  · simp
  · simp [hhigh, hlow]

theorem lt_of_mem_unitsOf {c u : CodePoint} (hu : u ∈ unitsOf c) : u.val < 0x10000 := by
  have hlt := c.isLt
  obtain ⟨hhigh, hlow⟩ := Json.val_halves c
  rw [unitsOf] at hu
  split at hu
  · next hc => exact List.mem_singleton.mp hu ▸ hc
  · simp only [List.mem_cons, List.not_mem_nil, or_false] at hu
    rcases hu with rfl | rfl <;> omega

/-- Units are joined as escapes are. -/
theorem joinPairs_eq (us : Text) :
    joinPairs us = Json.joinEscapes (us.map fun u => ⟨u, true⟩) := by
  fun_induction joinPairs us with
  | case1 high low rest hpair ih =>
    rw [ih, List.map_cons, List.map_cons, Json.joinEscapes, if_pos ⟨rfl, hpair.1, rfl, hpair.2⟩]
  | case2 high low rest hpair ih =>
    conv_rhs =>
      rw [List.map_cons, List.map_cons, Json.joinEscapes,
        if_neg fun hall => hpair ⟨hall.2.1, hall.2.2.2⟩]
    rw [ih, List.map_cons]
  | case3 t ht =>
    cases t with
    | nil => rfl
    | cons u us =>
      cases us with
      | nil => rfl
      | cons v us => exact absurd rfl (ht u v us)

/-- The units of a text spell it. -/
theorem spells_unitsOf (t : Text) :
    Json.Spells ((t.flatMap unitsOf).map fun u => ⟨u, true⟩) t := by
  induction t with
  | nil => exact .nil
  | cons c t ih =>
    rw [List.flatMap_cons, List.map_append, unitsOf]
    split
    · next hc => exact .unit true hc ih
    · next hc => exact .pair (Nat.not_lt.mp hc) ih

/-- **A text without pairs of surrogates is read from its bytes.** -/
theorem decodeFrom_encodeAll (order : ByteOrder) {t : Text} (ht : Json.Unpaired t) (pos : Nat) :
    decodeFrom order pos (encodeAll order t) = .ok t := by
  have hunits : encodeAll order t =
      (t.flatMap unitsOf).flatMap fun u => encodeUnit order u.val := by
    rw [List.flatMap_assoc]
    exact List.flatMap_congr fun c _ => encodePoint_eq order c
  have hsmall : ∀ u ∈ t.flatMap unitsOf, u.val < 0x10000 := by
    intro u hu
    obtain ⟨c, -, hu⟩ := List.mem_flatMap.mp hu
    exact lt_of_mem_unitsOf hu
  rw [decodeFrom, hunits, unitsFrom_flatMap order hsmall]
  change Except.ok (joinPairs _) = _
  rw [joinPairs_eq, Json.joinEscapes_of_spells (spells_unitsOf t) ht]

end Utf16

/-! ## 2. UTF-32 -/

namespace Utf32

/-- A code point is read from its four bytes. -/
theorem exists_encodePoint_eq (order : ByteOrder) (p : CodePoint) :
    ∃ a b c d, encodePoint order p = [a, b, c, d] ∧ unit order a b c d = p.val := by
  have hvalue : Bytes.toNatLE (Bytes.ofNatLE 4 p.val) = p.val := by
    have hlt := p.isLt
    rw [Bytes.toNatLE_ofNatLE]
    exact Nat.mod_eq_of_lt (by omega)
  cases order with
  | big => exact ⟨_, _, _, _, rfl, hvalue⟩
  | little => exact ⟨_, _, _, _, rfl, hvalue⟩

/-- **Every text is read from its bytes.** -/
theorem decodeFrom_encodeAll (order : ByteOrder) (t : Text) (pos : Nat) :
    decodeFrom order pos (encodeAll order t) = .ok t := by
  induction t generalizing pos with
  | nil => rfl
  | cons p t ih =>
    obtain ⟨a, b, c, d, hbytes, hunit⟩ := exists_encodePoint_eq order p
    have hlt : unit order a b c d < 0x110000 := hunit ▸ p.isLt
    change decodeFrom order pos (encodePoint order p ++ encodeAll order t) = _
    rw [hbytes]
    simp only [List.cons_append, List.nil_append]
    rw [decodeFrom, dif_pos hlt, ih]
    exact congrArg (fun q => Except.ok (q :: t)) (Fin.ext hunit)

end Utf32

end LedgerKeys
