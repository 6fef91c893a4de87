/-
# What the keygen format accepts

A document is accepted just if its value is an array of 64 bytes (`decode_eq_ok_iff`), and of a text
that can be seen in the text itself: it is an array of 64 integers from 0 to 255, in the grammar
of JSON. What is wrong with a value that is refused is told in a fixed order: first that it is no
array, then the first element that is no byte, and the number of the elements only if all of them
are bytes.

A key is made of what was accepted without a further check that could fail, so that its import
fails only as the format does, and never with a failure of the kind `format`.
-/
import LedgerKeys.Proofs.Json.Integers
import LedgerKeys.Proofs.Key.Import

namespace LedgerKeys
namespace Keygen

variable {document : Value} {bs : Bytes} {f : Failure}

/-! ## 1. Elements -/

/-- The element is an integer that a byte can have. -/
def IsByte : Json → Prop
  | .int n => 0 ≤ n ∧ n ≤ 255
  | _ => False

theorem byteOf_of_isByte {v : Json} (h : IsByte v) : ∃ b, byteOf v = .ok b := by
  cases v with
  | int n => exact ⟨_, if_pos h⟩
  | _ => cases h

theorem byteOf_of_not_isByte {v : Json} (h : ¬ IsByte v) :
    byteOf v = .error (.keygenElement v) := by
  cases v with
  | int n => exact if_neg h
  | _ => rfl

/-- Elements that are all bytes are read. -/
theorem exists_mapM_of_isByte {vs : List Json} (h : ∀ v ∈ vs, IsByte v) :
    ∃ bs, vs.mapM byteOf = .ok bs := by
  induction vs with
  | nil => exact ⟨[], rfl⟩
  | cons v vs ih =>
    obtain ⟨b, hb⟩ := byteOf_of_isByte (h v List.mem_cons_self)
    obtain ⟨bs, hbs⟩ := ih fun w hw => h w (List.mem_cons_of_mem v hw)
    refine ⟨b :: bs, ?_⟩
    rw [List.mapM_cons, hb, hbs]
    rfl

/-- **The first element that is no byte is told**, whatever stands behind it. -/
theorem mapM_of_first {before after : List Json} {v : Json} (hbefore : ∀ w ∈ before, IsByte w)
    (hv : ¬ IsByte v) :
    (before ++ v :: after).mapM byteOf = .error (.keygenElement v) := by
  obtain ⟨bs, hbs⟩ := exists_mapM_of_isByte hbefore
  rw [List.mapM_append, hbs, List.mapM_cons, byteOf_of_not_isByte hv]
  rfl

/-! ## 2. Values -/

theorem ofJson_of_not_array {found : Json} (h : ∀ vs, found ≠ .arr vs) :
    ofJson found = .error .keygenNotArray := by
  cases found with
  | arr vs => exact absurd rfl (h vs)
  | _ => rfl

theorem ofJson_of_first {before after : List Json} {v : Json} (hbefore : ∀ w ∈ before, IsByte w)
    (hv : ¬ IsByte v) : ofJson (.arr (before ++ v :: after)) = .error (.keygenElement v) := by
  rw [ofJson, mapM_of_first hbefore hv]
  rfl

theorem ofJson_of_count {vs : List Json} (h : ∀ v ∈ vs, IsByte v) (hcount : vs.length ≠ 64) :
    ofJson (.arr vs) = .error (.keygenCount vs.length) := by
  obtain ⟨bs, hbs⟩ := exists_mapM_of_isByte h
  rw [ofJson, hbs]
  exact if_neg hcount

/-! ## 3. Documents -/

theorem decode_of_ofDocument {found : Json} (h : Json.ofDocument document = .ok found) :
    decode document = ofJson found := by
  rw [decode, h]
  rfl

/-- **A document is accepted if its value is an array of 64 bytes.** -/
theorem decode_eq_ok_iff :
    decode document = .ok bs ↔
      Json.ofDocument document = .ok (arrayOf bs) ∧ bs.length = 64 := by
  rw [decode, except_bind_eq_ok]
  constructor
  · rintro ⟨found, hfound, hbs⟩
    obtain ⟨rfl, hlen⟩ := ofJson_eq_ok_iff.mp hbs
    exact ⟨rescue_eq_ok.mp hfound, hlen⟩
  · rintro ⟨hfound, hlen⟩
    exact ⟨_, rescue_eq_ok.mpr hfound, ofJson_eq_ok_iff.mpr ⟨rfl, hlen⟩⟩

/-- The value of a document is that of its text. -/
theorem ofDocument_of_spelled {t : Text} {v : Json} (ht : Json.Spelled document t) :
    Json.ofDocument document = .ok v ↔ Json.parse t = .ok v := by
  cases ht with
  | text t => exact Json.ofDocument_text_eq_ok_iff
  | bytes h | buffer h =>
    rw [Json.ofDocument, Json.ofBytes, h]
    exact Json.ofText_eq_ok_iff

/-- An array of bytes is read from the texts of arrays of their integers. -/
theorem parse_eq_arrayOf_iff {t : Text} (hlen : bs.length = 64) :
    Json.parse t = .ok (arrayOf bs) ↔ Json.IntArray t (bs.map fun b => (b.toNat : Int)) := by
  have hne : bs.map (fun b => (b.toNat : Int)) ≠ [] := by
    intro hnil
    rw [List.map_eq_nil_iff.mp hnil] at hlen
    cases hlen
  rw [← Json.parse_eq_arr_int_iff hne, List.map_map]
  rfl

/-- **A text is accepted if it is an array of 64 integers that bytes can have.** -/
theorem decode_of_spelled {t : Text} (ht : Json.Spelled document t) :
    decode document = .ok bs ↔
      Json.IntArray t (bs.map fun b => (b.toNat : Int)) ∧ bs.length = 64 := by
  rw [decode_eq_ok_iff, ofDocument_of_spelled ht]
  exact and_congr_left parse_eq_arrayOf_iff

/-! ## 4. Failures -/

/-- No document is refused with the kind of failure for keys. -/
theorem not_isA_format_of_ofDocument (h : Json.ofDocument document = .error f) :
    f.isA .format = false := by
  have htext : ∀ {t}, Json.ofText t = .error f → f.isA .format = false := by
    intro t h
    obtain ⟨r, -, rfl⟩ := Json.ofText_eq_error h
    cases r <;> rfl
  have hbytes : ∀ {bs}, Json.ofBytes bs = .error f → f.isA .format = false := by
    intro bs h
    rw [Json.ofBytes] at h
    split at h
    · exact htext h
    · cases h
      rfl
  cases document with
  | text t =>
    rw [Json.ofDocument] at h
    split at h
    · cases h
      rfl
    · exact htext h
  | bytes bs | buffer bs => exact hbytes h
  | _ =>
    cases h
    rfl

theorem not_isA_format_of_decode (h : decode document = .error f) : f.isA .format = false := by
  rw [decode, except_bind_eq_error] at h
  rcases h with h | ⟨found, -, h⟩
  · obtain ⟨g, hread, ⟨-, rfl⟩ | ⟨-, rfl⟩⟩ := rescue_eq_error.mp h
    · rfl
    · exact not_isA_format_of_ofDocument hread
  · rw [Failure.isA, kind_of_ofJson_eq_error h]
    rfl

/-- A key is refused just as its bytes are, as their number cannot be wrong any more. -/
theorem ofKeygen_eq_error_iff :
    PrivateKey.ofKeygen document = .error f ↔ decode document = .error f :=
  bind_ofLength_eq_error_iff fun _ hbs => (decode_eq_ok_iff.mp hbs).2

/-! ## 5. What is accepted -/

/-- **What is accepted, and what is told of everything else.**  If a document has a value, then it
is accepted as some bytes just if the value is an array of 64 elements and these are the integers
of the bytes in order. Otherwise the failure is of the kind `fileDecode`: that there is no array, or
the first element that is no byte, however many there are, or their number if all of them are bytes.
A text, or the text that bytes spell, is accepted just if it is an array of 64 such integers in the
grammar of JSON. Whatever the document is, its key is refused as its bytes are and never with a
failure of the kind `format`, and what was accepted is accepted again in the text that is written
for it. -/
theorem decode_accepts_exactly (document : Value) :
    (∀ found, Json.ofDocument document = .ok found →
      (∀ bs, decode document = .ok bs ↔
        ∃ vs, found = .arr vs ∧ vs.length = 64 ∧ vs = bs.map fun b => .int b.toNat) ∧
      (∀ f, decode document = .error f → f.kind = .fileDecode) ∧
      ((∀ vs, found ≠ .arr vs) → decode document = .error .keygenNotArray) ∧
      (∀ before v after, found = .arr (before ++ v :: after) → (∀ w ∈ before, IsByte w) →
        ¬ IsByte v → decode document = .error (.keygenElement v)) ∧
      ∀ vs, found = .arr vs → (∀ v ∈ vs, IsByte v) → vs.length ≠ 64 →
        decode document = .error (.keygenCount vs.length)) ∧
    (∀ t bs, Json.Spelled document t →
      (decode document = .ok bs ↔
        Json.IntArray t (bs.map fun b => (b.toNat : Int)) ∧ bs.length = 64)) ∧
    (∀ f, PrivateKey.ofKeygen document = .error f →
      decode document = .error f ∧ f.isA .format = false) ∧
    ∀ bs, decode document = .ok bs →
      ∃ t, encodeValue (.bytes bs) = .ok t ∧ decode (.text t) = .ok bs := by
  refine ⟨fun found hfound => ?value, fun t bs ht => decode_of_spelled ht, fun f h => ?key,
    fun bs h => ?again⟩
  case value =>
    rw [decode_of_ofDocument hfound]
    refine ⟨fun bs => ?_, fun f => kind_of_ofJson_eq_error, ofJson_of_not_array, ?_, ?_⟩
    · rw [ofJson_eq_ok_iff]
      constructor
      · rintro ⟨rfl, hlen⟩
        exact ⟨_, rfl, (List.length_map _).trans hlen, rfl⟩
      · rintro ⟨vs, rfl, hlen, rfl⟩
        exact ⟨rfl, (List.length_map _).symm.trans hlen⟩
    · rintro before v after rfl
      exact ofJson_of_first
    · rintro vs rfl
      exact ofJson_of_count
  case key =>
    have hdecode := ofKeygen_eq_error_iff.mp h
    exact ⟨hdecode, not_isA_format_of_decode hdecode⟩
  case again => exact ⟨encode bs, rfl, (decode_encode (decode_eq_ok_iff.mp h).2).1⟩

/-- A zero with a sign in front of it is accepted, and so is white space. A word is told even where
elements are missing and a number that is too large stands behind it. -/
theorem decode_accepts_exactly_signed_zero :
    let signed : Text := Text.ofString " [-0" ++
      (List.replicate 63 (Text.ofString ",\n1")).flatten ++ Text.ofString " ]"
    let bs : Bytes := 0 :: List.replicate 63 1
    let mixed : Json := .arr [.int 1, .bool true, .int 300]
    let short : Json := .arr [.int 1, .int 2]
    (decode (.text signed) = .ok bs ∧ Json.IntArray signed (bs.map fun b => (b.toNat : Int)) ∧
        ∃ t, encodeValue (.bytes bs) = .ok t ∧ t ≠ signed ∧ decode (.text t) = .ok bs) ∧
      decode (.text (Json.print mixed)) = .error (.keygenElement (.bool true)) ∧
      decode (.text (Json.print short)) = .error (.keygenCount 2) ∧
      decode (.text (Json.print (.int 7))) = .error .keygenNotArray := by
  intro signed bs mixed short
  have hsigned : decode (.text signed) = .ok bs := except_eq_ok_of_toOption (by decide +kernel)
  obtain ⟨-, htext, -, hagain⟩ := decode_accepts_exactly (.text signed)
  obtain ⟨t, ht, hdecode⟩ := hagain bs hsigned
  have hflat : ∀ vs : List Json, (∀ v ∈ vs, Json.Readable 989 v) →
      Json.ofDocument (.text (Json.print (.arr vs))) = .ok (.arr vs) := fun vs h =>
    Json.ofDocument_print (Json.Readable.arr h)
  have hmixed : Json.ofDocument (.text (Json.print mixed)) = .ok mixed := by
    refine hflat _ ?_
    simp only [List.forall_mem_cons]
    exact ⟨.int (by decide), .bool 989 true, .int (by decide), nofun⟩
  have hshort : Json.ofDocument (.text (Json.print short)) = .ok short := by
    refine hflat _ ?_
    simp only [List.forall_mem_cons]
    exact ⟨.int (by decide), .int (by decide), nofun⟩
  have hseven : Json.ofDocument (.text (Json.print (.int 7))) = .ok (.int 7) :=
    Json.ofDocument_print (.int (by decide))
  refine ⟨⟨hsigned, ((htext signed bs (.text signed)).mp hsigned).1, t, ht, ?_, hdecode⟩,
    ?_, ?_, ?_⟩
  · cases ht
    decide +kernel
  · obtain ⟨-, -, -, hfirst, -⟩ := (decode_accepts_exactly (.text (Json.print mixed))).1 _ hmixed
    exact hfirst [.int 1] (.bool true) [.int 300] rfl (by simp [IsByte]) nofun
  · obtain ⟨-, -, -, -, hcount⟩ := (decode_accepts_exactly (.text (Json.print short))).1 _ hshort
    exact hcount _ rfl (by simp [IsByte]) (by decide)
  · exact ((decode_accepts_exactly (.text (Json.print (.int 7)))).1 _ hseven).2.2.1 nofun

end Keygen
end LedgerKeys
