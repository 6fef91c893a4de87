/-
# Documents in every encoding

The bytes of a text tell the encoding that they are in, with a mark in front of them or without
(`Recognizable.detectAndDecode`), if the text is recognizable: it begins with a character of ASCII,
is not over with it, and has neither zeros nor surrogates in it.
-/
import LedgerKeys.Proofs.Json.Encoded
import LedgerKeys.Proofs.Json.Integers
import LedgerKeys.Proofs.Text.Wide

namespace LedgerKeys

/-! ## 1. First bytes -/

section FirstBytes

variable {a : CodePoint} (ha : Json.IsToken a)
include ha

/-- The byte of a character of ASCII is not zero, and no mark begins with it. -/
theorem Json.IsToken.byte_ne :
    UInt8.ofNat a.val ≠ 0 ∧ UInt8.ofNat a.val ≠ 0xFE ∧ UInt8.ofNat a.val ≠ 0xFF ∧
      UInt8.ofNat a.val ≠ 0xEF := by
  obtain ⟨hpos, hlt⟩ := ha
  have hval : (UInt8.ofNat a.val).toNat = a.val := Utf8.toNat_ofNat_of_lt (by omega)
  have hne : ∀ b : UInt8, b.toNat = 0 ∨ 0x80 ≤ b.toNat → UInt8.ofNat a.val ≠ b := by
    rintro b hb rfl
    omega
  exact ⟨hne 0 (by decide), hne 0xFE (by decide), hne 0xFF (by decide), hne 0xEF (by decide)⟩

theorem Utf8.encodePoint_of_isToken : encodePoint a = [UInt8.ofNat a.val] := by
  obtain ⟨-, hlt⟩ := ha
  simp [encodePoint, hlt]

theorem Utf16.encodePoint_of_isToken :
    encodePoint .big a = [0, UInt8.ofNat a.val] ∧
      encodePoint .little a = [UInt8.ofNat a.val, 0] := by
  obtain ⟨-, hlt⟩ := ha
  have hunit : a.val < 0x10000 := by omega
  have hhigh : a.val / 256 = 0 := by omega
  simp [encodePoint, hunit, encodeUnit, hhigh]

theorem Utf32.encodePoint_of_isToken :
    encodePoint .big a = [0, 0, 0, UInt8.ofNat a.val] ∧
      encodePoint .little a = [UInt8.ofNat a.val, 0, 0, 0] := by
  obtain ⟨-, hlt⟩ := ha
  have hhigh : a.val / 256 = 0 := by omega
  simp [encodePoint, Bytes.ofNatLE, hhigh]

end FirstBytes

/-- The first two bytes of a code point in UTF-16 are not both zero. -/
theorem Utf16.exists_encodePoint_eq_cons (order : ByteOrder) {b : CodePoint} (hb : b ≠ 0) :
    ∃ y z tail, encodePoint order b = y :: z :: tail ∧ ¬ (y = 0 ∧ z = 0) := by
  have hunits : ∃ u us, unitsOf b = u :: us ∧ u.val ≠ 0 := by
    have hhigh := (Json.val_halves b).1
    rw [unitsOf]
    split
    · exact ⟨b, [], rfl, fun h => hb (Fin.ext h)⟩
    · exact ⟨_, _, rfl, by omega⟩
  obtain ⟨u, us, hus, hu⟩ := hunits
  obtain ⟨y, z, hbytes, hunit⟩ :=
    exists_encodeUnit_eq order (lt_of_mem_unitsOf (c := b) (u := u) (by simp [hus]))
  refine ⟨y, z, us.flatMap fun u => encodeUnit order u.val, ?_, ?_⟩
  · rw [encodePoint_eq, hus, List.flatMap_cons, hbytes]
    rfl
  · rintro ⟨rfl, rfl⟩
    refine hu ?_
    rw [← hunit]
    cases order <;> rfl

/-! ## 2. Which encoding bytes are in -/

namespace Encoding

theorem ofMark?_cons {p : UInt8} (hp : p ≠ 0 ∧ p ≠ 0xFE ∧ p ≠ 0xFF ∧ p ≠ 0xEF) (bs : Bytes) :
    ofMark? (p :: bs) = none := by
  obtain ⟨hnull, hfe, hff, hef⟩ := hp
  simp [ofMark?, all, mark, List.isPrefixOf, hnull.symm, hfe.symm, hff.symm, hef.symm]

theorem ofMark?_zero_cons {p : UInt8} (hp : p ≠ 0) (bs : Bytes) :
    ofMark? (0 :: p :: bs) = none := by
  simp [ofMark?, all, mark, List.isPrefixOf, hp.symm]

theorem ofMark?_zeros (bs : Bytes) : ofMark? (0 :: 0 :: 0 :: bs) = none := by
  simp [ofMark?, all, mark, List.isPrefixOf]

/-- A mark is taken for no other one. Only that of UTF-16 is the beginning of another, and it takes
two zeros to go on with it. -/
theorem ofMark?_mark_append (e : Encoding) {bs : Bytes}
    (hbs : e = utf16 .little → bs.head? ≠ some 0) :
    ofMark? (e.mark ++ bs) = some e := by
  cases e with
  | utf8 => simp [ofMark?, all, mark, List.isPrefixOf]
  | utf32 order => cases order <;> simp [ofMark?, all, mark, List.isPrefixOf]
  | utf16 order =>
    cases order with
    | big => simp [ofMark?, all, mark, List.isPrefixOf]
    | little =>
      cases bs with
      | nil => rfl
      | cons p bs =>
        have hp : p ≠ 0 := fun h => hbs rfl (congrArg some h)
        simp [ofMark?, all, mark, List.isPrefixOf, hp.symm]

theorem ofZeros_zero_cons {p : UInt8} (hp : p ≠ 0) (y z : UInt8) (bs : Bytes) :
    ofZeros (0 :: p :: y :: z :: bs) = utf16 .big := by
  grind [ofZeros]

theorem ofZeros_cons_zero {p y z : UInt8} (hp : p ≠ 0) (hyz : ¬ (y = 0 ∧ z = 0)) (bs : Bytes) :
    ofZeros (p :: 0 :: y :: z :: bs) = utf16 .little := by
  grind [ofZeros]

theorem ofZeros_cons_zeros {p : UInt8} (hp : p ≠ 0) (bs : Bytes) :
    ofZeros (p :: 0 :: 0 :: 0 :: bs) = utf32 .little := by
  grind [ofZeros]

/-- The text begins with a character of ASCII, is not over with it, and has neither zeros nor
surrogates in it. -/
structure Recognizable (t : Text) : Prop where
  begins : ∃ a b rest, t = a :: b :: rest ∧ Json.IsToken a
  zero_not_mem : 0 ∉ t
  isSurrogate : ∀ c ∈ t, c.isSurrogate = false

variable {t : Text} (h : Recognizable t)
include h

/-- A text without surrogates has no pairs of them. -/
theorem Recognizable.unpaired : Json.Unpaired t := by
  refine Json.unpaired_of_isHighSurrogate fun c hc => ?_
  have hnone := h.isSurrogate c hc
  simp only [CodePoint.isSurrogate, CodePoint.isHighSurrogate, Bool.and_eq_false_iff,
    decide_eq_false_iff_not] at hnone ⊢
  omega

/-- **In the right encoding the text is read from its bytes.** -/
theorem Recognizable.decodeFrom_encode (e : Encoding) (pos : Nat) :
    e.decodeFrom pos (e.encode t) = .ok t := by
  cases e with
  | utf8 => exact Utf8.decode_encodeAll t
  | utf16 order => exact Utf16.decodeFrom_encodeAll order h.unpaired pos
  | utf32 order => exact Utf32.decodeFrom_encodeAll order t pos

/-- The bytes of the text do not begin with a mark, and the zeros among the first of them tell the
encoding. -/
theorem Recognizable.ofZeros_encode (e : Encoding) :
    ofMark? (e.encode t) = none ∧ ofZeros (e.encode t) = e := by
  have hzero := h.zero_not_mem
  obtain ⟨a, b, rest, rfl, ha⟩ := h.begins
  have hnull := ha.byte_ne.1
  have hb : b ≠ 0 := by
    rintro rfl
    simp at hzero
  cases e with
  | utf8 =>
    have hencode : utf8.encode (a :: b :: rest) = _ ++ Utf8.encodeAll (b :: rest) :=
      congrArg (· ++ Utf8.encodeAll (b :: rest)) (Utf8.encodePoint_of_isToken ha)
    refine ⟨?_, ofZeros_of_zero_not_mem (Utf8.zero_not_mem_encodeAll hzero)⟩
    rw [hencode]
    exact ofMark?_cons ha.byte_ne _
  | utf16 order =>
    obtain ⟨y, z, tail, hbytes, hyz⟩ := Utf16.exists_encodePoint_eq_cons order hb
    have hencode : (utf16 order).encode (a :: b :: rest) =
        Utf16.encodePoint order a ++ y :: z :: (tail ++ Utf16.encodeAll order rest) :=
      congrArg (fun bs => Utf16.encodePoint order a ++ (bs ++ Utf16.encodeAll order rest)) hbytes
    rw [hencode]
    cases order with
    | big =>
      rw [(Utf16.encodePoint_of_isToken ha).1]
      exact ⟨ofMark?_zero_cons hnull _, ofZeros_zero_cons hnull y z _⟩
    | little =>
      rw [(Utf16.encodePoint_of_isToken ha).2]
      exact ⟨ofMark?_cons ha.byte_ne _, ofZeros_cons_zero hnull hyz _⟩
  | utf32 order =>
    have hencode : (utf32 order).encode (a :: b :: rest) =
        Utf32.encodePoint order a ++ Utf32.encodeAll order (b :: rest) := rfl
    rw [hencode]
    cases order with
    | big =>
      rw [(Utf32.encodePoint_of_isToken ha).1]
      exact ⟨ofMark?_zeros _, rfl⟩
    | little =>
      rw [(Utf32.encodePoint_of_isToken ha).2]
      exact ⟨ofMark?_cons ha.byte_ne _, ofZeros_cons_zeros hnull _⟩

/-- Behind a mark they are not taken for the rest of a longer one. -/
theorem Recognizable.ofMark?_mark_append (e : Encoding) :
    ofMark? (e.mark ++ e.encode t) = some e := by
  refine Encoding.ofMark?_mark_append e ?_
  rintro rfl
  obtain ⟨a, b, rest, rfl, ha⟩ := h.begins
  have hencode : (utf16 .little).encode (a :: b :: rest) =
      Utf16.encodePoint .little a ++ Utf16.encodeAll .little (b :: rest) := rfl
  rw [hencode, (Utf16.encodePoint_of_isToken ha).2]
  exact fun hhead => ha.byte_ne.1 (Option.some.inj hhead)

/-- **The text is read from its bytes in every encoding**, with a mark in front of them or
without. -/
theorem Recognizable.detectAndDecode (e : Encoding) :
    detectAndDecode (e.encode t) = .ok t ∧ detectAndDecode (e.mark ++ e.encode t) = .ok t := by
  obtain ⟨hmark, hzeros⟩ := h.ofZeros_encode e
  constructor
  · rw [Encoding.detectAndDecode, hmark]
    dsimp only
    rw [hzeros, h.decodeFrom_encode]
  · rw [Encoding.detectAndDecode, h.ofMark?_mark_append]
    dsimp only
    rw [List.drop_left, h.decodeFrom_encode]

end Encoding

/-! ## 3. Texts of JSON -/

namespace Json

open Encoding (Recognizable)

theorem IsToken.plain {c : CodePoint} (h : IsToken c) : c ≠ 0 ∧ c.isSurrogate = false := by
  obtain ⟨hpos, hlt⟩ := h
  refine ⟨fun hc => Nat.ne_of_gt hpos (congrArg Fin.val hc), ?_⟩
  simp only [CodePoint.isSurrogate, Bool.and_eq_false_iff, decide_eq_false_iff_not]
  omega

theorem isToken_of_isBlank {c : CodePoint} (h : isBlank c = true) : IsToken c := by
  simp only [isBlank, Bool.or_eq_true, beq_iff_eq] at h
  rcases h with ((rfl | rfl) | rfl) | rfl <;> decide

theorem isToken_of_isDigit {c : CodePoint} (h : isDigit c = true) : IsToken c := by
  obtain ⟨hlow, hhigh⟩ := plain_of_isDigit (t := [c]) (by simpa using h) c (by simp)
  exact ⟨by omega, by omega⟩

/-- The text is recognizable if it has two characters, begins with one of ASCII, and has neither
zeros nor surrogates. -/
theorem recognizable_of_plain {t : Text} (hlen : 2 ≤ t.length)
    (hhead : ∀ c ∈ t.head?, IsToken c) (h : ∀ c ∈ t, c ≠ 0 ∧ c.isSurrogate = false) :
    Recognizable t where
  begins := by
    match t, hlen with
    | a :: b :: rest, _ => exact ⟨a, b, rest, rfl, hhead a rfl⟩
  zero_not_mem := fun hzero => (h 0 hzero).1 rfl
  isSurrogate := fun c hc => (h c hc).2

theorem IntLiteral.isToken {lit : Text} {n : Int} (h : IntLiteral lit n) :
    ∀ c ∈ lit, IsToken c := by
  cases h with
  | plain h hshort => exact fun c hc => isToken_of_isDigit (h.isDigit c hc)
  | minus h hshort =>
    rw [List.forall_mem_cons]
    exact ⟨by decide, fun c hc => isToken_of_isDigit (h.isDigit c hc)⟩

theorem IntElements.isToken {inside : Text} {ns : List Int} (h : IntElements inside ns) :
    ∀ c ∈ inside, IsToken c := by
  induction h with
  | last h hafter =>
    rw [List.forall_mem_append]
    exact ⟨h.isToken, fun c hc => isToken_of_isBlank (hafter c hc)⟩
  | more h hafter hbefore hrest ih =>
    rw [List.forall_mem_append, List.forall_mem_append, List.forall_mem_cons,
      List.forall_mem_append]
    exact ⟨h.isToken, fun c hc => isToken_of_isBlank (hafter c hc), by decide,
      fun c hc => isToken_of_isBlank (hbefore c hc), ih⟩

/-- **Arrays of integers are recognizable**, as they are all ASCII. -/
theorem IntArray.recognizable {t : Text} {ns : List Int} (h : IntArray t ns) :
    Recognizable t := by
  cases h with
  | @mk outer before inside after ns houter hbefore h hafter =>
    have htokens : ∀ c ∈ outer ++ 0x5B :: (before ++ (inside ++ 0x5D :: after)), IsToken c := by
      rw [List.forall_mem_append, List.forall_mem_cons, List.forall_mem_append,
        List.forall_mem_append, List.forall_mem_cons]
      exact ⟨fun c hc => isToken_of_isBlank (houter c hc), by decide,
        fun c hc => isToken_of_isBlank (hbefore c hc), h.isToken, by decide,
        fun c hc => isToken_of_isBlank (hafter c hc)⟩
    refine recognizable_of_plain ?_ (fun c hc => htokens c (List.mem_of_mem_head? hc))
      fun c hc => (htokens c hc).plain
    simp only [List.length_append, List.length_cons]
    omega

/-- **Strings are recognizable** if there are neither zeros nor surrogates in them. -/
theorem recognizable_of_parse {t s : Text} (h : parse t = .ok (str s))
    (hs : ∀ c ∈ s, c ≠ 0 ∧ c.isSurrogate = false) : Recognizable t := by
  obtain ⟨before, body, after, hbefore, hafter, rfl, hbody⟩ := exists_body_of_parse h
  have hblanks : ∀ {run : Text}, Blanks run → ∀ c ∈ run, c ≠ 0 ∧ c.isSurrogate = false :=
    fun hrun c hc => (isToken_of_isBlank (hrun c hc)).plain
  have hquote : (0x22 : CodePoint) ≠ 0 ∧ CodePoint.isSurrogate 0x22 = false := by decide
  refine recognizable_of_plain ?_ ?_ ?_
  · simp only [List.length_append, List.length_cons]
    omega
  · cases before with
    | nil =>
      rintro _ ⟨⟩
      decide
    | cons c before =>
      rintro _ ⟨⟩
      exact isToken_of_isBlank (hbefore c List.mem_cons_self)
  · rw [List.forall_mem_append, List.forall_mem_cons, List.forall_mem_append,
      List.forall_mem_cons]
    exact ⟨hblanks hbefore, hquote,
      fun c hc => (hbody c hc).elim IsToken.plain (hs c), hquote, hblanks hafter⟩

/-- **A recognizable text is the same document in every encoding.** -/
theorem ofDocument_encode {t : Text} (h : Recognizable t) (e : Encoding) :
    ofDocument (.bytes (e.encode t)) = ofDocument (.text t) ∧
      ofDocument (.bytes (e.mark ++ e.encode t)) = ofDocument (.text t) := by
  obtain ⟨hplain, hmark⟩ := h.detectAndDecode e
  have htext : ofDocument (.text t) = ofText t := by
    obtain ⟨a, b, rest, rfl, ha⟩ := h.begins
    refine if_neg fun hhead => ?_
    rw [Option.some.inj hhead] at ha
    exact absurd ha (by decide)
  rw [htext, ofDocument, ofBytes, hplain, ofDocument, ofBytes, hmark]
  exact ⟨rfl, rfl⟩

end Json

end LedgerKeys
