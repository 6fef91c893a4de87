/-
# Which values are base58 text

A value is read in two steps before its characters are. Blanks at its end are dropped, by the rule
for texts or by the one for byte strings (`trimmed?`), and what is left of a text has to be ASCII.
The alphabet has no blank and nothing that is not ASCII. So the reader accepts a value exactly if
the alphabet has all that is left of it, and whatever it refuses, it refuses with the one failure
that shows the value (`decodeValue_cases`).
-/
import LedgerKeys.Key.Reading
import LedgerKeys.Proofs.Base58.Codec

namespace LedgerKeys

/-! ## 1. Blanks at the end -/

section Blanks

variable {α : Type} (blank : α → Bool) (xs : List α)

/-- What is dropped is blank. -/
theorem exists_dropTrailing_append :
    ∃ tail, xs = dropTrailing blank xs ++ tail ∧ ∀ x ∈ tail, blank x = true := by
  refine ⟨(xs.reverse.takeWhile blank).reverse, ?_, fun x hx => ?_⟩
  · rw [dropTrailing, ← List.reverse_append, List.takeWhile_append_dropWhile,
      List.reverse_reverse]
  · exact List.mem_takeWhile_imp (List.mem_reverse.mp hx)

/-- Blanks behind a list count as little as those at its end. -/
theorem dropTrailing_append {tail : List α} (h : ∀ x ∈ tail, blank x = true) :
    dropTrailing blank (xs ++ tail) = dropTrailing blank xs := by
  rw [dropTrailing, List.reverse_append, List.dropWhile_append_of_pos, dropTrailing]
  exact fun x hx => h x (List.mem_reverse.mp hx)

end Blanks

/-! ## 2. ASCII -/

namespace EncodeFault

theorem find?_eq_none_iff {encoding reason : String} {bad more : CodePoint → Bool} {t : Text} :
    find? encoding reason bad more t = none ↔ ∀ c ∈ t, bad c = false := by
  have hall : (t.dropWhile fun c => !bad c) = [] ↔ ∀ c ∈ t, bad c = false := by
    simp [List.dropWhile_eq_nil_iff]
  rw [← hall, find?]
  split <;> simp_all

end EncodeFault

namespace Ascii

/-- A text that is refused has a character that is not ASCII. -/
theorem exists_mem_of_encode_eq_error {t : Text} {fault : EncodeFault}
    (h : encode t = .error fault) : ∃ c ∈ t, c.isAscii = false := by
  by_contra! hascii
  rw [encode, EncodeFault.find?_eq_none_iff.mpr fun c hc => by simpa using hascii c hc] at h
  cases h

/-- The bytes of a text stand for it. -/
theorem decode_of_encode_eq_ok {t : Text} {bs : Bytes} (h : encode t = .ok bs) :
    decode bs = t := by
  rw [encode] at h
  split at h
  · cases h
  · next hfind =>
    have hascii := EncodeFault.find?_eq_none_iff.mp hfind
    rw [← Except.ok.inj h, decode, List.map_map]
    refine (List.map_congr_left fun c hc => ?_).trans t.map_id
    have hc : c.val < 128 := by simpa [CodePoint.isAscii] using hascii c hc
    ext
    simp [CodePoint.ofByte]
    omega

end Ascii

namespace Base58

/-! ## 3. Values -/

/-- The text that a value holds, without the blanks at its end. A byte string holds one character a
byte, and other values hold no text. -/
def trimmed? : Value → Option Text
  | .text t => some t.trimEnd
  | .bytes bs | .buffer bs => some (Ascii.decode bs.trimEnd)
  | _ => none

variable {v : Value} {t : Text} {bs : Bytes}

/-- Either the trimmed text is what is decoded, or it is a text that ASCII cannot write. -/
theorem textOf_cases (ht : trimmed? v = some t) :
    textOf v = .ok t ∨
      (∃ fault, textOf v = .error (.encoding fault)) ∧ ∃ c ∈ t, c.isAscii = false := by
  cases v with
  | text s =>
    cases ht
    rw [textOf]
    cases hs : Ascii.encode s.trimEnd with
    | ok bs => exact .inl (congrArg Except.ok (Ascii.decode_of_encode_eq_ok hs))
    | error fault => exact .inr ⟨⟨fault, rfl⟩, Ascii.exists_mem_of_encode_eq_error hs⟩
  | bytes bs | buffer bs =>
    cases ht
    exact .inl rfl
  | _ => cases ht

theorem decodeValue_of_encoding {fault : EncodeFault} (h : textOf v = .error (.encoding fault)) :
    decodeValue v = .error (.base58 v (.encoding fault)) := by
  rw [decodeValue, h]
  rfl

theorem decodeValue_of_character {c : CodePoint} (h : textOf v = .ok t) (hc : decode t = .error c) :
    decodeValue v = .error (.base58 v (.character c)) := by
  simp only [decodeValue, h, bind, Except.bind, hc]
  rfl

theorem decodeValue_of_decode (h : textOf v = .ok t) (hbs : decode t = .ok bs) :
    decodeValue v = .ok bs := by
  simp only [decodeValue, h, bind, Except.bind, hbs]
  rfl

/-- **Either the trimmed text is decoded, or it has a character outside the alphabet and the value
is shown in the failure.** -/
theorem decodeValue_cases (ht : trimmed? v = some t) :
    (∃ bs, encode bs = t ∧ decodeValue v = .ok bs) ∨
      (∃ c ∈ t, c ∉ alphabet) ∧ ∃ cause, decodeValue v = .error (.base58 v cause) := by
  rcases textOf_cases ht with htext | ⟨⟨fault, htext⟩, c, hc, hascii⟩
  · cases hd : decode t with
    | ok bs => exact .inl ⟨bs, decode_eq_ok_iff.mp hd, decodeValue_of_decode htext hd⟩
    | error c =>
      obtain ⟨before, after, rfl, -, hc⟩ := of_decode_eq_error hd
      exact .inr ⟨⟨c, by simp, hc⟩, _, decodeValue_of_character htext hd⟩
  · have hout : c ∉ alphabet := fun hmem => by
      rw [isAscii_of_mem_alphabet hmem] at hascii
      cases hascii
    exact .inr ⟨⟨c, hc, hout⟩, _, decodeValue_of_encoding htext⟩

/-- The bytes that are read are those whose text is all that the value holds. -/
theorem decodeValue_eq_ok_iff (ht : trimmed? v = some t) :
    decodeValue v = .ok bs ↔ encode bs = t := by
  rcases decodeValue_cases ht with ⟨bs', rfl, hv⟩ | ⟨⟨c, hc, hout⟩, cause, hv⟩
  · rw [hv, Except.ok.injEq, encode_injective.eq_iff, eq_comm]
  · refine ⟨fun h => ?_, ?_⟩
    · rw [hv] at h
      cases h
    · rintro rfl
      exact absurd (mem_alphabet_of_mem_encode c hc) hout

/-- Blanks behind the text of a byte string do not count. -/
theorem trimEnd_encode_append {tail : Text} (h : ∀ c ∈ tail, c.isBlank = true) :
    Text.trimEnd (encode bs ++ tail) = encode bs := by
  rw [Text.trimEnd, dropTrailing_append _ _ h]
  exact dropTrailing_eq_self _ fun c hc => isBlank_of_mem_alphabet (mem_alphabet_of_mem_encode c hc)

/-- **The texts that are read are those of byte strings, with any blanks behind them.** -/
theorem decodeValue_text_eq_ok_iff :
    decodeValue (.text t) = .ok bs ↔
      ∃ tail, t = encode bs ++ tail ∧ ∀ c ∈ tail, c.isBlank = true := by
  rw [decodeValue_eq_ok_iff rfl]
  constructor
  · intro h
    rw [h]
    exact exists_dropTrailing_append _ t
  · rintro ⟨tail, rfl, htail⟩
    exact (trimEnd_encode_append htail).symm

theorem decodeValue_encode (bs : Bytes) : decodeValue (.text (encode bs)) = .ok bs :=
  decodeValue_text_eq_ok_iff.mpr ⟨[], by simp, by simp⟩

@[simp] theorem encodeValue_bytes (bs : Bytes) : encodeValue (.bytes bs) = .ok (encode bs) := rfl

/-- **Base58 is a bijection between byte strings and texts over the alphabet, and the reader accepts
exactly these texts.** Every byte string has a text, from which it is read. A value that holds
text, be it a text or a byte string, is read if and only if nothing but characters of the alphabet
is left of it once the blanks at its end are dropped; what is read then has just that for its
text. Every other such value is refused with a failure of the kind `format`. -/
theorem decodeValue_bijection :
    (∀ bs : Bytes, ∃ text, encodeValue (.bytes bs) = .ok text ∧ decodeValue (.text text) = .ok bs) ∧
      ∀ (v : Value) (t : Text), trimmed? v = some t →
        ((∃ bs, decodeValue v = .ok bs) ↔ ∀ c ∈ t, c ∈ alphabet) ∧
          (∀ bs, decodeValue v = .ok bs ↔ encodeValue (.bytes bs) = .ok t) ∧
          ((∃ c ∈ t, c ∉ alphabet) ↔ ∃ f, decodeValue v = .error f ∧ f.kind = .format) := by
  refine ⟨fun bs => ⟨encode bs, encodeValue_bytes bs, decodeValue_encode bs⟩, fun v t ht => ?_⟩
  refine ⟨?accepted, fun bs => ?read, ?refused⟩
  case accepted =>
    rcases decodeValue_cases ht with ⟨bs, rfl, hv⟩ | ⟨⟨c, hc, hout⟩, cause, hv⟩
    · exact ⟨fun _ => mem_alphabet_of_mem_encode, fun _ => ⟨bs, hv⟩⟩
    · rw [hv]
      exact ⟨by rintro ⟨bs, ⟨⟩⟩, fun h => absurd (h c hc) hout⟩
  case read => rw [decodeValue_eq_ok_iff ht, encodeValue_bytes, Except.ok.injEq]
  case refused =>
    rcases decodeValue_cases ht with ⟨bs, rfl, hv⟩ | ⟨hout, cause, hv⟩
    · rw [hv]
      refine ⟨fun ⟨c, hc, hout⟩ => absurd (mem_alphabet_of_mem_encode c hc) hout, ?_⟩
      rintro ⟨f, ⟨⟩, -⟩
    · exact ⟨fun _ => ⟨_, hv, rfl⟩, fun _ => hout⟩

/-- A text with a blank of Unicode behind it is read, zeros and all; as a byte string, which has no
such blank, it is refused. -/
theorem decodeValue_bijection_blanks :
    trimmed? (.text (Text.ofString "112" ++ [0xA0])) = some (Text.ofString "112") ∧
      decodeValue (.text (Text.ofString "112" ++ [0xA0])) = .ok [0, 0, 1] ∧
      trimmed? (.bytes [0x31, 0x31, 0x32, 0xA0]) = some (Text.ofString "112" ++ [0xA0]) ∧
      ∃ f, decodeValue (.bytes [0x31, 0x31, 0x32, 0xA0]) = .error f ∧ f.kind = .format := by
  have htext : trimmed? (.text (Text.ofString "112" ++ [0xA0])) = some (Text.ofString "112") := by
    decide
  have hbytes : trimmed? (.bytes [0x31, 0x31, 0x32, 0xA0]) =
      some (Text.ofString "112" ++ [0xA0]) := by decide
  have hencode : encode [0, 0, 1] = Text.ofString "112" := by decide +kernel
  refine ⟨htext, ?_, hbytes, ?_⟩
  · exact ((decodeValue_bijection.2 _ _ htext).2.1 _).mpr (congrArg Except.ok hencode)
  · exact (decodeValue_bijection.2 _ _ hbytes).2.2.mp ⟨0xA0, by decide, by decide⟩

end Base58
end LedgerKeys
