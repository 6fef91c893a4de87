/-
# Imports that fail

Keys are imported from JSON in four ways (`Importer`), and each promises one kind of failure for
whatever is wrong with the content. The promise is kept for every step but the first: a refusal of
the reader of JSON is turned into the promised kind only if it says that the document is malformed.
Where the reader gives up instead (`Json.GivesUp`), its own failure passes through, of a kind that
nobody was told to expect.

So an import fails as promised or because the reader gives up (`Importer.failure_of_read`), and the
reader gives up only on a text with more opening brackets than there are levels or with a run of too
many digits (`Json.GivesUp.cause`).
-/
import LedgerKeys.Proofs.Base58.Reading
import LedgerKeys.Proofs.Json.Limits
import LedgerKeys.Proofs.Keygen.Format

namespace LedgerKeys

/-! ## 1. When the reader gives up -/

namespace Json

variable {document : Value} {f : Failure}

/-- The values that hold a document: texts and byte strings. -/
def IsDocument : Value → Prop
  | .text _ | .bytes _ | .buffer _ => True
  | _ => False

/-- The text of a document: of bytes it is the one that they spell. -/
inductive Spelled : Value → Text → Prop where
  | text (t : Text) : Spelled (.text t) t
  | bytes {bs : Bytes} {t : Text} (h : Encoding.detectAndDecode bs = .ok t) : Spelled (.bytes bs) t
  | buffer {bs : Bytes} {t : Text} (h : Encoding.detectAndDecode bs = .ok t) :
      Spelled (.buffer bs) t

/-- A document is refused, but not for being malformed. -/
def GivesUp (document : Value) (f : Failure) : Prop :=
  ofDocument document = .error f ∧ isMalformed f = false

/-- What in a text makes the reader give up with a failure: nesting, or a long run of digits. -/
def TooMuch (t : Text) (f : Failure) : Prop :=
  f = .tooDeep ∧ nestingLimit < t.countP isOpening ∨
    ∃ run, f = .jsonDigits run.length ∧ run <:+: t ∧ digitLimit < run.length ∧
      ∀ c ∈ run, isDigit c = true

theorem ofText_eq_error {t : Text} (h : ofText t = .error f) :
    ∃ r, parse t = .error r ∧ f = r.failure t := by
  rw [ofText] at h
  split at h
  · cases h
  · next r hr => exact ⟨r, hr, (Except.error.inj h).symm⟩

/-- A text is malformed or too much. -/
theorem isMalformed_or_tooMuch {t : Text} (h : ofText t = .error f) :
    isMalformed f = true ∨ TooMuch t f := by
  obtain ⟨r, hr, rfl⟩ := ofText_eq_error h
  have hexcuse := excuse_of_parse hr
  cases r with
  | flaw what offset => exact .inl rfl
  | tooDeep => exact .inr (.inl ⟨rfl, hexcuse⟩)
  | tooManyDigits count =>
    obtain ⟨hlong, run, hrun, rfl, hdigits⟩ := hexcuse
    exact .inr (.inr ⟨run, rfl, hrun, hlong, hdigits⟩)

/-- **The reader gives up only on a text that is too much for it.** -/
theorem GivesUp.cause (h : GivesUp document f) (hdocument : IsDocument document) :
    ∃ t, Spelled document t ∧ TooMuch t f := by
  obtain ⟨hread, hformed⟩ := h
  have htext : ∀ {t}, ofText t = .error f → TooMuch t f := fun h =>
    (isMalformed_or_tooMuch h).resolve_left (by simp [hformed])
  have hbytes : ∀ {bs}, ofBytes bs = .error f →
      ∃ t, Encoding.detectAndDecode bs = .ok t ∧ TooMuch t f := by
    intro bs h
    rw [ofBytes] at h
    split at h
    · next t ht => exact ⟨t, ht, htext h⟩
    · cases h
      cases hformed
  cases document with
  | text t =>
    rw [ofDocument] at hread
    split at hread
    · cases hread
      cases hformed
    · exact ⟨t, .text t, htext hread⟩
  | bytes bs =>
    obtain ⟨t, ht, hmuch⟩ := hbytes hread
    exact ⟨t, .bytes ht, hmuch⟩
  | buffer bs =>
    obtain ⟨t, ht, hmuch⟩ := hbytes hread
    exact ⟨t, .buffer ht, hmuch⟩
  | _ => cases hdocument

/-- The failures for what is too much are of no kind that an import promises. -/
theorem TooMuch.not_isA {t : Text} (h : TooMuch t f) :
    f.isA .fileDecode = false ∧ f.isA .format = false := by
  rcases h with ⟨rfl, -⟩ | ⟨run, rfl, -⟩
  · exact ⟨rfl, rfl⟩
  · exact ⟨rfl, rfl⟩

theorem givesUp_of_openings {n : Nat} (h : nestingLimit < n) (rest : Text) :
    GivesUp (.text (List.replicate n 0x5B ++ rest)) .tooDeep := by
  refine ⟨?_, rfl⟩
  rw [ofDocument_text (beginsValue_openings (Nat.zero_lt_of_lt h) rest), ofText,
    parse_of_openings h rest]
  rfl

theorem givesUp_of_digits {digits rest : Text} (h : TooLong digits) (hrest : EndsValue rest)
    {n : Nat} (hn : n ≤ nestingLimit) :
    GivesUp (.text (List.replicate n 0x5B ++ (digits ++ rest))) (.jsonDigits digits.length) := by
  have hbegins : BeginsValue (List.replicate n 0x5B ++ (digits ++ rest)) := by
    rcases Nat.eq_zero_or_pos n with rfl | hpos
    · exact h.beginsValue rest
    · exact beginsValue_openings hpos _
  refine ⟨?_, rfl⟩
  rw [ofDocument_text hbegins, ofText, h.parse hrest hn]
  rfl

end Json

/-! ## 2. The importers -/

/-- The ways to import a key from JSON. -/
inductive Importer where
  | keygenBytes
  | keygenKey
  | publicKey
  | privateKey

namespace Importer

/-- The kind of failure that is promised. -/
def promised : Importer → FailureKind
  | keygenBytes | keygenKey => .fileDecode
  | publicKey | privateKey => .format

/-- The bytes of what is imported from a document. -/
def read : Importer → Value → Except Failure Bytes
  | keygenBytes, document => Keygen.decode document
  | keygenKey, document => (PrivateKey.ofKeygen document).map PrivateKey.data
  | publicKey, document => (PublicKey.ofJson document).map PublicKey.data
  | privateKey, document => (PrivateKey.ofJson document).map PrivateKey.data

/-- What the failure of the reader becomes if it says that the document is malformed. -/
def turn : Importer → Failure → Failure
  | keygenBytes | keygenKey => .keygenJson
  | publicKey => .publicKeyJson
  | privateKey => .privateKeyJson

/-- What is done with the value of a document. -/
def accept : Importer → Json → Except Failure Bytes
  | keygenBytes => Keygen.ofJson
  | keygenKey => fun found =>
    (Keygen.ofJson found >>= ofLength .privateKey PrivateKey.ofBytes?).map PrivateKey.data
  | publicKey => fun found => Except.map PublicKey.data <|
    match found with
    | .str t => rescue isFormatFailure (.publicKeyText t) (PublicKey.ofBase58 (.text t))
    | found => .error (.publicKeyNotText found)
  | privateKey => fun found => Except.map PrivateKey.data <|
    match found with
    | .str t => PrivateKey.ofBase58 (.text t)
    | _ => .error .privateKeyNotText

variable {imp : Importer} {document : Value} {f : Failure}

theorem read_eq (imp : Importer) (document : Value) :
    imp.read document =
      rescue Json.isMalformed imp.turn (Json.ofDocument document) >>= imp.accept := by
  cases imp with
  | keygenBytes => rfl
  | keygenKey =>
    rw [read, PrivateKey.ofKeygen, Keygen.decode, turn]
    cases rescue Json.isMalformed .keygenJson (Json.ofDocument document) with
    | error f => rfl
    | ok found => rfl
  | publicKey =>
    rw [read, PublicKey.ofJson, turn]
    cases rescue Json.isMalformed .publicKeyJson (Json.ofDocument document) with
    | error f => rfl
    | ok found => cases found <;> rfl
  | privateKey =>
    rw [read, PrivateKey.ofJson, turn]
    cases rescue Json.isMalformed .privateKeyJson (Json.ofDocument document) with
    | error f => rfl
    | ok found => cases found <;> rfl

/-! ## 3. Promises kept -/

theorem isA_of_ofLength_eq_error {α : Type} {what : Measured} {ofBytes? : Bytes → Option α}
    {bs : Bytes} (h : ofLength what ofBytes? bs = .error f) : f.isA .format = true := by
  rw [ofLength] at h
  split at h
  · cases h
  · cases h
    rfl

theorem isA_of_decodeValue_text {t : Text} (h : Base58.decodeValue (.text t) = .error f) :
    f.isA .format = true := by
  rcases Base58.decodeValue_cases (v := .text t) rfl with ⟨bs, -, hok⟩ | ⟨-, cause, herror⟩
  · rw [hok] at h
    cases h
  · rw [herror] at h
    cases h
    rfl

/-- A base58 text is refused as a text or for its length. -/
theorem isA_of_ofBase58 {α : Type} {what : Measured} {ofBytes? : Bytes → Option α} {t : Text}
    (h : (Base58.decodeValue (.text t) >>= ofLength what ofBytes?) = .error f) :
    f.isA .format = true := by
  rcases except_bind_eq_error.mp h with h | ⟨bs, -, h⟩
  · exact isA_of_decodeValue_text h
  · exact isA_of_ofLength_eq_error h

/-- Whatever is done with the value of a document fails as promised. -/
theorem isA_of_accept {found : Json} (h : imp.accept found = .error f) :
    f.isA imp.promised = true := by
  cases imp with
  | keygenBytes => exact Keygen.isA_of_ofJson_eq_error h
  | keygenKey =>
    -- The array had 64 elements, so the length cannot be wrong any more.
    have hlen : ∀ bs, Keygen.ofJson found = .ok bs → bs.length = 64 :=
      fun bs hbs => (Keygen.ofJson_eq_ok_iff.mp hbs).2
    have h := (Keygen.bind_ofLength_eq_error_iff hlen).mp (except_map_eq_error.mp h)
    exact Keygen.isA_of_ofJson_eq_error h
  | publicKey =>
    have h := except_map_eq_error.mp h
    cases found with
    | str t =>
      obtain ⟨g, hread, ⟨-, rfl⟩ | ⟨hformat, -⟩⟩ := rescue_eq_error.mp h
      · rfl
      · rw [isFormatFailure, isA_of_ofBase58 hread] at hformat
        cases hformat
    | _ =>
      cases h
      rfl
  | privateKey =>
    have h := except_map_eq_error.mp h
    cases found with
    | str t => exact isA_of_ofBase58 h
    | _ =>
      cases h
      rfl

theorem isA_turn (imp : Importer) (f : Failure) : (imp.turn f).isA imp.promised = true := by
  cases imp <;> rfl

/-- **An import fails as promised, or because the reader gives up.** -/
theorem failure_of_read (h : imp.read document = .error f) :
    f.isA imp.promised = true ∨ Json.GivesUp document f := by
  rw [read_eq, except_bind_eq_error] at h
  rcases h with h | ⟨found, -, h⟩
  · obtain ⟨g, hread, ⟨-, rfl⟩ | ⟨hmalformed, rfl⟩⟩ := rescue_eq_error.mp h
    · exact .inl (isA_turn imp g)
    · exact .inr ⟨hread, hmalformed⟩
  · exact .inl (isA_of_accept h)

/-- What the reader gives up with passes through every import. -/
theorem read_of_givesUp (h : Json.GivesUp document f) (imp : Importer) :
    imp.read document = .error f := by
  rw [read_eq, h.1, rescue, h.2]
  rfl

end Importer

/-! ## 4. When an import breaks its promise -/

/-- **When an import breaks its promise.**  Given a text or bytes, an import answers, or fails with
the kind that it promises, or fails with what the reader of JSON gives up with; and the last is
never of the promised kind. The reader gives up just on documents that are too much for it: nested
too deep, or with too many digits in a number. It does so on every text with too many brackets in
front, and on every number with too many digits inside of arrays. -/
theorem Importer.breaks_promise_iff (imp : Importer) (document : Value)
    (hdocument : Json.IsDocument document) :
    (∀ f, imp.read document = .error f ∧ f.isA imp.promised = false ↔ Json.GivesUp document f) ∧
    (∀ f, Json.GivesUp document f → ∃ t, Json.Spelled document t ∧ Json.TooMuch t f) ∧
    (∀ (n : Nat) (rest : Text), Json.nestingLimit < n →
      document = .text (List.replicate n 0x5B ++ rest) → Json.GivesUp document .tooDeep) ∧
    ∀ (n : Nat) (digits rest : Text), n ≤ Json.nestingLimit → Json.TooLong digits →
      Json.EndsValue rest → document = .text (List.replicate n 0x5B ++ (digits ++ rest)) →
      Json.GivesUp document (.jsonDigits digits.length) := by
  refine ⟨fun f => ⟨?breaks, ?givesUp⟩, fun f h => h.cause hdocument, ?deep, ?long⟩
  case breaks =>
    rintro ⟨hread, hpromise⟩
    exact (failure_of_read hread).resolve_left (by simp [hpromise])
  case givesUp =>
    intro h
    obtain ⟨t, -, hmuch⟩ := h.cause hdocument
    refine ⟨read_of_givesUp h imp, ?_⟩
    cases imp with
    | keygenBytes | keygenKey => exact hmuch.not_isA.1
    | publicKey | privateKey => exact hmuch.not_isA.2
  case deep =>
    rintro n rest h rfl
    exact Json.givesUp_of_openings h rest
  case long =>
    rintro n digits rest hn hdigits hrest rfl
    exact Json.givesUp_of_digits hdigits hrest hn

/-- An array of one number of 4301 nines is no keygen document, as the number is no byte, and yet
the failure is not the promised one. -/
theorem Importer.breaks_promise_nines :
    let nines : Text := List.replicate 4301 0x39
    let document : Value := .text (0x5B :: (nines ++ [0x5D]))
    Json.IsDocument document ∧ Json.TooLong nines ∧ Json.GivesUp document (.jsonDigits 4301) ∧
      Keygen.decode document = .error (.jsonDigits 4301) ∧
      (Failure.jsonDigits 4301).isA .fileDecode = false ∧
      (Failure.jsonDigits 4301).kind = .wrongValue := by
  intro nines document
  have hlength : nines.length = 4301 := List.length_replicate
  have hlong : Json.TooLong nines := by
    refine ⟨fun c hc => ?_, ?_, ?_⟩
    · rw [List.eq_of_mem_replicate hc]
      decide
    · rw [List.head?_replicate]
      decide
    · rw [hlength]
      decide
  have hdocument : Json.IsDocument document := trivial
  obtain ⟨hiff, -, -, hdigits⟩ := Importer.breaks_promise_iff .keygenBytes document hdocument
  have hgives := hdigits 1 nines [0x5D] (by decide) hlong (by simp [Json.EndsValue]) rfl
  rw [hlength] at hgives
  obtain ⟨hread, hpromise⟩ := (hiff _).mpr hgives
  exact ⟨hdocument, hlong, hgives, hread, hpromise, rfl⟩

end LedgerKeys
