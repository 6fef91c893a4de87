/-
# What a refusal tells of a secret

A base58 text with a character outside the alphabet is refused, and the refusal shows the text. If
the text was meant to be a private key, all of the key but the wrong characters stands in the
message.

How much of it does is a question about two texts that have the same characters outside the alphabet
in the same places, and any characters of the alphabet elsewhere (`Base58.Alike`). They are one text
when all characters of the alphabet are made the same (`Base58.mask`). What is found wrong does not
look behind the mask (`Base58.flaw?_map_mask`), and neither does the choice of quotes; but the text
between the quotes is the text itself (`Text.quoted_inj`). So the messages of two such texts are the
same only if the texts are (`Route.refusal_tells_text`).
-/
import Mathlib.Data.List.Forall2
import LedgerKeys.Proofs.Key.Export
import LedgerKeys.Proofs.Key.Halves

namespace LedgerKeys
namespace Base58

/-! ## 1. Masked texts -/

/-- The same character, or two of the alphabet. -/
def Alike (c d : CodePoint) : Prop := c = d ∨ c ∈ alphabet ∧ d ∈ alphabet

/-- Nothing is told of a character but that it is in the alphabet, if it is. -/
def mask (c : CodePoint) : CodePoint := if c ∈ alphabet then one else c

variable {c d : CodePoint} {t t' : Text}

theorem mask_of_mem (h : c ∈ alphabet) : mask c = one := if_pos h

theorem mask_of_not_mem (h : c ∉ alphabet) : mask c = c := if_neg h

theorem one_mem_alphabet : one ∈ alphabet := by decide

theorem mask_eq_mask_iff : mask c = mask d ↔ Alike c d := by
  have hne : ∀ {e}, e ∉ alphabet → e ≠ one := fun he h => he (h ▸ one_mem_alphabet)
  by_cases hc : c ∈ alphabet <;> by_cases hd : d ∈ alphabet
  · simp [Alike, mask, hc, hd]
  · have : c ≠ d := fun h => hd (h ▸ hc)
    simp [Alike, mask, hc, hd, (hne hd).symm, this]
  · have : c ≠ d := fun h => hc (h ▸ hd)
    simp [Alike, mask, hc, hd, hne hc, this]
  · simp [Alike, mask, hc, hd]

/-- **Two texts are alike if their masks are the same.** -/
theorem map_mask_eq_iff : t.map mask = t'.map mask ↔ List.Forall₂ Alike t t' := by
  rw [← List.forall₂_eq_eq_eq, List.forall₂_map_left_iff, List.forall₂_map_right_iff]
  exact iff_of_eq (congrArg (List.Forall₂ · t t') (funext₂ fun _ _ => propext mask_eq_mask_iff))

/-! ## 2. What is found wrong -/

/-- A test that is the same for all characters of the alphabet does not look behind the mask. -/
theorem comp_mask {test : CodePoint → Bool} (h : ∀ c ∈ alphabet, test c = test one) :
    test ∘ mask = test := by
  funext c
  by_cases hc : c ∈ alphabet
  · rw [Function.comp_apply, mask_of_mem hc, h c hc]
  · rw [Function.comp_apply, mask_of_not_mem hc]

/-- Characters outside the alphabet are not masked. -/
theorem map_mask_of_not_mem (h : ∀ c ∈ t, c ∉ alphabet) : t.map mask = t :=
  (List.map_congr_left fun c hc => mask_of_not_mem (h c hc)).trans t.map_id

theorem mem_map_mask_iff (hc : c ∉ alphabet) : c ∈ t.map mask ↔ c ∈ t := by
  have hmask : ∀ d, mask d = c ↔ d = c := by
    intro d
    rw [← mask_of_not_mem hc, mask_eq_mask_iff, mask_of_not_mem hc]
    exact or_iff_left fun h => hc h.2
  simp [List.mem_map, hmask]

theorem trimEnd_map_mask (t : Text) : Text.trimEnd (t.map mask) = (Text.trimEnd t).map mask := by
  have hblank : CodePoint.isBlank ∘ mask = CodePoint.isBlank :=
    comp_mask fun c hc => by rw [isBlank_of_mem_alphabet hc]; rfl
  rw [Text.trimEnd, Text.trimEnd, dropTrailing, dropTrailing, ← List.map_reverse,
    List.dropWhile_map, hblank, List.map_reverse]

/-- The fault of a text that ASCII cannot write is one of characters outside the alphabet. -/
theorem find?_map_mask {encoding reason : String} {bad : CodePoint → Bool}
    (h : ∀ c ∈ alphabet, bad c = false) (t : Text) :
    EncodeFault.find? encoding reason bad bad (t.map mask) =
      EncodeFault.find? encoding reason bad bad t := by
  have hbad : bad ∘ mask = bad := comp_mask fun c hc => by rw [h c hc, h one one_mem_alphabet]
  have hgood : (fun c => !bad c) ∘ mask = fun c => !bad c := by
    funext c
    exact congrArg (! ·) (congrFun hbad c)
  have hout : ∀ {c}, bad c = true → c ∉ alphabet := fun hc hmem => by
    rw [h _ hmem] at hc
    cases hc
  rw [EncodeFault.find?, EncodeFault.find?, List.takeWhile_map, List.dropWhile_map, hgood,
    List.length_map]
  cases hrest : t.dropWhile fun c => !bad c with
  | nil => rfl
  | cons c rest =>
    have hc : bad c = true := by
      have hhead := List.head?_dropWhile_not (fun c => !bad c) t
      rw [hrest] at hhead
      simpa using hhead
    have hrun : (rest.takeWhile bad).map mask = rest.takeWhile bad :=
      map_mask_of_not_mem fun d hd => hout (List.mem_takeWhile_imp hd)
    rw [List.map_cons]
    dsimp only
    rw [mask_of_not_mem (hout hc), List.takeWhile_map, hbad, hrun]

/-- The first character outside the alphabet is what a text is refused for. -/
theorem values_eq_error_iff : values t = .error c ↔ t.find? (· ∉ alphabet) = some c := by
  induction t with
  | nil => simp [values]
  | cons d t ih =>
    rw [values]
    cases hd : value? d with
    | none =>
      have hout : d ∉ alphabet := List.idxOf?_eq_none_iff.mp hd
      simp [hout]
    | some v =>
      obtain ⟨hv, rfl⟩ := of_value?_eq_some hd
      have hmem := character_mem hv
      simp only [List.find?_cons, hmem, not_true_eq_false, decide_false]
      rw [← ih]
      exact except_map_eq_error

theorem decode_eq_error_iff : decode t = .error c ↔ t.find? (· ∉ alphabet) = some c := by
  rw [decode_eq, except_map_eq_error, values_eq_error_iff]

theorem decode_map_mask_eq_error_iff : decode (t.map mask) = .error c ↔ decode t = .error c := by
  have htest : (fun c => decide (c ∉ alphabet)) ∘ mask = fun c => decide (c ∉ alphabet) :=
    comp_mask fun c hc => by simp [hc, one_mem_alphabet]
  rw [decode_eq_error_iff, decode_eq_error_iff, List.find?_map, htest]
  cases hfind : t.find? (· ∉ alphabet) with
  | none => rfl
  | some d =>
    have hout : d ∉ alphabet := by simpa using List.find?_some hfind
    rw [Option.map_some, mask_of_not_mem hout]

/-- The text that is decoded, if ASCII can write it. -/
theorem textOf_text (t : Text) :
    textOf (.text t) =
      match EncodeFault.find? "ascii" "ordinal not in range(128)" (fun c => !c.isAscii)
        (fun c => !c.isAscii) t.trimEnd with
      | some fault => .error (.encoding fault)
      | none => .ok t.trimEnd := by
  cases hfind : EncodeFault.find? "ascii" "ordinal not in range(128)" (fun c => !c.isAscii)
      (fun c => !c.isAscii) t.trimEnd with
  | some fault =>
    have hencode : Ascii.encode t.trimEnd = .error fault := by simp only [Ascii.encode, hfind]
    simp only [textOf, hencode]
  | none =>
    have hencode : Ascii.encode t.trimEnd = .ok (t.trimEnd.map (UInt8.ofNat ·.val)) := by
      simp only [Ascii.encode, hfind]
    simp only [textOf, hencode, Ascii.decode_of_encode_eq_ok hencode]

/-- What is found wrong with a text: that ASCII cannot write it, or its first character outside the
alphabet. -/
def flaw? (t : Text) : Option Failure :=
  match textOf (.text t) with
  | .error f => some f
  | .ok trimmed =>
    match decode trimmed with
    | .error c => some (.character c)
    | .ok _ => none

/-- **What is found wrong does not look behind the mask.** -/
theorem flaw?_map_mask (t : Text) : flaw? (t.map mask) = flaw? t := by
  have hascii : ∀ c ∈ alphabet, (!c.isAscii) = false := fun c hc => by
    rw [isAscii_of_mem_alphabet hc]
    rfl
  rw [flaw?, flaw?, textOf_text, textOf_text, trimEnd_map_mask, find?_map_mask hascii]
  cases EncodeFault.find? "ascii" "ordinal not in range(128)" (fun c => !c.isAscii)
    (fun c => !c.isAscii) t.trimEnd with
  | some fault => rfl
  | none =>
    dsimp only
    cases hd : decode t.trimEnd with
    | error c => rw [decode_map_mask_eq_error_iff.mpr hd]
    | ok bs =>
      cases hm : decode (t.trimEnd.map mask) with
      | error c =>
        rw [decode_map_mask_eq_error_iff.mp hm] at hd
        cases hd
      | ok bs' => rfl

/-- Something is wrong with a text that has a character outside the alphabet. -/
theorem exists_flaw (h : ∃ c ∈ t.trimEnd, c ∉ alphabet) : ∃ cause, flaw? t = some cause := by
  rw [flaw?, textOf_text]
  cases EncodeFault.find? "ascii" "ordinal not in range(128)" (fun c => !c.isAscii)
    (fun c => !c.isAscii) t.trimEnd with
  | some fault => exact ⟨_, rfl⟩
  | none =>
    have hsome : (t.trimEnd.find? (· ∉ alphabet)).isSome = true := by
      rw [List.find?_isSome]
      simpa using h
    obtain ⟨c, hc⟩ := Option.isSome_iff_exists.mp hsome
    exact ⟨.character c, by simp only [decode_eq_error_iff.mpr hc]⟩

/-- A text is refused for what is found wrong with it, and shown. -/
theorem decodeValue_of_flaw? {cause : Failure} (h : flaw? t = some cause) :
    decodeValue (.text t) = .error (.base58 (.text t) cause) := by
  rw [flaw?] at h
  rcases textOf_cases (v := .text t) rfl with htext | ⟨⟨fault, htext⟩, -⟩
  · rw [htext] at h
    cases hd : decode t.trimEnd with
    | error c =>
      simp only [hd] at h
      cases h
      exact decodeValue_of_character htext hd
    | ok bs => simp [hd] at h
  · rw [htext] at h
    cases h
    exact decodeValue_of_encoding htext

end Base58

/-! ## 3. What is shown -/

namespace Text

open Base58 (alphabet mask Alike)

variable {quote c d : CodePoint} {t t' : Text}

theorem all_alphabet_shown :
    alphabet.all (fun c => c != 0x5C && c != 0x09 && c != 0x0A && c != 0x0D && c.isPrintable) =
      true := by decide +kernel

theorem quotedPoint_of_mem_alphabet (hquote : quote ∉ alphabet) (hc : c ∈ alphabet) :
    quotedPoint quote c = [c] := by
  have hshown := List.all_eq_true.mp all_alphabet_shown c hc
  simp only [Bool.and_eq_true, bne_iff_ne] at hshown
  obtain ⟨⟨⟨⟨hslash, htab⟩, hfeed⟩, hreturn⟩, hprintable⟩ := hshown
  have hne : c ≠ quote := fun h => hquote (h ▸ hc)
  rw [quotedPoint, if_neg (by simp [hne, hslash]), if_neg htab, if_neg hfeed, if_neg hreturn,
    if_pos hprintable]

theorem quoteFor_not_mem_alphabet (t : Text) : quoteFor t ∉ alphabet := by
  rw [quoteFor]
  split_ifs
  · decide
  · decide

/-- The quotes are chosen by characters outside the alphabet. -/
theorem quoteFor_map_mask (t : Text) : quoteFor (t.map mask) = quoteFor t := by
  have hcontains : ∀ c ∉ alphabet, (t.map mask).contains c = t.contains c := fun c hc => by
    rw [Bool.eq_iff_iff, List.contains_iff_mem, List.contains_iff_mem, Base58.mem_map_mask_iff hc]
  rw [quoteFor, quoteFor, hcontains 0x27 (by decide), hcontains 0x22 (by decide)]

/-- Between the quotes every character of the alphabet stands for itself. -/
theorem flatMap_quotedPoint_inj (hquote : quote ∉ alphabet) (h : List.Forall₂ Alike t t')
    (heq : t.flatMap (quotedPoint quote) = t'.flatMap (quotedPoint quote)) : t = t' := by
  induction h with
  | nil => rfl
  | @cons c d t t' hcd _ ih =>
    rw [List.flatMap_cons, List.flatMap_cons] at heq
    rcases hcd with rfl | ⟨hc, hd⟩
    · rw [ih (List.append_cancel_left heq)]
    · rw [quotedPoint_of_mem_alphabet hquote hc, quotedPoint_of_mem_alphabet hquote hd] at heq
      obtain ⟨rfl, hrest⟩ := List.cons.inj heq
      rw [ih hrest]

/-- **Quoted, different texts stay different.** -/
theorem quoted_inj (h : List.Forall₂ Alike t t') : t.quoted = t'.quoted ↔ t = t' := by
  refine ⟨fun heq => ?_, congrArg quoted⟩
  have hquote : quoteFor t = quoteFor t' := by
    rw [← quoteFor_map_mask t, Base58.map_mask_eq_iff.mpr h, quoteFor_map_mask]
  rw [quoted, quoted, hquote] at heq
  exact flatMap_quotedPoint_inj (quoteFor_not_mem_alphabet t') h
    (List.append_cancel_right (List.cons.inj heq).2)

end Text

/-! ## 4. Refused secrets -/

namespace Route

/-- The ways to a private key that read a base58 text, with the text that they read. -/
inductive Reads : Route → Text → Prop where
  | ofBase58 (t : Text) : Reads (.ofBase58 (.text t)) t
  | walletOfBase58 (t : Text) : Reads (.walletOfBase58 (.text t)) t
  | ofJson {document : Value} {t : Text} (h : Json.ofDocument document = .ok (.str t)) :
      Reads (.ofJson document) t

variable {r r' : Route} {t t' : Text}

theorem Reads.key_eq (h : r.Reads t) (env : Environment) :
    r.key env = Effect.ofExcept (PrivateKey.ofBase58 (.text t)) := by
  cases h with
  | ofBase58 => rfl
  | walletOfBase58 => rfl
  | ofJson h =>
    rw [key, PrivateKey.ofJson, h]
    rfl

theorem Reads.outcome_of_flaw? (h : r.Reads t) {cause : Failure}
    (hflaw : Base58.flaw? t = some cause) (env : Environment) (host : Host) :
    (r.key env).outcome host = (.error (.base58 (.text t) cause), host) := by
  rw [h.key_eq, Effect.outcome_ofExcept, PrivateKey.ofBase58, Base58.decodeValue_of_flaw? hflaw]
  rfl

/-- **A refusal tells the text of the secret.**  Take two texts with the same characters outside
the alphabet in the same places, at least one of them not a blank at the end, and any characters of
the alphabet elsewhere. Each way that reads a private key from base58 text refuses both as no base58
text, for the same cause; but each message shows the text, so that the messages are the same only if
the texts are. The reader of literals has one message for both. -/
theorem refusal_tells_text (h : List.Forall₂ Base58.Alike t t')
    (hout : ∃ c ∈ t.trimEnd, c ∉ Base58.alphabet) (hr : r.Reads t) (hr' : r'.Reads t')
    (env : Environment) (host : Host) :
    ∃ f f' cause, (r.key env).outcome host = (.error f, host) ∧
      (r'.key env).outcome host = (.error f', host) ∧
      (f.kind = .format ∧ f.cause? = some cause ∧
        f.message = Text.ofString "invalid base58 string " ++ t.quoted ++ Text.ofString ": " ++
          cause.message) ∧
      (f'.kind = .format ∧ f'.cause? = some cause ∧
        f'.message = Text.ofString "invalid base58 string " ++ t'.quoted ++ Text.ofString ": " ++
          cause.message) ∧
      (f.message = f'.message ↔ t = t') ∧
      PrivateKey.ofLiteral (.text t) = .error (.privateKeyLiteral f) ∧
      PrivateKey.ofLiteral (.text t') = .error (.privateKeyLiteral f') ∧
      (Failure.privateKeyLiteral f).message = (Failure.privateKeyLiteral f').message := by
  obtain ⟨cause, hflaw⟩ := Base58.exists_flaw hout
  have hflaw' : Base58.flaw? t' = some cause := by
    rw [← hflaw, ← Base58.flaw?_map_mask t, Base58.map_mask_eq_iff.mpr h, Base58.flaw?_map_mask]
  have hmessage : ∀ s : Text, (Failure.base58 (.text s) cause).message =
      Text.ofString "invalid base58 string " ++ s.quoted ++ Text.ofString ": " ++ cause.message :=
    fun s => by rw [Failure.message, Value.literal]
  have hliteral : ∀ s : Text, Base58.flaw? s = some cause →
      PrivateKey.ofLiteral (.text s) = .error (.privateKeyLiteral (.base58 (.text s) cause)) := by
    intro s hs
    rw [PrivateKey.ofLiteral, PrivateKey.ofBase58, Base58.decodeValue_of_flaw? hs]
    rfl
  refine ⟨_, _, cause, hr.outcome_of_flaw? hflaw env host, hr'.outcome_of_flaw? hflaw' env host,
    ⟨rfl, rfl, hmessage t⟩, ⟨rfl, rfl, hmessage t'⟩, ?_, hliteral t hflaw, hliteral t' hflaw', rfl⟩
  rw [hmessage, hmessage, List.append_left_inj, List.append_left_inj, List.append_right_inj]
  exact Text.quoted_inj h

/-- Two secrets with a zero in the same place and another last character, one of them in a JSON
string, are refused with different messages. -/
theorem refusal_tells_text_typo :
    let first : Text := Text.ofString "2w0A"
    let second : Text := Text.ofString "2w0B"
    let document : Value := .text (Json.printText second)
    let shown (t : Text) : Text := Text.ofString "invalid base58 string '" ++ t ++
      Text.ofString "': Invalid character '0'"
    List.Forall₂ Base58.Alike first second ∧ (∃ c ∈ first.trimEnd, c ∉ Base58.alphabet) ∧
      Json.ofDocument document = .ok (.str second) ∧
      ∃ f f', PrivateKey.ofBase58 (.text first) = .error f ∧ f.message = shown first ∧
        PrivateKey.ofJson document = .error f' ∧ f'.message = shown second ∧
        f.message ≠ f'.message := by
  intro first second document shown
  have halike : List.Forall₂ Base58.Alike first second :=
    Base58.map_mask_eq_iff.mp (by decide +kernel)
  have hout : ∃ c ∈ first.trimEnd, c ∉ Base58.alphabet := ⟨0x30, by decide +kernel, by decide⟩
  have hread : Json.ofDocument document = .ok (.str second) :=
    Json.ofDocument_print (.str (Json.unpaired_of_isAscii (List.all_eq_true.mp (by decide))))
  obtain ⟨f, f', cause, hf, hf', -, -, hiff, -⟩ := refusal_tells_text halike hout
    (.ofBase58 first) (.ofJson hread) {} {}
  have hfirst : PrivateKey.ofBase58 (.text first) = .error f := by
    simpa [key] using congrArg Prod.fst hf
  have hsecond : PrivateKey.ofJson document = .error f' := by
    simpa [key] using congrArg Prod.fst hf'
  have hzero : ∀ r : Route, ∀ t : Text, r.Reads t → Base58.flaw? t = some (.character 0x30) → ∀ g,
      (r.key {}).outcome {} = (.error g, {}) → g = .base58 (.text t) (.character 0x30) := by
    intro r t hr hflaw g hg
    rw [hr.outcome_of_flaw? hflaw] at hg
    exact (Except.error.inj (congrArg Prod.fst hg)).symm
  obtain rfl := hzero _ _ (.ofBase58 first) rfl f hf
  obtain rfl := hzero _ _ (.ofJson hread) rfl f' hf'
  refine ⟨halike, hout, hread, _, _, hfirst, by decide +kernel, hsecond, by decide +kernel, ?_⟩
  exact fun h => absurd (hiff.mp h) (by decide)

end Route
end LedgerKeys
