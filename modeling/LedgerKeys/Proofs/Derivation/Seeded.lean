/-
# What a seeded address tells

A text that is handed over as a seed stands for its bytes in UTF-8, and for nothing else: it is
measured in these bytes, so that the limit is met after a different number of characters for each
kind of them, and it is these bytes that are hashed.

They are hashed between two keys of a fixed length, so what is hashed tells the seed from the keys
(`seededPreimage_eq_iff`), and the bytes tell the text, as they are read back to it.
-/
import LedgerKeys.Proofs.Derivation.Checks
import LedgerKeys.Proofs.Derivation.Preimage
import LedgerKeys.Proofs.Text.Utf8

namespace LedgerKeys

/-- **Different texts have different bytes.** -/
theorem Utf8.encodeAll_injective : Function.Injective Utf8.encodeAll := by
  intro t t' h
  have hread := Utf8.decode_encodeAll t
  rw [h, Utf8.decode_encodeAll] at hread
  exact (Except.ok.inj hread).symm

namespace Derivation

/-! ## 1. Seeds by their bytes -/

/-- **What comes of a seed**: it is refused for its fault, or its bytes are hashed between the
keys. -/
theorem createWithSeed_candidate {seed : Value} (h : IsCandidate seed) (base owner : PublicKey) :
    createWithSeed (.publicKey base) seed (.publicKey owner) =
      match seedFault? seed with
      | some f => .error f
      | none => .ok (PublicKey.ofDigest (seededPreimage base.data (worth seed) owner.data)) := by
  rw [createWithSeed, h.shortSeed_eq, judge]
  cases seedFault? seed with
  | some f => rfl
  | none => rfl

/-- A text without surrogates is one of the seeds. -/
theorem isCandidate_text {t : Text} (ht : ∀ c ∈ t, c.isSurrogate = false) :
    IsCandidate (.text t) := .seed (.text ht)

/-- No address is made from a text that cannot be written in UTF-8. -/
theorem not_isSurrogate_of_createWithSeed {base owner : Value} {address : PublicKey} {t : Text}
    (h : createWithSeed base (.text t) owner = .ok address) : ∀ c ∈ t, c.isSurrogate = false := by
  obtain ⟨bs, hbs, -⟩ := except_bind_eq_ok.mp h
  obtain ⟨bs', hbytes, -⟩ := except_bind_eq_ok.mp hbs
  rw [seedBytes] at hbytes
  split at hbytes
  · next hencode => exact (Utf8.encode_eq_ok_iff.mp hencode).1
  · cases hbytes

/-! ## 2. What is hashed -/

/-- **The parts that what is hashed tells apart.**  The keys have a fixed length, one at either end,
and the seed is what is left between them. -/
theorem seededPreimage_eq_iff {base base' owner owner' : PublicKey} {bs bs' : Bytes} :
    seededPreimage base.data bs owner.data = seededPreimage base'.data bs' owner'.data ↔
      base = base' ∧ bs = bs' ∧ owner = owner' := by
  constructor
  · intro h
    have howners : owner.data.length = owner'.data.length := by
      rw [owner.length_data, owner'.length_data]
    have hbases : base.data.length = base'.data.length := by
      rw [base.length_data, base'.length_data]
    obtain ⟨hfront, howner⟩ := List.append_inj' h howners
    obtain ⟨hbase, hseed⟩ := List.append_inj hfront hbases
    exact ⟨PublicKey.eq_iff_data.mpr hbase, hseed, PublicKey.eq_iff_data.mpr howner⟩
  · rintro ⟨rfl, rfl, rfl⟩
    rfl

/-- A seeded address of a text is the hash of its bytes between the keys. -/
theorem eq_ofDigest_of_createWithSeed {base owner address : PublicKey} {t : Text}
    (h : createWithSeed (.publicKey base) (.text t) (.publicKey owner) = .ok address) :
    Utf8.encode t = .ok (Utf8.encodeAll t) ∧
      address = PublicKey.ofDigest (seededPreimage base.data (Utf8.encodeAll t) owner.data) := by
  have ht := not_isSurrogate_of_createWithSeed h
  refine ⟨Utf8.encode_eq_ok_iff.mpr ⟨ht, rfl⟩, ?_⟩
  rw [createWithSeed_candidate (isCandidate_text ht)] at h
  split at h
  · cases h
  · exact (Except.ok.inj h).symm

/-! ## 3. Texts as seeds -/

/-- **Texts are seeds by their bytes in UTF-8, and the hashed string tells them apart.**

A text without surrogates has bytes in UTF-8, and as a seed it comes to the same as these: the
refusal of a seed that is too long if and only if there are more than 32 of them, and otherwise the
address that is the hash of the base, these bytes and the owner.

Of two addresses that are made from texts, what was hashed is the same if and only if the bases, the
texts and the owners are; so the same address comes from the same parts, or by a collision. -/
theorem createWithSeed_tells_text :
    (∀ (base owner : PublicKey) (t : Text), (∀ c ∈ t, c.isSurrogate = false) →
      let create (seed : Value) := createWithSeed (.publicKey base) seed (.publicKey owner)
      ∃ utf8, Utf8.encode t = .ok utf8 ∧ create (.text t) = create (.bytes utf8) ∧
        ((∃ f, create (.text t) = .error f ∧ f.kind = .seedTooLong) ↔ 32 < utf8.length) ∧
        (¬ 32 < utf8.length → ∃ address, create (.text t) = .ok address ∧
          address.data = sha256 (base.data ++ utf8 ++ owner.data))) ∧
    ∀ (base base' owner owner' address address' : PublicKey) (t t' : Text),
      createWithSeed (.publicKey base) (.text t) (.publicKey owner) = .ok address →
      createWithSeed (.publicKey base') (.text t') (.publicKey owner') = .ok address' →
      ∃ utf8 utf8', Utf8.encode t = .ok utf8 ∧ Utf8.encode t' = .ok utf8' ∧
        let hashed := base.data ++ utf8 ++ owner.data
        let hashed' := base'.data ++ utf8' ++ owner'.data
        address.data = sha256 hashed ∧ address'.data = sha256 hashed' ∧
          (hashed = hashed' ↔ base = base' ∧ t = t' ∧ owner = owner') ∧
          (address = address' →
            (base = base' ∧ t = t' ∧ owner = owner') ∨ Sha256.Collision hashed hashed') := by
  constructor
  · intro base owner t ht create
    have hencode : Utf8.encode t = .ok (Utf8.encodeAll t) := Utf8.encode_eq_ok_iff.mpr ⟨ht, rfl⟩
    have hcreate : create (.text t) = _ :=
      createWithSeed_candidate (isCandidate_text ht) base owner
    have hbytes : create (.bytes (Utf8.encodeAll t)) = _ :=
      createWithSeed_candidate (.seed (.bytes _)) base owner
    have hfault : seedFault? (.text t) = if 32 < (Utf8.encodeAll t).length
      then some (.seedTooLong (Utf8.encodeAll t).length) else none := rfl
    refine ⟨Utf8.encodeAll t, hencode, hcreate.trans hbytes.symm, ?refused, fun hlen => ?made⟩
    case refused =>
      rw [hcreate, hfault]
      constructor
      · rintro ⟨f, hf, -⟩
        by_contra hlen
        rw [if_neg hlen] at hf
        cases hf
      · intro hlen
        rw [if_pos hlen]
        exact ⟨_, rfl, rfl⟩
    case made =>
      rw [hcreate, hfault, if_neg hlen]
      exact ⟨_, rfl, rfl⟩
  · intro base base' owner owner' address address' t t' haddress haddress'
    obtain ⟨hencode, rfl⟩ := eq_ofDigest_of_createWithSeed haddress
    obtain ⟨hencode', rfl⟩ := eq_ofDigest_of_createWithSeed haddress'
    have hiff : seededPreimage base.data (Utf8.encodeAll t) owner.data =
        seededPreimage base'.data (Utf8.encodeAll t') owner'.data ↔
          base = base' ∧ t = t' ∧ owner = owner' := by
      rw [seededPreimage_eq_iff, Utf8.encodeAll_injective.eq_iff]
    exact ⟨_, _, hencode, hencode', rfl, rfl, hiff,
      fun hsame => (PublicKey.eq_or_collision_of_ofDigest hsame).imp_left hiff.mp⟩

/-- Eleven sun signs are too long, having three bytes each, and ten are not; the empty text under
the same keys is hashed with them as another string. -/
theorem createWithSeed_tells_text_suns :
    let suns (n : Nat) : Text := List.replicate n 0x2609
    let create (t : Text) :=
      createWithSeed (.publicKey .zero) (.text t) (.publicKey Program.token)
    let address (bs : Bytes) : PublicKey :=
      .ofDigest (seededPreimage PublicKey.zero.data bs Program.token.data)
    (∀ n, ∀ c ∈ suns n, c.isSurrogate = false) ∧
      (∃ f, create (suns 11) = .error f ∧ f.kind = .seedTooLong) ∧
      create (suns 10) = .ok (address (Utf8.encodeAll (suns 10))) ∧
      create [] = .ok (address []) ∧
      ∃ hashed hashed', (address (Utf8.encodeAll (suns 10))).data = sha256 hashed ∧
        (address []).data = sha256 hashed' ∧ hashed ≠ hashed' := by
  intro suns create address
  have hsuns : ∀ n, ∀ c ∈ suns n, c.isSurrogate = false := fun n c hc => by
    rw [List.eq_of_mem_replicate hc]
    rfl
  obtain ⟨hmeasured, htold⟩ := createWithSeed_tells_text
  have hten : create (suns 10) = .ok (address (Utf8.encodeAll (suns 10))) := rfl
  have hnone : create [] = .ok (address []) := rfl
  refine ⟨hsuns, ?_, hten, hnone, ?_⟩
  · obtain ⟨utf8, hutf8, -, hiff, -⟩ := hmeasured .zero Program.token (suns 11) (hsuns 11)
    cases hutf8
    exact hiff.mpr (by decide)
  · obtain ⟨utf8, utf8', -, -, hhashed, hhashed', hiff, -⟩ := htold _ _ _ _ _ _ _ _ hten hnone
    refine ⟨_, _, hhashed, hhashed', fun h => ?_⟩
    have hempty : suns 10 = [] := (hiff.mp h).2.1
    cases hempty

end Derivation
end LedgerKeys
