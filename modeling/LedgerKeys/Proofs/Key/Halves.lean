/-
# The halves of private keys

A private key signs with its first half and is known by its second one, so its signatures are
signatures under its own public key only if the second half is the key of the first
(`PrivateKey.HalvesAgree`). Here is when that is so. Each way to a private key ends in a check of
the length and in nothing else, so the key holds just the bytes that its input spells
(`Route.key_eq_ok_iff`). Generation spells a seed with its own public key; an import spells whatever
it was given.

That the halves of an imported key agree is therefore up to the input. If they do not, nothing is
noticed until a signature is verified: with a second half that is no canonical key, the strict
verifier refuses every signature.
-/
import LedgerKeys.Keygen.File
import LedgerKeys.Proofs.Base58.Reading
import LedgerKeys.Proofs.Curve.Decompression
import LedgerKeys.Proofs.Signature.Operation

namespace LedgerKeys

/-! ## 1. Halves that agree -/

namespace PrivateKey

/-- The public half is the public key of the seed, which is the one that every backend finds for it
(`halvesAgree_iff_publicKeyOfSeed`). -/
def HalvesAgree (k : PrivateKey) : Prop := k.publicKey.data = Ed25519.publicKey k.seed

instance (k : PrivateKey) : Decidable k.HalvesAgree := inferInstanceAs (Decidable (_ = _))

theorem length_seed (k : PrivateKey) : k.seed.length = 32 := by
  rw [seed, List.length_take, k.length_data]
  rfl

theorem seed_append_publicKey (k : PrivateKey) : k.seed ++ k.publicKey.data = k.data :=
  List.take_append_drop 32 k.data

/-- The halves agree if the backend finds the public half for the seed. -/
theorem halvesAgree_iff_publicKeyOfSeed {env : Environment} {host after : Host} {b : Backend}
    (hbackend : env.backend.outcome host = (.ok b, after)) (k : PrivateKey) :
    k.HalvesAgree ↔
      (Signing.publicKeyOfSeed env (.bytes k.seed)).result host = .ok k.publicKey.data := by
  rw [Effect.result, Signing.outcome_publicKeyOfSeed_bytes hbackend k.length_seed]
  constructor
  · intro h
    exact congrArg Except.ok h.symm
  · intro h
    exact (Except.ok.inj h).symm

/-- The halves agree if the key is a seed with its own public key. -/
theorem halvesAgree_iff_data {k : PrivateKey} :
    k.HalvesAgree ↔
      ∃ seed, seed.length = 32 ∧ k.data = seed ++ Ed25519.publicKey seed := by
  constructor
  · intro h
    refine ⟨k.seed, k.length_seed, ?_⟩
    rw [← h, seed_append_publicKey]
  · rintro ⟨seed, hseed, hdata⟩
    rw [← k.seed_append_publicKey] at hdata
    obtain ⟨hfirst, hsecond⟩ := List.append_inj hdata (k.length_seed.trans hseed.symm)
    rw [HalvesAgree, hfirst, hsecond]

/-- Halves that agree make a canonical public key. -/
theorem HalvesAgree.isCanonical {k : PrivateKey} (h : k.HalvesAgree) :
    Curve.isCanonical k.publicKey.data = true := by
  rw [h]
  exact Ed25519.isCanonical_publicKey k.seed

end PrivateKey

/-! ## 2. The ways to a private key -/

/-- The ways to a private key. The last two make a wallet around it. -/
inductive Route where
  | ofValue (v : Value)
  | generate (source : EntropySource)
  | ofBase58 (v : Value)
  | ofJson (document : Value)
  | ofKeygen (document : Value)
  | readFile (path : Value)
  | newWallet (source : EntropySource)
  | walletOfBase58 (v : Value)

namespace Route

variable {env : Environment} {host : Host} {k : PrivateKey}

/-- The key that is made. -/
def key (env : Environment) : Route → Effect PrivateKey
  | ofValue v => Effect.ofExcept (PrivateKey.ofValue v)
  | generate source | newWallet source => Signing.generate env source
  | ofBase58 v | walletOfBase58 v => Effect.ofExcept (PrivateKey.ofBase58 v)
  | ofJson document => Effect.ofExcept (PrivateKey.ofJson document)
  | ofKeygen document => Effect.ofExcept (PrivateKey.ofKeygen document)
  | readFile path => Keygen.read path

/-- Whether the key is drawn afresh. -/
def IsFresh : Route → Prop
  | generate _ | newWallet _ => True
  | _ => False

/-- The base58 text in a JSON string, decoded. -/
def bytesOfJson (document : Value) : Except Failure Bytes := do
  match ← rescue Json.isMalformed .privateKeyJson (Json.ofDocument document) with
  | .str t => Base58.decodeValue (.text t)
  | _ => .error .privateKeyNotText

/-- The content of a file, decoded. -/
def bytesOfFile (path : Value) : Effect Bytes := do
  let p ← Effect.ofExcept (Keygen.pathOf path)
  if !(← Keygen.isPresent p) then throw (.keygenMissing p.toText)
  let content ← Keygen.readBytes p
  Effect.ofExcept (Keygen.decode (.bytes content))

/-- The bytes that the input spells: what is decoded, before its length is looked at. -/
def spelled (env : Environment) : Route → Effect Bytes
  | ofValue v => Effect.ofExcept v.keyData
  | generate source | newWallet source => Signing.freshSecret env source
  | ofBase58 v | walletOfBase58 v => Effect.ofExcept (Base58.decodeValue v)
  | ofJson document => Effect.ofExcept (bytesOfJson document)
  | ofKeygen document => Effect.ofExcept (Keygen.decode document)
  | readFile path => bytesOfFile path

end Route

/-! ## 3. A key holds what its input spells -/

section Spelled

variable {env : Environment} {host : Host} {k : PrivateKey}

theorem bind_ofLength_eq_ok_iff {r : Except Failure Bytes} :
    (r >>= ofLength .privateKey PrivateKey.ofBytes?) = .ok k ↔ r = .ok k.data := by
  rw [except_bind_eq_ok]
  constructor
  · rintro ⟨bs, hbs, hk⟩
    rw [hbs, ofLength_privateKey_eq_ok_iff.mp hk]
  · intro h
    exact ⟨k.data, h, ofLength_privateKey_eq_ok_iff.mpr rfl⟩

theorem PrivateKey.ofJson_eq_ok_iff {document : Value} :
    ofJson document = .ok k ↔ Route.bytesOfJson document = .ok k.data := by
  unfold ofJson Route.bytesOfJson
  rw [except_bind_eq_ok, except_bind_eq_ok]
  refine exists_congr fun found => and_congr_right fun _ => ?_
  cases found with
  | str t => exact bind_ofLength_eq_ok_iff
  | _ => simp

theorem Keygen.read_eq_ok_iff {path : Value} :
    (read path).result host = .ok k ↔ (Route.bytesOfFile path).result host = .ok k.data := by
  unfold read Route.bytesOfFile
  rw [Effect.result_bind_eq_ok, Effect.result_bind_eq_ok]
  refine exists_congr fun p => and_congr_right fun _ => ?_
  rw [Effect.result_bind_eq_ok, Effect.result_bind_eq_ok]
  refine exists_congr fun present => and_congr_right fun _ => ?_
  cases present with
  | false => exact ⟨fun h => (by cases h), fun h => (by cases h)⟩
  | true =>
    simp only [Bool.not_true, Bool.false_eq_true, if_false]
    rw [Effect.result_bind_eq_ok, Effect.result_bind_eq_ok]
    refine exists_congr fun content => and_congr_right fun _ => ?_
    rw [Effect.result_report_eq_ok, Effect.result_ofExcept]
    exact bind_ofLength_eq_ok_iff

/-- **A key holds what its input spells**, and every 64 bytes that are spelled make a key. No way
looks at the halves. -/
theorem Route.key_eq_ok_iff (route : Route) :
    (route.key env).result host = .ok k ↔ (route.spelled env).result host = .ok k.data := by
  cases route with
  | ofValue v | ofBase58 v | walletOfBase58 v | ofKeygen v =>
    simp only [key, spelled, Effect.result_ofExcept]
    exact bind_ofLength_eq_ok_iff
  | ofJson document =>
    simp only [key, spelled, Effect.result_ofExcept]
    exact PrivateKey.ofJson_eq_ok_iff
  | generate source | newWallet source => exact Signing.generate_eq_ok_iff
  | readFile path => exact Keygen.read_eq_ok_iff

theorem Route.key_ofBase58 {v : Value} (h : Base58.decodeValue v = .ok k.data) :
    ((ofBase58 v).key env).result host = .ok k := by
  rw [Route.key_eq_ok_iff, spelled, Effect.result_ofExcept]
  exact h

end Spelled

/-! ## 4. Keys whose signatures are refused -/

/-- Under a public half that is not canonical the strict verifier refuses every signature of every
message, those that the key itself has made included. -/
theorem Signing.verifyWith_of_not_canonical {env : Environment} {host after : Host}
    (hbackend : env.backend.outcome host = (.ok .strict, after)) {k : PublicKey}
    (hk : Curve.isCanonical k.data = false) (s : Signature) (message : Bytes) :
    (verifyWith env s (.publicKey k) (.bytes message)).result host = .ok false := by
  rw [result_verifyWith hbackend, Backend.verifies, Ed25519.verifyStrict, hk]
  rfl

/-! ## 5. When the halves agree -/

/-- **When the halves of a key agree.**  A way to a private key gives the key with the bytes that
its input spells, and the halves agree exactly if these are a seed with its own public key. Fresh
keys are like that. For the others nothing ensures it: every 64 bytes are a key. -/
theorem Route.halvesAgree_iff (env : Environment) (host : Host) :
    (∀ (route : Route) (k : PrivateKey), (route.key env).result host = .ok k →
        (k.HalvesAgree ↔ ∃ seed, seed.length = 32 ∧
          (route.spelled env).result host = .ok (seed ++ Ed25519.publicKey seed))) ∧
      (∀ (route : Route) (k : PrivateKey), route.IsFresh →
        (route.key env).result host = .ok k → k.HalvesAgree) ∧
      ∀ k : PrivateKey, ((ofValue (.bytes k.data)).key env).result host = .ok k := by
  refine ⟨fun route k h => ?_, fun route k hfresh h => ?_, fun k => ?_⟩
  · rw [route.key_eq_ok_iff] at h
    rw [PrivateKey.halvesAgree_iff_data, h]
    refine exists_congr fun seed => and_congr_right fun _ => ?_
    exact ⟨congrArg Except.ok, Except.ok.inj⟩
  · rw [PrivateKey.halvesAgree_iff_data]
    cases route with
    | generate source | newWallet source =>
      obtain ⟨seed, hseed, rfl⟩ := Signing.exists_ofSeed_of_generate h
      exact ⟨seed, hseed, rfl⟩
    | _ => cases hfresh
  · rw [Route.key_eq_ok_iff]
    rfl

/-- A seed of zeros, with a public half that is the key of no seed. -/
def PrivateKey.mismatched : PrivateKey :=
  ⟨Bytes.zeros 32 ++ List.replicate 32 255, by simp⟩

/-- The key that is generated from zeros agrees. The text of `mismatched` is read back as it is, and
no signature that this key makes is valid under its own public half. -/
theorem halvesAgree_iff_zeros :
    let own : PrivateKey := .ofSeed (Bytes.zeros 32) (Bytes.length_zeros 32)
    let other : PrivateKey := .mismatched
    let fresh : Route := .generate fun _ => .ok (.bytes (Bytes.zeros 32))
    let imported : Route := .ofBase58 (.text other.toBase58)
    (fresh.IsFresh ∧ (fresh.key {}).result {} = .ok own ∧ own.HalvesAgree) ∧
      (imported.key {}).result {} = .ok other ∧ ¬ other.HalvesAgree ∧
      (¬ ∃ seed, seed.length = 32 ∧
        (imported.spelled {}).result {} = .ok (seed ++ Ed25519.publicKey seed)) ∧
      ∀ message, (Signing.verifyWith {} (other.sign message) (.publicKey other.publicKey)
        (.bytes message)).result {} = .ok false := by
  intro own other fresh imported
  obtain ⟨hiff, hfresh, -⟩ := Route.halvesAgree_iff {} {}
  have hown : (fresh.key {}).result {} = .ok own := Signing.generate_eq_ok_iff.mpr rfl
  have hspelled : Base58.decodeValue (.text other.toBase58) = .ok other.data :=
    Base58.decodeValue_encode other.data
  have hother : (imported.key {}).result {} = .ok other := Route.key_ofBase58 hspelled
  have hcanonical : Curve.isCanonical other.publicKey.data = false := by decide +kernel
  have hdiffer : ¬ other.HalvesAgree := by
    intro h
    rw [h.isCanonical] at hcanonical
    cases hcanonical
  refine ⟨⟨trivial, hown, hfresh fresh own trivial hown⟩, hother, hdiffer, ?_, fun message => ?_⟩
  · exact fun h => hdiffer ((hiff imported other hother).mpr h)
  · exact Signing.verifyWith_of_not_canonical rfl hcanonical (other.sign message) message

end LedgerKeys
