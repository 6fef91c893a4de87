/-
# No signer owns a program derived address

Two parts of the library that do not know of each other are tied together here. The public key of
a seed is the compressed form of a multiple of the base point, and such bytes are on the curve
(`isOnCurve_publicKeyOfSeed`). A derivation gives an address only if its digest is off the curve
(`isOnCurve_of_createProgramAddress`), and so does the search, under whatever bump it stops. So no
address is a public key.
-/
import LedgerKeys.Proofs.Curve.Decompression
import LedgerKeys.Proofs.Derivation.Search
import LedgerKeys.Proofs.Key.Generation

namespace LedgerKeys
namespace Derivation

variable {env : Environment} {host : Host} {seeds program : Value} {address : PublicKey}

/-! ## 1. Public keys are on the curve -/

theorem isOnCurve_bytes {bs : Bytes} (hlen : bs.length = 32) :
    isOnCurve (.bytes bs) = .ok (Curve.isOnCurve bs) := by
  have hne : ¬ bs.length ≠ 32 := fun h => h hlen
  unfold isOnCurve
  simp only [Value.length, Value.toBytes, bind, Except.bind, if_neg hne]
  rfl

theorem isOnCurve_publicKeyOfSeed {v : Value} {key : Bytes}
    (h : (Signing.publicKeyOfSeed env v).result host = .ok key) :
    Curve.isOnCurve key = true := by
  obtain ⟨seed, -, -, rfl⟩ := Signing.publicKeyOfSeed_eq_ok h
  exact Ed25519.isOnCurve_publicKey seed

theorem isOnCurve_of_generate {source : EntropySource} {k : PrivateKey}
    (h : (Signing.generate env source).result host = .ok k) :
    Curve.isOnCurve k.publicKey.data = true := by
  obtain ⟨seed, hlen, rfl⟩ := Signing.exists_ofSeed_of_generate h
  have hhalf : (PrivateKey.ofSeed seed hlen).publicKey.data = Ed25519.publicKey seed :=
    List.drop_left' hlen
  rw [hhalf]
  exact Ed25519.isOnCurve_publicKey seed

/-! ## 2. Addresses are off the curve -/

theorem isOnCurve_of_createProgramAddress
    (h : (createProgramAddress curveCheck seeds program).result host = .ok address) :
    Curve.isOnCurve address.data = false := by
  obtain ⟨preimage, -, hcheck, rfl⟩ := result_createProgramAddress_eq_ok_iff.mp h
  exact Except.ok.inj hcheck

theorem isOnCurve_of_findProgramAddress {b : Nat}
    (h : (findProgramAddress curveCheck seeds program).result host = .ok (address, b)) :
    Curve.isOnCurve address.data = false := by
  obtain ⟨seeds', host', h'⟩ := exists_createProgramAddress_of_find h
  exact isOnCurve_of_createProgramAddress h'

/-! ## 3. The two never meet -/

theorem ne_of_isOnCurve {key bs : Bytes} (hkey : Curve.isOnCurve key = true)
    (hbs : Curve.isOnCurve bs = false) : key ≠ bs := by
  rintro rfl
  rw [hkey] at hbs
  cases hbs

/-- **No signer owns a program derived address.**  With whichever backend there is, every seed has
a public key, and it is on the curve. An address that a derivation or a search gives with the check
of the curve itself, from whatever seeds and program, is no public key of any seed, and not that of
any generated private key. -/
theorem publicKey_ne_programAddress :
    (∀ (env : Environment) (host after : Host) (b : Backend) (seed : Bytes),
      env.backend.outcome host = (.ok b, after) → seed.length = 32 →
        ∃ key, (Signing.publicKeyOfSeed env (.bytes seed)).outcome host = (.ok key, after) ∧
          isOnCurve (.bytes key) = .ok true) ∧
      ∀ (seeds program : Value) (host : Host) (address : PublicKey),
        ((createProgramAddress curveCheck seeds program).result host = .ok address ∨
          ∃ b, (findProgramAddress curveCheck seeds program).result host = .ok (address, b)) →
        (∀ (env : Environment) (seed : Value) (host : Host) (key : Bytes),
          (Signing.publicKeyOfSeed env seed).result host = .ok key → key ≠ address.data) ∧
          ∀ (env : Environment) (source : EntropySource) (host : Host) (k : PrivateKey),
            (Signing.generate env source).result host = .ok k → k.publicKey ≠ address := by
  constructor
  · intro env host after b seed hbackend hseed
    refine ⟨Ed25519.publicKey seed, Signing.outcome_publicKeyOfSeed_bytes hbackend hseed, ?_⟩
    rw [isOnCurve_bytes (Ed25519.length_publicKey seed), Ed25519.isOnCurve_publicKey]
  · intro seeds program host address haddress
    have hoff : Curve.isOnCurve address.data = false := by
      rcases haddress with h | ⟨b, h⟩
      · exact isOnCurve_of_createProgramAddress h
      · exact isOnCurve_of_findProgramAddress h
    constructor
    · intro env seed host key hkey
      exact ne_of_isOnCurve (isOnCurve_publicKeyOfSeed hkey) hoff
    · intro env source host k hk heq
      exact ne_of_isOnCurve (isOnCurve_of_generate hk) hoff (congrArg PublicKey.data heq)

/-- The seed of zeros has a key, and it is not the address of the token program without seeds. -/
theorem publicKey_ne_programAddress_token :
    let seed := Bytes.zeros 32
    let address := PublicKey.ofDigest (programPreimage [[255]] Program.token.data)
    ({} : Environment).backend.outcome {} = (.ok .strict, {}) ∧ seed.length = 32 ∧
      (findProgramAddress curveCheck (.list []) (.publicKey Program.token)).result {} =
        .ok (address, maxBump) ∧
      ∃ key, (Signing.publicKeyOfSeed {} (.bytes seed)).outcome {} = (.ok key, {}) ∧
        isOnCurve (.bytes key) = .ok true ∧ key ≠ address.data := by
  intro seed address
  have hbackend : ({} : Environment).backend.outcome {} = (.ok .strict, {}) := rfl
  have hlen : seed.length = 32 := Bytes.length_zeros 32
  have hoff : Curve.isOnCurve (sha256 (programPreimage [[255]] Program.token.data)) = false := by
    decide +kernel
  have hpre : checkedPreimage (.list ([] ++ [bumpSeed maxBump])) (.publicKey Program.token) =
      .ok (programPreimage [[255]] Program.token.data) := by
    have hbs : ([] ++ [bumpSeed maxBump]).mapM shortSeed = .ok [[255]] := rfl
    exact checkedPreimage_list_eq_ok (by decide) hbs Program.isReserved_token
  have hattempt : (createProgramAddress curveCheck (.list ([] ++ [bumpSeed maxBump]))
      (.publicKey Program.token)).result {} = .ok address :=
    result_createProgramAddress_eq_ok_iff.mpr ⟨_, hpre, congrArg Except.ok hoff, rfl⟩
  have hfound : (findProgramAddress curveCheck (.list []) (.publicKey Program.token)).result {} =
      .ok (address, maxBump) := result_findProgramAddress_of_maxBump rfl hattempt
  obtain ⟨hkeys, haddresses⟩ := publicKey_ne_programAddress
  obtain ⟨key, hkey, hon⟩ := hkeys {} {} {} .strict seed hbackend hlen
  obtain ⟨hne, -⟩ := haddresses (.list []) (.publicKey Program.token) {} address
    (.inr ⟨maxBump, hfound⟩)
  exact ⟨hbackend, hlen, hfound, key, hkey, hon,
    hne {} (.bytes seed) {} key (Effect.result_of_outcome hkey)⟩

end Derivation
end LedgerKeys
