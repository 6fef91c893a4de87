/-
# Keys of seeds

A public key is computed from a seed of 32 bytes by whichever backend there is, and both compute
the same one (`outcome_publicKeyOfSeed_bytes`). Whatever else is handed over for a seed is refused,
so each key that comes back is the key of 32 bytes. A generated private key is such a seed with its
own public key (`exists_ofSeed_of_generate`), whatever the source of entropy answers.
-/
import LedgerKeys.Proofs.Outcome
import LedgerKeys.Signing

namespace LedgerKeys
namespace Signing

variable {env : Environment} {host after : Host}

/-! ## 1. Public keys -/

theorem wantLength_eq_ok_iff {what : Measured} {v : Value} {u : Unit} :
    wantLength what v = .ok u ↔ v.length = .ok what.expected := by
  unfold wantLength
  rw [except_bind_eq_ok]
  constructor
  · rintro ⟨n, hn, h⟩
    by_cases hexpected : n = what.expected
    · rw [hn, hexpected]
    · rw [if_neg hexpected] at h
      cases h
  · intro h
    refine ⟨what.expected, h, ?_⟩
    rw [if_pos rfl]
    rfl

theorem length_of_byteString? {v : Value} {bs : Bytes} (h : v.byteString? = some bs) :
    v.length = .ok bs.length := by
  cases v with
  | bytes bs' | buffer bs' =>
    cases h
    rfl
  | _ => cases h

/-- What a backend takes for a seed is a byte string. -/
theorem byteString?_of_seedFor {b : Backend} {v : Value} {seed : Bytes}
    (h : seedFor b v = .ok seed) : v.byteString? = some seed := by
  unfold seedFor at h
  split at h
  · cases h
    rfl
  · cases h
    rfl
  · cases h

/-- **A key is the key of 32 bytes**, and they are what was handed over. -/
theorem publicKeyOfSeed_eq_ok {v : Value} {key : Bytes}
    (h : (publicKeyOfSeed env v).result host = .ok key) :
    ∃ seed, seed.length = 32 ∧ v.byteString? = some seed ∧ key = Ed25519.publicKey seed := by
  unfold publicKeyOfSeed at h
  obtain ⟨u, hlen, h⟩ := (Effect.result_bind_eq_ok host).mp h
  obtain ⟨b, -, h⟩ := (Effect.result_bind_eq_ok _).mp h
  obtain ⟨seed, hseed, h⟩ := (Effect.result_bind_eq_ok _).mp h
  rw [Effect.result, Effect.outcome_ofExcept] at hlen hseed
  have hbytes := byteString?_of_seedFor hseed
  have hwant := wantLength_eq_ok_iff.mp hlen
  rw [length_of_byteString? hbytes] at hwant
  cases h
  exact ⟨seed, Except.ok.inj hwant, hbytes, rfl⟩

/-- **Every 32 bytes have a key**, the same one with each backend. -/
theorem outcome_publicKeyOfSeed_bytes {b : Backend}
    (hbackend : env.backend.outcome host = (.ok b, after)) {seed : Bytes}
    (hseed : seed.length = 32) :
    (publicKeyOfSeed env (.bytes seed)).outcome host = (.ok (Ed25519.publicKey seed), after) := by
  have hwant : wantLength .seed (.bytes seed) = .ok () :=
    wantLength_eq_ok_iff.mpr (congrArg Except.ok hseed)
  unfold publicKeyOfSeed
  simp only [Effect.outcome_bind, Effect.outcome_ofExcept, hwant, hbackend, seedFor,
    Effect.outcome_pure]

end Signing

/-! ## 2. Private keys -/

theorem PrivateKey.eq_of_data_eq {k k' : PrivateKey} (h : k.data = k'.data) : k = k' := by
  cases k
  cases k'
  cases h
  rfl

theorem ofLength_privateKey_eq_ok_iff {bs : Bytes} {k : PrivateKey} :
    ofLength .privateKey PrivateKey.ofBytes? bs = .ok k ↔ k.data = bs := by
  unfold ofLength PrivateKey.ofBytes?
  by_cases hlen : bs.length = 64
  · rw [dif_pos hlen]
    constructor
    · intro h
      cases h
      rfl
    · rintro rfl
      rfl
  · rw [dif_neg hlen]
    constructor
    · intro h
      cases h
    · rintro rfl
      exact absurd k.length_data hlen

namespace Signing

variable {env : Environment} {source : EntropySource} {host : Host} {k : PrivateKey}

/-- The bytes of the seed that a source answers. -/
def seedBytes (source : EntropySource) : Effect Bytes := do
  let seed ← freshSeed source
  Effect.ofExcept seed.toBytes

/-- It makes no difference that the seed is converted twice: both times it is worth the same bytes,
or the first time it is refused. -/
theorem outcome_freshSecret (env : Environment) (source : EntropySource) (host : Host) :
    (freshSecret env source).outcome host =
      (do
        let bs ← seedBytes source
        let key ← publicKeyOfSeed env (.bytes bs)
        pure (bs ++ key)).outcome host := by
  simp only [freshSecret, seedBytes, Effect.outcome_bind, Effect.outcome_ofExcept]
  rcases (freshSeed source).outcome host with ⟨r, after⟩
  cases r with
  | error f => rfl
  | ok seed =>
    cases hbs : seed.toBytes with
    | error f => simp only [hbs]
    | ok bs => simp only [hbs]

theorem freshSecret_eq_ok {bs : Bytes} (h : (freshSecret env source).result host = .ok bs) :
    ∃ seed, seed.length = 32 ∧ bs = seed ++ Ed25519.publicKey seed := by
  rw [Effect.result, outcome_freshSecret, ← Effect.result] at h
  obtain ⟨seed, -, h⟩ := (Effect.result_bind_eq_ok host).mp h
  obtain ⟨key, hkey, h⟩ := (Effect.result_bind_eq_ok _).mp h
  obtain ⟨seed', hlen, hseed, rfl⟩ := publicKeyOfSeed_eq_ok hkey
  cases hseed
  cases h
  exact ⟨seed, hlen, rfl⟩

/-- A generated key holds a fresh secret. -/
theorem generate_eq_ok_iff :
    (generate env source).result host = .ok k ↔
      (freshSecret env source).result host = .ok k.data := by
  unfold generate
  rw [Effect.result_bind_eq_ok]
  constructor
  · rintro ⟨bs, hbs, hk⟩
    rw [Effect.result_report_eq_ok, ofLength_privateKey_eq_ok_iff] at hk
    rw [hbs, hk]
  · intro h
    refine ⟨k.data, h, ?_⟩
    rw [Effect.result_report_eq_ok, ofLength_privateKey_eq_ok_iff]

/-- **A generated key is a seed with its own public key**, whatever the source of entropy is. -/
theorem exists_ofSeed_of_generate (h : (generate env source).result host = .ok k) :
    ∃ (seed : Bytes) (hseed : seed.length = 32), k = PrivateKey.ofSeed seed hseed := by
  obtain ⟨seed, hlen, hdata⟩ := freshSecret_eq_ok (generate_eq_ok_iff.mp h)
  exact ⟨seed, hlen, PrivateKey.eq_of_data_eq hdata⟩

end Signing
end LedgerKeys
