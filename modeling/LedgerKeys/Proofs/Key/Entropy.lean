/-
# Keys from a source of entropy

To generate a key, a source of entropy is asked once, for 32 bytes, and may answer anything or fail
in any way. What the answer is worth is told by the answer alone (`seedOf`): it is a seed if it has
32 elements that make bytes (`seedOf_eq_ok_iff`), and it is refused for want of entropy if it is one
of a few that say so (`NoEntropy`, `kind_of_seedOf_iff`). The choice of a backend comes after that.
It can add a warning to the log and can fail, but not for want of entropy.

A key is reported when it is there, so a failure leaves no more behind than the request and perhaps
the warning (`outcome_generate_of_refused`, `outcome_generate_of_seed`).
-/
import LedgerKeys.Proofs.Key.Generation

namespace LedgerKeys

/-! ## 1. The bytes of a value -/

namespace Value

variable {v : Value} {vs : List Value} {bs : Bytes} {f : Failure}

/-- What has a length is worth as many bytes, if any. -/
theorem length_of_toBytes {n : Nat} (hlen : v.length = .ok n) (hbs : v.toBytes = .ok bs) :
    bs.length = n := by
  cases v with
  | bytes bs' | buffer bs' =>
    cases hlen
    cases hbs
    rfl
  | list vs | tuple vs | keyList vs | map vs =>
    cases hlen
    exact length_of_mapM_eq_ok hbs
  | text t => cases hbs
  | _ => cases hlen

theorem kind_of_toByte_eq_error (h : v.toByte = .error f) :
    f.kind = .wrongType ∨ f.kind = .wrongValue := by
  unfold toByte at h
  split at h
  · cases h
    exact .inl rfl
  · split at h
    · cases h
    · cases h
      exact .inr rfl

/-- What has a length and is worth no bytes is of the wrong kind or has a wrong number in it. -/
theorem kind_of_toBytes_eq_error {n : Nat} (hlen : v.length = .ok n) (h : v.toBytes = .error f) :
    f.kind = .wrongType ∨ f.kind = .wrongValue := by
  cases v with
  | list vs | tuple vs | keyList vs | map vs =>
    obtain ⟨v, -, hv⟩ := exists_mem_of_mapM_eq_error h
    exact kind_of_toByte_eq_error hv
  | text t =>
    cases h
    exact .inl rfl
  | bytes bs | buffer bs => cases h
  | _ => cases hlen

theorem kind_of_length_eq_error (h : v.length = .error f) : f.kind = .wrongType := by
  cases v <;> cases h <;> rfl

end Value

/-! ## 2. The choice of a backend -/

namespace Environment

theorem exists_outcome_available (env : Environment) :
    ∃ r, (∀ host, env.available.outcome host = (r, host)) ∧
      ∀ f, r = .error f → f.kind = .missingModule := by
  unfold available
  cases Backend.all.find? fun b => !env.missing.contains b with
  | some b => exact ⟨.ok b, fun _ => rfl, nofun⟩
  | none =>
    refine ⟨.error .backendMissing, fun _ => rfl, ?_⟩
    rintro f ⟨⟩
    rfl

/-- **Whatever is left behind, the same backend is chosen**, or the choice fails in the same way.
It reports at most that the preferred backend is missing. -/
theorem exists_outcome_backend (env : Environment) :
    ∃ r warnings, (∀ host, env.backend.outcome host =
        (r, { host with log := host.log ++ warnings })) ∧
      (warnings = [] ∨ ∃ name, env.preferred = some name ∧ warnings = [.backendAbsent name]) ∧
      ∀ f, r = .error f → f.kind = .missingModule ∨ f.kind = .wrongValue := by
  obtain ⟨r, hr, hkind⟩ := exists_outcome_available env
  have hdefault : ∀ host, env.available.outcome host =
      (r, { host with log := host.log ++ [] }) := fun host => by rw [hr, List.append_nil]
  unfold backend
  split
  · exact ⟨r, [], hdefault, .inl rfl, fun f hf => .inl (hkind f hf)⟩
  · exact ⟨r, [], hdefault, .inl rfl, fun f hf => .inl (hkind f hf)⟩
  · next name _ hname =>
    split
    · refine ⟨.error (.backendUnknown name), [], fun host => ?_, .inl rfl, ?_⟩
      · rw [Effect.outcome_throw, List.append_nil]
      · rintro f ⟨⟩
        exact .inr rfl
    · next b _ =>
      split
      · refine ⟨r, [.backendAbsent name], fun host => ?_, .inr ⟨name, hname, rfl⟩,
          fun f hf => .inl (hkind f hf)⟩
        rw [Effect.outcome_bind, Effect.outcome_report]
        exact hr _
      · refine ⟨.ok b, [], fun host => ?_, .inl rfl, nofun⟩
        rw [Effect.outcome_pure, List.append_nil]

end Environment

namespace Signing

/-! ## 3. What an answer is worth -/

variable {env : Environment} {source : EntropySource} {answer : Except Failure Value}
  {seed : Bytes}

/-- The seed that the answer of a source is worth. -/
def seedOf : Except Failure Value → Except Failure Bytes
  | .error f => .error (if isEntropyFailure f then .entropyUnavailable f else f)
  | .ok .null => .error (.entropyLength 0)
  | .ok v =>
    match v.length with
    | .ok n => if n = 32 then v.toBytes else .error (.entropyLength n)
    | .error f => .error f

/-- The answer says that there is no entropy: it is a failure of the system, or one of a source that
is not implemented; or it is nothing; or it has a length, but not the one asked for. -/
def NoEntropy (answer : Except Failure Value) : Prop :=
  (∃ f, answer = .error f ∧ (f.isA .system = true ∨ f.isA .notImplemented = true)) ∨
    answer = .ok .null ∨ ∃ v n, answer = .ok v ∧ v.length = .ok n ∧ n ≠ 32

/-- Nothing has no length, so that it is refused on its own. -/
theorem seedOf_ok {v : Value} (hv : v ≠ .null) :
    seedOf (.ok v) =
      match v.length with
      | .ok n => if n = 32 then v.toBytes else .error (.entropyLength n)
      | .error f => .error f := by
  cases v with
  | null => exact absurd rfl hv
  | _ => rfl

theorem ne_null_of_length {v : Value} {n : Nat} (h : v.length = .ok n) : v ≠ .null := by
  rintro rfl
  cases h

/-- **A seed is what has 32 elements that make bytes.** -/
theorem seedOf_eq_ok_iff :
    seedOf answer = .ok seed ↔ ∃ v, answer = .ok v ∧ v.length = .ok 32 ∧ v.toBytes = .ok seed := by
  constructor
  · intro h
    cases answer with
    | error f => cases h
    | ok v =>
      by_cases hv : v = .null
      · subst hv
        cases h
      · rw [seedOf_ok hv] at h
        cases hlen : v.length with
        | error f => simp [hlen] at h
        | ok n =>
          by_cases hn : n = 32
          · subst hn
            exact ⟨v, rfl, hlen, by simpa [hlen] using h⟩
          · simp [hlen, hn] at h
  · rintro ⟨v, rfl, hlen, hbs⟩
    simp [seedOf_ok (ne_null_of_length hlen), hlen, hbs]

theorem isEntropyFailure_iff {f : Failure} :
    isEntropyFailure f = true ↔ f.isA .system = true ∨ f.isA .notImplemented = true :=
  Bool.or_eq_true_iff

/-- A failure for want of entropy is itself one of the system. -/
theorem isEntropyFailure_of_kind {f : Failure} (h : f.kind = .randomSource) :
    isEntropyFailure f = true := by
  rw [isEntropyFailure_iff, Failure.isA, h]
  exact .inl (by decide)

/-- An answer that is refused for want of entropy says so. -/
theorem noEntropy_of_seedOf {f : Failure} (h : seedOf answer = .error f)
    (hkind : f.kind = .randomSource) : NoEntropy answer := by
  cases answer with
  | error g =>
    by_cases hwanting : isEntropyFailure g = true
    · exact .inl ⟨g, rfl, isEntropyFailure_iff.mp hwanting⟩
    · rw [seedOf, if_neg hwanting] at h
      cases h
      exact absurd (isEntropyFailure_of_kind hkind) hwanting
  | ok v =>
    by_cases hv : v = .null
    · exact .inr (.inl (congrArg Except.ok hv))
    rw [seedOf_ok hv] at h
    cases hlen : v.length with
    | error g =>
      simp only [hlen, Except.error.injEq] at h
      rw [← h, Value.kind_of_length_eq_error hlen] at hkind
      cases hkind
    | ok n =>
      by_cases hn : n = 32
      · simp only [hlen, if_pos hn] at h
        rcases Value.kind_of_toBytes_eq_error hlen h with hother | hother
        · rw [hother] at hkind
          cases hkind
        · rw [hother] at hkind
          cases hkind
      · exact .inr (.inr ⟨v, n, rfl, hlen, hn⟩)

/-- **A seed is refused for want of entropy just where the answer says that there is none.** -/
theorem kind_of_seedOf_iff :
    (∃ f, seedOf answer = .error f ∧ f.kind = .randomSource) ↔ NoEntropy answer := by
  refine ⟨fun ⟨f, h, hkind⟩ => noEntropy_of_seedOf h hkind, ?_⟩
  rintro (⟨f, rfl, hf⟩ | rfl | ⟨v, n, rfl, hlen, hn⟩)
  · refine ⟨.entropyUnavailable f, ?_, rfl⟩
    rw [seedOf, if_pos (isEntropyFailure_iff.mpr hf)]
  · exact ⟨.entropyLength 0, rfl, rfl⟩
  · refine ⟨.entropyLength n, ?_, rfl⟩
    simp only [seedOf_ok (ne_null_of_length hlen), hlen, if_neg hn]

/-! ## 4. What is left behind -/

/-- **The source is asked once, for 32 bytes**, and its answer tells the rest. -/
theorem outcome_seedBytes (source : EntropySource) (host : Host) :
    (seedBytes source).outcome host =
      (seedOf (source 32), { host with requests := host.requests ++ [32] }) := by
  simp only [seedBytes, freshSeed, Effect.outcome_bind, Effect.outcome_rescue,
    Effect.outcome_askEntropy]
  cases source 32 with
  | error f => rfl
  | ok v =>
    by_cases hv : v = .null
    · rw [hv]
      rfl
    simp only [rescue, seedOf_ok hv, Effect.outcome_bind, Effect.outcome_ofExcept]
    cases hlen : v.length with
    | error f => rfl
    | ok n =>
      by_cases hn : n = 32
      · simp only [hn, ne_eq, not_true_eq_false, if_false, if_true, Effect.outcome_pure]
      · simp only [hn, ne_eq, not_false_eq_true, if_true, if_false, Effect.outcome_bind,
          Effect.outcome_throw]

/-- The key of 32 bytes is found if there is a backend. -/
theorem outcome_publicKeyOfSeed (env : Environment) (hseed : seed.length = 32) (host : Host) :
    (publicKeyOfSeed env (.bytes seed)).outcome host =
      ((env.backend.outcome host).1.map fun _ => Ed25519.publicKey seed,
        (env.backend.outcome host).2) := by
  cases hbackend : env.backend.outcome host with
  | mk r after =>
    cases r with
    | ok b => exact outcome_publicKeyOfSeed_bytes hbackend hseed
    | error f =>
      have hwant : wantLength .seed (.bytes seed) = .ok () :=
        wantLength_eq_ok_iff.mpr (congrArg Except.ok hseed)
      unfold publicKeyOfSeed
      simp only [Effect.outcome_bind, Effect.outcome_ofExcept, hwant, hbackend]
      rfl

theorem length_of_seedOf (h : seedOf answer = .ok seed) : seed.length = 32 := by
  obtain ⟨v, -, hlen, hbs⟩ := seedOf_eq_ok_iff.mp h
  exact Value.length_of_toBytes hlen hbs

/-- An answer that is worth no seed is all that there is to be refused for. -/
theorem outcome_generate_of_refused (env : Environment) {f : Failure}
    (h : seedOf (source 32) = .error f) (host : Host) :
    (generate env source).outcome host =
      (.error f, { host with requests := host.requests ++ [32] }) := by
  simp only [generate, Effect.outcome_bind, outcome_freshSecret, outcome_seedBytes, h]

/-- **With a seed, it is up to the backends.**  If there is one, the key is made and reported. -/
theorem outcome_generate_of_seed (env : Environment) (h : seedOf (source 32) = .ok seed)
    (hseed : seed.length = 32) (host : Host) :
    (generate env source).outcome host =
      match env.backend.outcome { host with requests := host.requests ++ [32] } with
      | (.ok _, after) => (.ok (.ofSeed seed hseed),
          { after with log := after.log ++ [.generated (PrivateKey.ofSeed seed hseed).publicKey] })
      | (.error f, after) => (.error f, after) := by
  have hmake : ofLength .privateKey PrivateKey.ofBytes? (seed ++ Ed25519.publicKey seed) =
      .ok (.ofSeed seed hseed) := ofLength_privateKey_eq_ok_iff.mpr rfl
  simp only [generate, Effect.outcome_bind, outcome_freshSecret, outcome_seedBytes, h,
    outcome_publicKeyOfSeed env hseed]
  cases env.backend.outcome { host with requests := host.requests ++ [32] } with
  | mk r after =>
    cases r with
    | error f => rfl
    | ok b =>
      simp only [Except.map, Effect.outcome_pure, Effect.outcome_ofExcept, hmake,
        Effect.outcome_report]

/-! ## 5. Failing closed -/

theorem exists_answer_iff {p : Bytes → Prop} :
    (∃ v seed, answer = .ok v ∧ v.length = .ok 32 ∧ v.toBytes = .ok seed ∧ seed.length = 32 ∧
      p seed) ↔ ∃ seed, seedOf answer = .ok seed ∧ p seed := by
  constructor
  · rintro ⟨v, seed, hv, hlen, hbs, -, hp⟩
    exact ⟨seed, seedOf_eq_ok_iff.mpr ⟨v, hv, hlen, hbs⟩, hp⟩
  · rintro ⟨seed, h, hp⟩
    obtain ⟨v, hv, hlen, hbs⟩ := seedOf_eq_ok_iff.mp h
    exact ⟨v, seed, hv, hlen, hbs, length_of_seedOf h, hp⟩

/-- **Generating a key fails closed.**  Whatever a source of entropy does, it is asked once, for 32
bytes. There is a key just if the answer has 32 elements that make bytes, and these have a public
key; then it consists of the two, and one record is added to the log, which shows the public key.
The refusal is one for want of entropy just if the answer says that there is none: the source has
failed as the system does or is not implemented, or it has given nothing or something of another
length. A refusal adds no record. All that may stand in the log besides is the warning that the
preferred backend is missing. -/
theorem generate_fails_closed (env : Environment) (source : EntropySource) (host : Host) :
    ∃ r warnings records,
      (generate env source).outcome host =
        (r, { host with
          log := host.log ++ warnings ++ records
          requests := host.requests ++ [32] }) ∧
      (∀ k, r = .ok k ↔ ∃ v seed, source 32 = .ok v ∧ v.length = .ok 32 ∧
        v.toBytes = .ok seed ∧ seed.length = 32 ∧ ∃ key,
          (publicKeyOfSeed env (.bytes seed)).result host = .ok key ∧ k.data = seed ++ key) ∧
      (∀ k, r = .ok k → records = [.generated k.publicKey] ∧
        records.map Event.line =
          [Text.ofString "DEBUG solkeys.keys: Generated keypair " ++ k.publicKey.toBase58]) ∧
      ((∃ f, r = .error f ∧ f.kind = .randomSource) ↔ NoEntropy (source 32)) ∧
      (∀ f, r = .error f → records = []) ∧
      (warnings = [] ∨ ∃ name, env.preferred = some name ∧ warnings = [.backendAbsent name]) := by
  simp only [exists_answer_iff, ← kind_of_seedOf_iff]
  cases hanswer : seedOf (source 32) with
  | error f =>
    refine ⟨.error f, [], [], ?_, fun k => ?_, ?_, ?_, fun _ _ => rfl, .inl rfl⟩
    · rw [outcome_generate_of_refused env hanswer, List.append_nil, List.append_nil]
    · simp
    · rintro k ⟨⟩
    · simp only [Except.error.injEq]
  | ok seed =>
    have hseed := length_of_seedOf hanswer
    have hgenerate := outcome_generate_of_seed env hanswer hseed host
    have hkey := outcome_publicKeyOfSeed env hseed host
    obtain ⟨choice, warnings, hbackend, hwarnings, hkind⟩ := env.exists_outcome_backend
    simp only [hbackend] at hgenerate hkey
    cases choice with
    | error f =>
      refine ⟨.error f, warnings, [], ?_, fun k => ?_, ?_, ?_, fun _ _ => rfl, hwarnings⟩
      · rw [hgenerate, List.append_nil]
      · simp [Effect.result, hkey, Except.map]
      · rintro k ⟨⟩
      · rcases hkind f rfl with h | h <;> simp [h]
    | ok b =>
      refine ⟨.ok (.ofSeed seed hseed), warnings, _, hgenerate, fun k => ?_, ?_, ?_, ?_, hwarnings⟩
      · have hresult : (publicKeyOfSeed env (.bytes seed)).result host =
            .ok (Ed25519.publicKey seed) := Effect.result_of_outcome hkey
        simp only [Except.ok.injEq, exists_eq_left', hresult]
        exact ⟨fun h => h ▸ rfl, fun h => (PrivateKey.eq_of_data_eq h).symm⟩
      · rintro k ⟨⟩
        exact ⟨rfl, rfl⟩
      · simp
      · rintro f ⟨⟩

/-- With the preferred backend missing, a source that answers with a list of zeros makes a key, and
one record is in the log behind a warning. A source that answers one byte too few has no entropy and
leaves nothing but the request. -/
theorem generate_fails_closed_fallback :
    let env : Environment := { preferred := some "cryptography", missing := [.lenient] }
    let numbers : EntropySource := fun n => .ok (.list (List.replicate n (.int 0)))
    let short : EntropySource := fun n => .ok (.bytes (Bytes.zeros (n - 1)))
    let own := PrivateKey.ofSeed (Bytes.zeros 32) (Bytes.length_zeros 32)
    (∃ warnings, (generate env numbers).outcome {} =
        (.ok own, { log := warnings ++ [.generated own.publicKey], requests := [32] })) ∧
      NoEntropy (short 32) ∧
      (∃ f, (generate env short).result {} = .error f ∧ f.kind = .randomSource) ∧
      ((generate env short).outcome {}).2 = { requests := [32] } := by
  intro env numbers short own
  have hbackend : env.backend.outcome {} =
      (.ok .strict, { log := [.backendAbsent "cryptography"] }) := rfl
  have hkey : (publicKeyOfSeed env (.bytes (Bytes.zeros 32))).result {} =
      .ok (Ed25519.publicKey (Bytes.zeros 32)) :=
    Effect.result_of_outcome (outcome_publicKeyOfSeed_bytes hbackend (Bytes.length_zeros 32))
  have hnone : NoEntropy (short 32) := .inr (.inr ⟨_, 31, rfl, rfl, by decide⟩)
  refine ⟨?_, hnone, ?_, ?_⟩
  · obtain ⟨r, warnings, records, houtcome, hok, hrecords, -⟩ :=
      generate_fails_closed env numbers {}
    obtain rfl : r = .ok own := (hok own).mpr ⟨.list (List.replicate 32 (.int 0)), Bytes.zeros 32,
      rfl, rfl, rfl, Bytes.length_zeros 32, _, hkey, rfl⟩
    exact ⟨warnings, by rw [houtcome, (hrecords own rfl).1]; rfl⟩
  · obtain ⟨r, warnings, records, houtcome, -, -, hkind, -⟩ := generate_fails_closed env short {}
    rw [Effect.result_of_outcome houtcome]
    exact hkind.mpr hnone
  · have hrefused : seedOf (short 32) = .error (.entropyLength 31) := rfl
    rw [outcome_generate_of_refused env hrefused]
    rfl

end Signing
end LedgerKeys
