/-
# The canonical bump

The search tries the bumps from `maxBump` down to one and stops at the first success. What it
finds is settled here for attempts whose results do not depend on the host (`Steady`), such as
derivations with a curve check that is a predicate: the bump that is found is the largest one that
succeeds (`result_searchFrom_eq_ok_iff`), and nothing is found exactly when none succeeds, with the
failure of the last attempt as the cause (`result_searchFrom_eq_error_iff`).

Both are proved by induction along the bumps that are left. An attempt that fails leaves digests
behind, so the induction runs over all hosts.
-/
import LedgerKeys.Proofs.Derivation.Attempt

namespace LedgerKeys

/-- The curve check that answers by a predicate on digests, whatever was asked before. -/
def CurveCheck.ofPredicate (onCurve : Bytes → Bool) : CurveCheck :=
  fun _ digest => .ok (onCurve digest)

/-- The curve check does not look at what it was asked before. -/
def CurveCheck.IsPure (check : CurveCheck) : Prop :=
  ∀ asked asked' digest, check asked digest = check asked' digest

theorem CurveCheck.isPure_ofPredicate (onCurve : Bytes → Bool) : (ofPredicate onCurve).IsPure :=
  fun _ _ _ => rfl

namespace Derivation

/-- The check of the curve itself is such a check. -/
theorem curveCheck_eq_ofPredicate : curveCheck = .ofPredicate Curve.isOnCurve := rfl

/-! ## 1. The search, one attempt at a time -/

theorem outcome_searchFrom_zero (attempt : Nat → Effect PublicKey) (host : Host) :
    (searchFrom attempt 0).outcome host =
      match (attempt 1).outcome host with
      | (.ok address, after) => (.ok (address, 1), after)
      | (.error f, after) => (.error (if f.isA .own then .addressNotFound f else f), after) := by
  simp only [searchFrom, Effect.outcome_tryCatch, Effect.outcome_map]
  rcases (attempt 1).outcome host with ⟨r, after⟩
  cases r with
  | error f => rfl
  | ok address => rfl

/-- The search goes on from the host that a failed attempt leaves. -/
theorem outcome_searchFrom_succ (attempt : Nat → Effect PublicKey) (bump : Nat) (host : Host) :
    (searchFrom attempt (bump + 1)).outcome host =
      match (attempt (bump + 2)).outcome host with
      | (.ok address, after) => (.ok (address, bump + 2), after)
      | (.error f, after) =>
        if f.isA .own then (searchFrom attempt bump).outcome after else (.error f, after) := by
  simp only [searchFrom, Effect.outcome_tryCatch, Effect.outcome_map]
  rcases (attempt (bump + 2)).outcome host with ⟨r, after⟩
  cases r with
  | error f => cases h : f.isA .own <;> simp [Except.map, h]
  | ok address => rfl

theorem result_searchFrom_zero (attempt : Nat → Effect PublicKey) (host : Host) :
    (searchFrom attempt 0).result host =
      match (attempt 1).result host with
      | .ok address => .ok (address, 1)
      | .error f => .error (if f.isA .own then .addressNotFound f else f) := by
  rw [Effect.result, outcome_searchFrom_zero, Effect.result]
  rcases (attempt 1).outcome host with ⟨r, after⟩
  cases r with
  | error f => rfl
  | ok address => rfl

theorem result_searchFrom_succ (attempt : Nat → Effect PublicKey) (bump : Nat) (host : Host) :
    (searchFrom attempt (bump + 1)).result host =
      match (attempt (bump + 2)).result host with
      | .ok address => .ok (address, bump + 2)
      | .error f =>
        if f.isA .own then
          (searchFrom attempt bump).result ((attempt (bump + 2)).outcome host).2
        else .error f := by
  rw [Effect.result, outcome_searchFrom_succ, Effect.result]
  rcases (attempt (bump + 2)).outcome host with ⟨r, after⟩
  cases r with
  | error f => exact apply_ite Prod.fst _ _ _
  | ok address => rfl

/-- If the first attempt succeeds, there is no other. -/
theorem result_searchFrom_of_first {attempt : Nat → Effect PublicKey} {n : Nat} {host : Host}
    {address : PublicKey} (h : (attempt (n + 1)).result host = .ok address) :
    (searchFrom attempt n).result host = .ok (address, n + 1) := by
  cases n with
  | zero => rw [result_searchFrom_zero, h]
  | succ n => rw [result_searchFrom_succ, h]

/-- What a search finds, one of its attempts has given. -/
theorem exists_attempt_of_searchFrom {attempt : Nat → Effect PublicKey} {address : PublicKey}
    {b : Nat} :
    ∀ (n : Nat) {host : Host}, (searchFrom attempt n).result host = .ok (address, b) →
      ∃ host', (attempt b).result host' = .ok address := by
  intro n
  induction n with
  | zero =>
    intro host h
    rw [result_searchFrom_zero] at h
    cases h1 : (attempt 1).result host with
    | error f => rw [h1] at h; cases h
    | ok a =>
      rw [h1] at h
      cases h
      exact ⟨host, h1⟩
  | succ n ih =>
    intro host h
    rw [result_searchFrom_succ] at h
    cases htop : (attempt (n + 2)).result host with
    | ok a =>
      rw [htop] at h
      cases h
      exact ⟨host, htop⟩
    | error f =>
      rw [htop] at h
      cases hown : f.isA .own with
      | false => simp [hown] at h
      | true =>
        simp only [hown, if_true] at h
        exact ih h

/-! ## 2. Attempts that do not depend on the host -/

/-- The attempts give these answers on every host, and fail with the library's own failures only. -/
structure Steady (attempt : Nat → Effect PublicKey) (answer : Nat → Except Failure PublicKey) :
    Prop where
  result_eq : ∀ bump host, (attempt bump).result host = answer bump
  isOwn : ∀ bump f, answer bump = .error f → f.isA .own = true

section Steady

variable {attempt : Nat → Effect PublicKey} {answer : Nat → Except Failure PublicKey}

/-- **What is found is the largest bump that succeeds.** -/
theorem result_searchFrom_eq_ok_iff (h : Steady attempt answer) {address : PublicKey} {b : Nat} :
    ∀ (n : Nat) (host : Host), (searchFrom attempt n).result host = .ok (address, b) ↔
      1 ≤ b ∧ b ≤ n + 1 ∧ answer b = .ok address ∧
        ∀ c, b < c → c ≤ n + 1 → ∃ f, answer c = .error f := by
  intro n
  induction n with
  | zero =>
    intro host
    rw [result_searchFrom_zero, h.result_eq]
    constructor
    · intro hok
      cases h1 : answer 1 with
      | error f => rw [h1] at hok; cases hok
      | ok a =>
        rw [h1] at hok
        cases hok
        exact ⟨Nat.le_refl 1, Nat.le_refl 1, h1, fun c hc hle => absurd hle (by omega)⟩
    · rintro ⟨h1, hle, hb, -⟩
      obtain rfl : b = 1 := by omega
      rw [hb]
  | succ n ih =>
    intro host
    rw [result_searchFrom_succ, h.result_eq]
    cases htop : answer (n + 2) with
    | ok a =>
      constructor
      · intro hok
        cases hok
        exact ⟨by omega, Nat.le_refl _, htop, fun c hc hle => absurd hle (by omega)⟩
      · rintro ⟨-, hle, hb, habove⟩
        rcases Nat.lt_or_ge b (n + 2) with hlt | hge
        · obtain ⟨f, hf⟩ := habove (n + 2) hlt (Nat.le_refl _)
          rw [htop] at hf
          cases hf
        · obtain rfl : b = n + 2 := by omega
          rw [htop] at hb
          cases hb
          rfl
    | error f =>
      simp only [h.isOwn _ _ htop, if_true]
      rw [ih]
      constructor
      · rintro ⟨h1, hle, hb, habove⟩
        refine ⟨h1, by omega, hb, fun c hc hcle => ?_⟩
        rcases Nat.lt_or_ge c (n + 2) with hlt | hge
        · exact habove c hc (by omega)
        · obtain rfl : c = n + 2 := by omega
          exact ⟨f, htop⟩
      · rintro ⟨h1, hle, hb, habove⟩
        have hne : b ≠ n + 2 := by
          rintro rfl
          rw [htop] at hb
          cases hb
        exact ⟨h1, by omega, hb, fun c hc hcle => habove c hc (by omega)⟩

/-- **Nothing is found exactly when no bump succeeds**, and the failure is then caused by that of
the last attempt. -/
theorem result_searchFrom_eq_error_iff (h : Steady attempt answer) {f : Failure} :
    ∀ (n : Nat) (host : Host), (searchFrom attempt n).result host = .error f ↔
      (∀ c, 1 ≤ c → c ≤ n + 1 → ∃ g, answer c = .error g) ∧
        ∃ last, answer 1 = .error last ∧ f = .addressNotFound last := by
  intro n
  induction n with
  | zero =>
    intro host
    rw [result_searchFrom_zero, h.result_eq]
    constructor
    · intro herr
      cases h1 : answer 1 with
      | ok a => rw [h1] at herr; cases herr
      | error last =>
        simp only [h1, h.isOwn _ _ h1, if_true] at herr
        cases herr
        refine ⟨fun c hc hle => ?_, last, rfl, rfl⟩
        obtain rfl : c = 1 := by omega
        exact ⟨last, h1⟩
    · rintro ⟨-, last, hlast, rfl⟩
      simp only [hlast, h.isOwn _ _ hlast, if_true]
  | succ n ih =>
    intro host
    rw [result_searchFrom_succ, h.result_eq]
    cases htop : answer (n + 2) with
    | ok a =>
      constructor
      · intro herr
        cases herr
      · rintro ⟨hall, -⟩
        obtain ⟨g, hg⟩ := hall (n + 2) (by omega) (Nat.le_refl _)
        rw [htop] at hg
        cases hg
    | error g =>
      simp only [h.isOwn _ _ htop, if_true]
      rw [ih]
      refine and_congr_left fun _ => ⟨fun hall c hc hle => ?_, fun hall c hc hle => ?_⟩
      · rcases Nat.lt_or_ge c (n + 2) with hlt | hge
        · exact hall c hc (by omega)
        · obtain rfl : c = n + 2 := by omega
          exact ⟨g, htop⟩
      · exact hall c hc (by omega)

end Steady

/-! ## 3. The search of a program address -/

/-- With a check that is pure a derivation has one result on all hosts. -/
theorem result_createProgramAddress_of_isPure {check : CurveCheck} (hcheck : check.IsPure)
    (seeds program : Value) (host host' : Host) :
    (createProgramAddress check seeds program).result host =
      (createProgramAddress check seeds program).result host' := by
  simp only [Effect.result, outcome_createProgramAddress]
  cases checkedPreimage seeds program with
  | error f => rfl
  | ok preimage => simp only [hcheck host.digests host'.digests]

/-- The attempts of a search are steady if the seeds are as they should be. -/
theorem steady_createProgramAddress (onCurve : Bytes → Bool) {seeds : List Value}
    (hseeds : ∀ v ∈ seeds, IsSeed v) (program : PublicKey) (host : Host) :
    Steady
      (fun bump => createProgramAddress (.ofPredicate onCurve) (.list (seeds ++ [bumpSeed bump]))
        (.publicKey program))
      (fun bump => (createProgramAddress (.ofPredicate onCurve)
        (.list (seeds ++ [bumpSeed bump])) (.publicKey program)).result host) where
  result_eq bump host' :=
    result_createProgramAddress_of_isPure (CurveCheck.isPure_ofPredicate onCurve) _ _ host' host
  isOwn bump f hf := by
    have hall : ∀ v ∈ seeds ++ [bumpSeed bump], IsSeed v := by
      intro v hv
      rcases List.mem_append.mp hv with hv | hv
      · exact hseeds v hv
      · rw [List.mem_singleton.mp hv]
        exact isSeed_bumpSeed bump
    rw [Effect.result, outcome_createProgramAddress] at hf
    cases hpre : checkedPreimage (.list (seeds ++ [bumpSeed bump])) (.publicKey program) with
    | error g =>
      rw [hpre] at hf
      cases hf
      exact isOwn_of_checkedPreimage hall hpre
    | ok preimage =>
      simp only [hpre, CurveCheck.ofPredicate, Except.bind] at hf
      cases hcurve : onCurve (sha256 preimage) with
      | false => simp [hcurve] at hf
      | true =>
        simp only [hcurve, if_true] at hf
        cases hf
        rfl

/-- The whole search is its scan of the bumps, and what is found is reported with the number of
attempts. -/
theorem outcome_findProgramAddress {check : CurveCheck} {container : Value} {seeds : List Value}
    (hseeds : container.elements = .ok seeds) (program : Value) (host : Host) :
    (findProgramAddress check container program).outcome host =
      match (searchFrom
        (fun bump => createProgramAddress check (.list (seeds ++ [bumpSeed bump])) program)
        (maxBump - 1)).outcome host with
      | (.ok (address, bump), after) =>
        (.ok (address, bump),
          { after with log := after.log ++ [.foundAddress address bump (maxBump - bump + 1)] })
      | (.error f, after) => (.error f, after) := by
  simp only [findProgramAddress, hseeds, Effect.outcome_bind, Effect.outcome_ofExcept]
  rcases (searchFrom (fun bump => createProgramAddress check (.list (seeds ++ [bumpSeed bump]))
    program) (maxBump - 1)).outcome host with ⟨r, after⟩
  cases r with
  | error f => rfl
  | ok found => rfl

/-- What the whole search gives is what its scan of the bumps gives. -/
theorem result_findProgramAddress {check : CurveCheck} {container : Value} {seeds : List Value}
    (hseeds : container.elements = .ok seeds) (program : Value) (host : Host) :
    (findProgramAddress check container program).result host =
      (searchFrom
        (fun bump => createProgramAddress check (.list (seeds ++ [bumpSeed bump])) program)
        (maxBump - 1)).result host := by
  rw [Effect.result, outcome_findProgramAddress hseeds, Effect.result]
  rcases (searchFrom (fun bump => createProgramAddress check (.list (seeds ++ [bumpSeed bump]))
    program) (maxBump - 1)).outcome host with ⟨r, after⟩
  cases r with
  | error f => rfl
  | ok found => rfl

theorem result_findProgramAddress_of_maxBump {check : CurveCheck} {container program : Value}
    {seeds : List Value} {host : Host} {address : PublicKey}
    (hseeds : container.elements = .ok seeds)
    (h : (createProgramAddress check (.list (seeds ++ [bumpSeed maxBump])) program).result host =
      .ok address) :
    (findProgramAddress check container program).result host = .ok (address, maxBump) := by
  rw [result_findProgramAddress hseeds]
  exact result_searchFrom_of_first h

/-- An address that is found is what the derivation with its bump gives. -/
theorem exists_attempt_of_findProgramAddress {check : CurveCheck} {seeds program : Value}
    {host : Host} {address : PublicKey} {b : Nat}
    (h : (findProgramAddress check seeds program).result host = .ok (address, b)) :
    ∃ vs host', seeds.elements = .ok vs ∧
      (createProgramAddress check (.list (vs ++ [bumpSeed b])) program).result host' =
        .ok address := by
  cases hseeds : seeds.elements with
  | error f =>
    rw [Effect.result, findProgramAddress, Effect.outcome_bind, Effect.outcome_ofExcept,
      hseeds] at h
    cases h
  | ok vs =>
    rw [result_findProgramAddress hseeds] at h
    obtain ⟨host', h'⟩ := exists_attempt_of_searchFrom (maxBump - 1) h
    exact ⟨vs, host', rfl, h'⟩

/-- An address that is found is an address of a derivation. -/
theorem exists_createProgramAddress_of_find {check : CurveCheck} {seeds program : Value}
    {host : Host} {address : PublicKey} {b : Nat}
    (h : (findProgramAddress check seeds program).result host = .ok (address, b)) :
    ∃ seeds' host', (createProgramAddress check seeds' program).result host' = .ok address := by
  obtain ⟨vs, host', -, h'⟩ := exists_attempt_of_findProgramAddress h
  exact ⟨_, host', h'⟩

/-- **The canonical bump.**  The search of an address finds the largest bump from 255 down to one
under which the derivation succeeds, with the address that this derivation gives, and is refused as
`addressNotFound` exactly when the derivation fails under all of them.  A bump of zero is never
found, even if the derivation succeeds under it alone.  The seeds may come in any container; the
check of the curve itself is one of the predicates (`curveCheck_eq_ofPredicate`). -/
theorem findProgramAddress_canonical (onCurve : Bytes → Bool) {container : Value}
    {seeds : List Value} (hcontainer : container.elements = .ok seeds)
    (hseeds : ∀ v ∈ seeds, IsSeed v) (program : PublicKey) (host host' : Host) :
    let found := (findProgramAddress (.ofPredicate onCurve) container
      (.publicKey program)).result host
    let derived (bump : Nat) := (createProgramAddress (.ofPredicate onCurve)
      (.list (seeds ++ [.bytes [UInt8.ofNat bump]])) (.publicKey program)).result host'
    (∀ address b, found = .ok (address, b) ↔
        1 ≤ b ∧ b ≤ 255 ∧ derived b = .ok address ∧
          ∀ c, b < c → c ≤ 255 → ∃ f, derived c = .error f) ∧
      ((∃ f, found = .error f ∧ f.kind = .addressNotFound) ↔
        ∀ c, 1 ≤ c → c ≤ 255 → ∃ f, derived c = .error f) ∧
      (∀ address, found ≠ .ok (address, 0)) ∧
      ∀ address, derived 0 = .ok address → (∀ c, 1 ≤ c → c ≤ 255 → ∃ f, derived c = .error f) →
        ∃ f, found = .error f ∧ f.kind = .addressNotFound := by
  intro found derived
  have hsteady := steady_createProgramAddress onCurve hseeds program host'
  have hfound : found = _ := result_findProgramAddress hcontainer (.publicKey program) host
  have hok : ∀ address b, found = .ok (address, b) ↔
      1 ≤ b ∧ b ≤ 255 ∧ derived b = .ok address ∧
        ∀ c, b < c → c ≤ 255 → ∃ f, derived c = .error f := by
    intro address b
    rw [hfound]
    exact result_searchFrom_eq_ok_iff hsteady (maxBump - 1) host
  have herror : (∃ f, found = .error f ∧ f.kind = .addressNotFound) ↔
      ∀ c, 1 ≤ c → c ≤ 255 → ∃ f, derived c = .error f := by
    constructor
    · rintro ⟨f, hf, -⟩
      rw [hfound] at hf
      exact ((result_searchFrom_eq_error_iff hsteady (maxBump - 1) host).mp hf).1
    · intro hall
      obtain ⟨last, hlast⟩ := hall 1 (Nat.le_refl 1) (by decide)
      refine ⟨.addressNotFound last, ?_, rfl⟩
      rw [hfound]
      exact (result_searchFrom_eq_error_iff hsteady (maxBump - 1) host).mpr
        ⟨hall, last, hlast, rfl⟩
  refine ⟨hok, herror, fun address h0 => ?_, fun address _ hall => herror.mpr hall⟩
  exact absurd ((hok address 0).mp h0).1 (by decide)

/-- The search passes over a bump whose digest is on the curve: for the sun sign and two bytes it is
255, and the next one is found. -/
theorem findProgramAddress_sun :
    let seeds : List Value := [.text [0x2609], .buffer [1, 2]]
    let preimage (bump : Nat) :=
      programPreimage [[0xE2, 0x98, 0x89], [1, 2], [UInt8.ofNat bump]] Program.token.data
    (Value.list seeds).elements = .ok seeds ∧ (∀ v ∈ seeds, IsSeed v) ∧
      (findProgramAddress curveCheck (.list seeds) (.publicKey Program.token)).result {} =
        .ok (PublicKey.ofDigest (preimage 254), 254) := by
  intro seeds preimage
  have hseeds : ∀ v ∈ seeds, IsSeed v := by
    intro v hv
    rcases List.mem_cons.mp hv with rfl | hv
    · exact .text fun c hc => by
        rw [List.mem_singleton.mp hc]
        rfl
    · rw [List.mem_singleton.mp hv]
      exact .buffer [1, 2]
  have hpre : ∀ bump, checkedPreimage (.list (seeds ++ [bumpSeed bump]))
      (.publicKey Program.token) = .ok (preimage bump) := fun bump =>
    checkedPreimage_list_eq_ok (by simp [seeds, maxSeeds]) rfl Program.isReserved_token
  have hon : Curve.isOnCurve (sha256 (preimage 255)) = true := by decide +kernel
  have hoff : Curve.isOnCurve (sha256 (preimage 254)) = false := by decide +kernel
  have hcontainer : (Value.list seeds).elements = .ok seeds := rfl
  have hfound := (findProgramAddress_canonical Curve.isOnCurve hcontainer hseeds
    Program.token {} {}).1 (PublicKey.ofDigest (preimage 254)) 254
  refine ⟨hcontainer, hseeds, hfound.mpr ⟨by decide, by decide, ?_, fun c hc hle => ?_⟩⟩
  · exact result_createProgramAddress_eq_ok_iff.mpr
      ⟨preimage 254, hpre 254, congrArg Except.ok hoff, rfl⟩
  · obtain rfl : c = 255 := by omega
    exact ⟨.onCurve,
      result_createProgramAddress_of_onCurve (hpre 255) (congrArg Except.ok hon)⟩

end Derivation
end LedgerKeys
