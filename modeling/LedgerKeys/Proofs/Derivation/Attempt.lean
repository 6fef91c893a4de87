/-
# One derivation of a program address

What `createProgramAddress` does, said once for all values and all curve checks: the bytes to be
hashed are put together (`checkedPreimage_eq_ok_iff` says when), the check is asked about their
digest, and its answer decides (`outcome_createProgramAddress`). Of its seeds it asks for their
bytes alone (`checkedPreimage_eq`).
-/
import LedgerKeys.Proofs.Derivation.Seed

namespace LedgerKeys

/-- A public key is reserved if it is on the list. -/
theorem Program.reserved?_publicKey (k : PublicKey) :
    Program.reserved? (.publicKey k) = .ok (if Program.isReserved k then some k else none) := by
  simp [Program.reserved?, Value.isFixed]

theorem Program.isReserved_iff_mem {k : PublicKey} :
    Program.isReserved k = true ↔ k ∈ Program.reserved :=
  List.contains_iff_mem

/-- The programs for tokens are not reserved, and the two that own addresses are different. One
decision reads the list once. -/
theorem Program.tokenPrograms :
    (isReserved token = false ∧ isReserved associatedToken = false ∧
      isReserved tokenMetadata = false) ∧ associatedToken ≠ tokenMetadata := by decide +kernel

theorem Program.isReserved_token : Program.isReserved Program.token = false :=
  Program.tokenPrograms.1.1

namespace Derivation

/-! ## 1. The bytes to be hashed -/

/-- The bytes of the seeds that a value holds, if they can be counted, are not too many and none of
them is too long. -/
def checkedSeeds (seeds : Value) : Except Failure (List Bytes) := do
  let n ← seeds.length
  if maxSeeds < n then .error (.tooManySeeds n)
  (← seeds.elements).mapM shortSeed

theorem checkedSeeds_eq_ok_iff {seeds : Value} {bs : List Bytes} :
    checkedSeeds seeds = .ok bs ↔
      ∃ n vs, seeds.length = .ok n ∧ n ≤ maxSeeds ∧ seeds.elements = .ok vs ∧
        vs.mapM shortSeed = .ok bs := by
  rw [checkedSeeds, except_bind_eq_ok]
  refine exists_congr fun n => ?_
  by_cases hmax : maxSeeds < n
  · rw [if_pos hmax]
    constructor
    · rintro ⟨-, h⟩
      obtain ⟨-, h, -⟩ := except_bind_eq_ok.mp h
      cases h
    · rintro ⟨vs, -, hle, -⟩
      exact absurd hle (Nat.not_le.mpr hmax)
  · rw [if_neg hmax]
    constructor
    · rintro ⟨hn, h⟩
      obtain ⟨vs, hvs, hbs⟩ := except_bind_eq_ok.mp h
      exact ⟨vs, hn, Nat.not_lt.mp hmax, hvs, hbs⟩
    · rintro ⟨vs, hn, -, hvs, hbs⟩
      exact ⟨hn, except_bind_eq_ok.mpr ⟨vs, hvs, hbs⟩⟩

/-- The checks on a list of seeds, in the order in which they are made. -/
theorem checkedSeeds_list (seeds : List Value) :
    checkedSeeds (.list seeds) =
      if maxSeeds < seeds.length then .error (.tooManySeeds seeds.length)
      else seeds.mapM shortSeed := by
  by_cases hmax : maxSeeds < seeds.length
  · simp only [checkedSeeds, Value.length, bind, Except.bind, if_pos hmax]
  · simp only [checkedSeeds, Value.length, Value.elements, bind, Except.bind, if_neg hmax]

theorem checkedSeeds_list_eq_ok {seeds : List Value} {bs : List Bytes}
    (hlen : seeds.length ≤ maxSeeds) (hbs : seeds.mapM shortSeed = .ok bs) :
    checkedSeeds (.list seeds) = .ok bs := by
  rw [checkedSeeds_list, if_neg (Nat.not_lt.mpr hlen), hbs]

/-- Of its seeds a derivation asks for their bytes, and for nothing else; the program is looked at
behind them. -/
theorem checkedPreimage_eq (seeds program : Value) :
    checkedPreimage seeds program =
      checkedSeeds seeds >>= fun bs => Program.reserved? program >>= fun
        | some owner => .error (.illegalOwner owner)
        | none => programPreimage bs <$> program.toBytes := by
  rw [checkedPreimage, checkedSeeds]
  cases seeds.length with
  | error f => rfl
  | ok n =>
    by_cases hmax : maxSeeds < n
    · simp only [bind, Except.bind, if_pos hmax]
    · simp only [bind, Except.bind, if_neg hmax]
      cases seeds.elements with
      | error f => rfl
      | ok vs => rfl

/-- **When there is something to be hashed, and what.**  The seeds can be counted and are not too
many, each of them is worth at most `maxSeedLength` bytes, and the program is not reserved. -/
theorem checkedPreimage_eq_ok_iff {seeds program : Value} {preimage : Bytes} :
    checkedPreimage seeds program = .ok preimage ↔
      ∃ n vs bs owner, seeds.length = .ok n ∧ n ≤ maxSeeds ∧ seeds.elements = .ok vs ∧
        vs.mapM shortSeed = .ok bs ∧ Program.reserved? program = .ok none ∧
        program.toBytes = .ok owner ∧ preimage = programPreimage bs owner := by
  rw [checkedPreimage_eq]
  constructor
  · intro h
    obtain ⟨bs, hbs, h⟩ := except_bind_eq_ok.mp h
    obtain ⟨n, vs, hn, hmax, hvs, hbs⟩ := checkedSeeds_eq_ok_iff.mp hbs
    obtain ⟨reserved, hres, h⟩ := except_bind_eq_ok.mp h
    cases reserved with
    | some owner => cases h
    | none =>
      cases howner : program.toBytes with
      | error f =>
        rw [howner] at h
        cases h
      | ok owner =>
        rw [howner] at h
        cases h
        exact ⟨n, vs, bs, owner, hn, hmax, hvs, hbs, hres, rfl, rfl⟩
  · rintro ⟨n, vs, bs, owner, hn, hmax, hvs, hbs, hres, howner, rfl⟩
    refine except_bind_eq_ok.mpr ⟨bs, checkedSeeds_eq_ok_iff.mpr ⟨n, vs, hn, hmax, hvs, hbs⟩, ?_⟩
    refine except_bind_eq_ok.mpr ⟨none, hres, ?_⟩
    rw [howner]
    rfl

/-- Under a public key, the seeds are all that can be wrong besides a reserved program. -/
theorem checkedPreimage_publicKey (seeds : Value) (program : PublicKey) :
    checkedPreimage seeds (.publicKey program) =
      checkedSeeds seeds >>= fun bs =>
        if Program.isReserved program then .error (.illegalOwner program)
        else .ok (programPreimage bs program.data) := by
  rw [checkedPreimage_eq, Program.reserved?_publicKey]
  refine congrArg (checkedSeeds seeds >>= ·) (funext fun bs => ?_)
  cases Program.isReserved program <;> rfl

theorem checkedPreimage_of_checkedSeeds {seeds : Value} {bs : List Bytes} {program : PublicKey}
    (hbs : checkedSeeds seeds = .ok bs) (hres : Program.isReserved program = false) :
    checkedPreimage seeds (.publicKey program) = .ok (programPreimage bs program.data) := by
  rw [checkedPreimage_publicKey, hbs]
  simp [bind, Except.bind, hres]

theorem checkedPreimage_list_eq_ok {seeds : List Value} {bs : List Bytes} {program : PublicKey}
    (hlen : seeds.length ≤ maxSeeds) (hbs : seeds.mapM shortSeed = .ok bs)
    (hres : Program.isReserved program = false) :
    checkedPreimage (.list seeds) (.publicKey program) =
      .ok (programPreimage bs program.data) :=
  checkedPreimage_of_checkedSeeds (checkedSeeds_list_eq_ok hlen hbs) hres

/-- With seeds as they should be and a public key, only the library's own failures come up. -/
theorem isOwn_of_checkedPreimage {seeds : List Value} (hseeds : ∀ v ∈ seeds, IsSeed v)
    {program : PublicKey} {f : Failure}
    (h : checkedPreimage (.list seeds) (.publicKey program) = .error f) : f.isA .own = true := by
  rw [checkedPreimage_publicKey, except_bind_eq_error] at h
  rcases h with h | ⟨bs, -, h⟩
  · rw [checkedSeeds_list] at h
    split at h
    · cases h
      rfl
    · obtain ⟨v, hv, hfv⟩ := exists_mem_of_mapM_eq_error h
      obtain ⟨n, rfl⟩ := (hseeds v hv).eq_seedTooLong_of_shortSeed hfv
      rfl
  · split at h
    · cases h
      rfl
    · cases h

/-! ## 2. Asking the curve check -/

/-- **One derivation.**  The check is asked once if there is something to be hashed, about its
digest, and not at all otherwise; an address is what the check has answered no for. -/
theorem outcome_createProgramAddress (check : CurveCheck) (seeds program : Value) (host : Host) :
    (createProgramAddress check seeds program).outcome host =
      match checkedPreimage seeds program with
      | .error f => (.error f, host)
      | .ok preimage =>
        ((check host.digests (sha256 preimage)).bind fun found =>
            if found then .error .onCurve else .ok (PublicKey.ofDigest preimage),
          { host with digests := host.digests ++ [sha256 preimage] }) := by
  simp only [createProgramAddress, Effect.outcome_bind, Effect.outcome_ofExcept,
    Effect.outcome_askCurve]
  cases checkedPreimage seeds program with
  | error f => rfl
  | ok preimage =>
    cases h : check host.digests (sha256 preimage) with
    | error f => simp [h, Except.bind]
    | ok found => cases found <;> simp [h, Except.bind]

theorem result_createProgramAddress_eq_ok_iff {check : CurveCheck} {seeds program : Value}
    {host : Host} {address : PublicKey} :
    (createProgramAddress check seeds program).result host = .ok address ↔
      ∃ preimage, checkedPreimage seeds program = .ok preimage ∧
        check host.digests (sha256 preimage) = .ok false ∧
        address = PublicKey.ofDigest preimage := by
  rw [Effect.result, outcome_createProgramAddress]
  cases checkedPreimage seeds program with
  | error f => simp
  | ok preimage =>
    cases h : check host.digests (sha256 preimage) with
    | error f => simp [h, Except.bind]
    | ok found => cases found <;> simp [h, Except.bind, eq_comm]

/-- A digest on the curve is no address. -/
theorem result_createProgramAddress_of_onCurve {check : CurveCheck} {seeds program : Value}
    {host : Host} {preimage : Bytes} (hpre : checkedPreimage seeds program = .ok preimage)
    (hcheck : check host.digests (sha256 preimage) = .ok true) :
    (createProgramAddress check seeds program).result host = .error .onCurve := by
  rw [Effect.result, outcome_createProgramAddress]
  simp [hpre, hcheck, Except.bind]

end Derivation
end LedgerKeys
