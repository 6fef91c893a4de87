/-
# Where the seeds are split

The seeds of a program address are hashed one after the other with nothing between them, and the
program and the marker, which have a fixed length, behind them. So what is hashed tells the bytes of
all seeds together and the program (`programPreimage_eq_iff`), and it does not tell where one seed
ends and the next begins.

Seeds with the same bytes are therefore the same to a derivation, whatever the curve check does, and
the same to the search, which appends its bump to either list (`createProgramAddress_congr`,
`findProgramAddress_congr`). If the check does not look at what it was asked before, the results do
not depend on the host either; for the search that is an induction along its bumps
(`result_searchFrom_host_irrel`).
-/
import LedgerKeys.Proofs.Derivation.Search
import LedgerKeys.Proofs.Derivation.Preimage

namespace LedgerKeys
namespace Derivation

/-! ## 1. What is hashed -/

/-- **The parts that what is hashed tells apart.** -/
theorem programPreimage_eq_iff {bs₁ bs₂ : List Bytes} {program₁ program₂ : PublicKey} :
    programPreimage bs₁ program₁.data = programPreimage bs₂ program₂.data ↔
      bs₁.flatten = bs₂.flatten ∧ program₁ = program₂ := by
  constructor
  · intro h
    have hparts := List.append_cancel_right h
    have hlen : program₁.data.length = program₂.data.length := by
      rw [program₁.length_data, program₂.length_data]
    obtain ⟨hseeds, hprogram⟩ := List.append_inj' hparts hlen
    exact ⟨hseeds, PublicKey.eq_iff_data.mpr hprogram⟩
  · rintro ⟨hseeds, rfl⟩
    rw [programPreimage, programPreimage, hseeds]

/-! ## 2. The same bytes, split elsewhere -/

section SameBytes

variable {seeds₁ seeds₂ : Value} {bs₁ bs₂ : List Bytes}

theorem checkedPreimage_congr (h₁ : checkedSeeds seeds₁ = .ok bs₁)
    (h₂ : checkedSeeds seeds₂ = .ok bs₂) (hsame : bs₁.flatten = bs₂.flatten)
    (program : PublicKey) :
    checkedPreimage seeds₁ (.publicKey program) = checkedPreimage seeds₂ (.publicKey program) := by
  have hpre := programPreimage_eq_iff.mpr ⟨hsame, Eq.refl program⟩
  simp only [checkedPreimage_publicKey, h₁, h₂, bind, Except.bind, hpre]

/-- **A derivation does not see where its seeds are split.** -/
theorem createProgramAddress_congr (h₁ : checkedSeeds seeds₁ = .ok bs₁)
    (h₂ : checkedSeeds seeds₂ = .ok bs₂) (hsame : bs₁.flatten = bs₂.flatten) (check : CurveCheck)
    (program : PublicKey) :
    createProgramAddress check seeds₁ (.publicKey program) =
      createProgramAddress check seeds₂ (.publicKey program) := by
  rw [createProgramAddress, createProgramAddress, checkedPreimage_congr h₁ h₂ hsame]

/-- With the bump behind them the seeds still pass, if there is room for one more. -/
theorem checkedSeeds_append_bumpSeed {vs : List Value} {bs : List Bytes} (bump : ℕ)
    (hlen : vs.length < maxSeeds) (hbs : vs.mapM shortSeed = .ok bs) :
    checkedSeeds (.list (vs ++ [bumpSeed bump])) = .ok (bs ++ [[UInt8.ofNat bump]]) := by
  refine checkedSeeds_list_eq_ok (by simpa using Nat.succ_le_of_lt hlen) ?_
  rw [List.mapM_append, hbs]
  rfl

/-- **The search does not see where its seeds are split**, if the bump finds room in either list. -/
theorem findProgramAddress_congr {vs₁ vs₂ : List Value} (hvs₁ : seeds₁.elements = .ok vs₁)
    (hvs₂ : seeds₂.elements = .ok vs₂) (h₁ : vs₁.mapM shortSeed = .ok bs₁)
    (h₂ : vs₂.mapM shortSeed = .ok bs₂) (hlen₁ : vs₁.length < maxSeeds)
    (hlen₂ : vs₂.length < maxSeeds) (hsame : bs₁.flatten = bs₂.flatten) (check : CurveCheck)
    (program : PublicKey) :
    findProgramAddress check seeds₁ (.publicKey program) =
      findProgramAddress check seeds₂ (.publicKey program) := by
  have hattempts : ∀ bump,
      createProgramAddress check (.list (vs₁ ++ [bumpSeed bump])) (.publicKey program) =
        createProgramAddress check (.list (vs₂ ++ [bumpSeed bump])) (.publicKey program) :=
    fun bump => createProgramAddress_congr (checkedSeeds_append_bumpSeed bump hlen₁ h₁)
      (checkedSeeds_append_bumpSeed bump hlen₂ h₂)
      (by rw [List.flatten_append, List.flatten_append, hsame]) check program
  rw [findProgramAddress, findProgramAddress, hvs₁, hvs₂, Effect.ofExcept_ok_bind,
    Effect.ofExcept_ok_bind, funext hattempts]

end SameBytes

/-! ## 3. Checks that look at the digest alone -/

/-- Attempts with one result on all hosts make a search with one result on all hosts. -/
theorem result_searchFrom_host_irrel {attempt : ℕ → Effect PublicKey}
    (h : ∀ bump host host', (attempt bump).result host = (attempt bump).result host') :
    ∀ (n : ℕ) (host host' : Host),
      (searchFrom attempt n).result host = (searchFrom attempt n).result host' := by
  intro n
  induction n with
  | zero =>
    intro host host'
    rw [result_searchFrom_zero, result_searchFrom_zero, h 1 host host']
  | succ n ih =>
    intro host host'
    -- A failed attempt leaves other hosts behind, and the rest of the search goes on from them.
    rw [result_searchFrom_succ, result_searchFrom_succ, h (n + 2) host host']
    cases (attempt (n + 2)).result host' with
    | ok address => rfl
    | error f => simp only [ih _ ((attempt (n + 2)).outcome host').2]

theorem result_findProgramAddress_of_isPure {check : CurveCheck} (hcheck : check.IsPure)
    (seeds program : Value) (host host' : Host) :
    (findProgramAddress check seeds program).result host =
      (findProgramAddress check seeds program).result host' := by
  cases hseeds : seeds.elements with
  | error f =>
    simp only [findProgramAddress, hseeds, Effect.result, Effect.outcome_bind,
      Effect.outcome_ofExcept]
  | ok vs =>
    rw [result_findProgramAddress hseeds, result_findProgramAddress hseeds]
    exact result_searchFrom_host_irrel
      (fun bump => result_createProgramAddress_of_isPure hcheck _ program) _ host host'

/-! ## 4. Program namespaces -/

/-- **The addresses of two programs do not overlap, and where the seeds are split does not matter.**
Take two lists of seeds that pass the checks on their number and their lengths.

Under programs that are not reserved, what is hashed is the same if and only if the bytes of all
seeds together and the programs are the same. So the same address, whatever curve checks let it
pass, comes from the same bytes and the same program, or the two hashed strings are a collision.

If the bytes of all seeds together are the same, a derivation ends the same way from either list,
under every program and curve check, with the same address or the same failure, and so does the
search if neither list has more than fifteen seeds. For this the two need not start from the same
host if the check is pure. -/
theorem programAddress_parts {seeds₁ seeds₂ : Value} {bs₁ bs₂ : List Bytes}
    (h₁ : checkedSeeds seeds₁ = .ok bs₁) (h₂ : checkedSeeds seeds₂ = .ok bs₂) :
    (∀ program₁ program₂ : PublicKey, Program.isReserved program₁ = false →
        Program.isReserved program₂ = false →
      ∃ hashed₁ hashed₂, checkedPreimage seeds₁ (.publicKey program₁) = .ok hashed₁ ∧
        checkedPreimage seeds₂ (.publicKey program₂) = .ok hashed₂ ∧
        (hashed₁ = hashed₂ ↔ bs₁.flatten = bs₂.flatten ∧ program₁ = program₂) ∧
        ∀ check₁ check₂ host₁ host₂ address,
          (createProgramAddress check₁ seeds₁ (.publicKey program₁)).result host₁ = .ok address →
          (createProgramAddress check₂ seeds₂ (.publicKey program₂)).result host₂ = .ok address →
          (bs₁.flatten = bs₂.flatten ∧ program₁ = program₂) ∨
            Sha256.Collision hashed₁ hashed₂) ∧
      (bs₁.flatten = bs₂.flatten → ∀ (check : CurveCheck) (program : PublicKey),
        let create (seeds : Value) := createProgramAddress check seeds (.publicKey program)
        (∀ host, (create seeds₁).outcome host = (create seeds₂).outcome host) ∧
          (check.IsPure → ∀ host host',
            (create seeds₁).result host = (create seeds₂).result host')) ∧
      (bs₁.flatten = bs₂.flatten → ∀ vs₁ vs₂ : List Value, seeds₁.elements = .ok vs₁ →
        seeds₂.elements = .ok vs₂ → vs₁.length ≤ 15 → vs₂.length ≤ 15 →
        ∀ (check : CurveCheck) (program : PublicKey),
          let find (seeds : Value) := findProgramAddress check seeds (.publicKey program)
          (∀ host, (find seeds₁).outcome host = (find seeds₂).outcome host) ∧
            (check.IsPure → ∀ host host',
              (find seeds₁).result host = (find seeds₂).result host')) := by
  refine ⟨fun program₁ program₂ hres₁ hres₂ => ?_, fun hsame check program => ?_,
    fun hsame vs₁ vs₂ hvs₁ hvs₂ hlen₁ hlen₂ check program => ?_⟩
  · have hpre₁ := checkedPreimage_of_checkedSeeds h₁ hres₁
    have hpre₂ := checkedPreimage_of_checkedSeeds h₂ hres₂
    refine ⟨_, _, hpre₁, hpre₂, programPreimage_eq_iff, ?_⟩
    intro check₁ check₂ host₁ host₂ address haddress₁ haddress₂
    obtain ⟨pre₁, hpre₁', -, rfl⟩ := result_createProgramAddress_eq_ok_iff.mp haddress₁
    obtain ⟨pre₂, hpre₂', -, hdigest⟩ := result_createProgramAddress_eq_ok_iff.mp haddress₂
    obtain rfl := Except.ok.inj (hpre₁.symm.trans hpre₁')
    obtain rfl := Except.ok.inj (hpre₂.symm.trans hpre₂')
    exact (PublicKey.eq_or_collision_of_ofDigest hdigest).imp programPreimage_eq_iff.mp id
  · intro create
    have hcreate : create seeds₁ = create seeds₂ :=
      createProgramAddress_congr h₁ h₂ hsame check program
    rw [hcreate]
    exact ⟨fun _ => rfl, fun hcheck => result_createProgramAddress_of_isPure hcheck _ _⟩
  · intro find
    obtain ⟨-, vs₁', -, -, hvs₁', hbs₁⟩ := checkedSeeds_eq_ok_iff.mp h₁
    obtain ⟨-, vs₂', -, -, hvs₂', hbs₂⟩ := checkedSeeds_eq_ok_iff.mp h₂
    obtain rfl := Except.ok.inj (hvs₁.symm.trans hvs₁')
    obtain rfl := Except.ok.inj (hvs₂.symm.trans hvs₂')
    have hfind : find seeds₁ = find seeds₂ :=
      findProgramAddress_congr hvs₁ hvs₂ hbs₁ hbs₂ (Nat.lt_succ_of_le hlen₁)
        (Nat.lt_succ_of_le hlen₂) hsame check program
    rw [hfind]
    exact ⟨fun _ => rfl, fun hcheck => result_findProgramAddress_of_isPure hcheck _ _⟩

/-- Eleven zeros, whole or split into five bytes and a text of six characters. -/
theorem programAddress_parts_zeros :
    let whole := Value.list [.bytes (Bytes.zeros 11)]
    let split := Value.tuple [.bytes (Bytes.zeros 5), .text (List.replicate 6 0)]
    let token := Value.publicKey Program.token
    checkedSeeds whole = .ok [Bytes.zeros 11] ∧
      checkedSeeds split = .ok [Bytes.zeros 5, Bytes.zeros 6] ∧
      (∃ hashed₁ hashed₂, checkedPreimage whole token = .ok hashed₁ ∧
        checkedPreimage split token = .ok hashed₂ ∧ hashed₁ = hashed₂) ∧
      (createProgramAddress curveCheck split token).result {} =
        .ok (PublicKey.ofDigest (programPreimage [Bytes.zeros 11] Program.token.data)) ∧
      (findProgramAddress curveCheck whole token).result {} =
        (findProgramAddress curveCheck split token).result { digests := [[]] } := by
  intro whole split token
  have hwhole : checkedSeeds whole = .ok [Bytes.zeros 11] := rfl
  have hsplit : checkedSeeds split = .ok [Bytes.zeros 5, Bytes.zeros 6] := rfl
  have hpure : curveCheck.IsPure := CurveCheck.isPure_ofPredicate Curve.isOnCurve
  obtain ⟨hparts, hcreate, hfind⟩ := programAddress_parts hwhole hsplit
  refine ⟨hwhole, hsplit, ?_, ?_, ?_⟩
  · obtain ⟨hashed₁, hashed₂, hpre₁, hpre₂, hiff, -⟩ :=
      hparts Program.token Program.token Program.isReserved_token Program.isReserved_token
    exact ⟨hashed₁, hashed₂, hpre₁, hpre₂, hiff.mpr ⟨rfl, rfl⟩⟩
  · rw [← (hcreate rfl curveCheck Program.token).2 hpure {} {}]
    exact result_createProgramAddress_zeros
  · exact (hfind rfl _ _ rfl rfl (by decide) (by decide) curveCheck Program.token).2 hpure _ _

end Derivation
end LedgerKeys
