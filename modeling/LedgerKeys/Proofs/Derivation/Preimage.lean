/-
# What is hashed to an address

Nothing separates the parts of what is hashed: a seeded address is the hash of `base ++ seed ++
owner`, a program address that of `seeds ++ program ++ marker`. Only parts of a fixed length can be
told apart, from either end.

The marker ends what is hashed to a program address, and the owner ends what is hashed to a seeded
one. So the two are different unless the owner itself ends with the marker, and then they can be the
same: `seeded_ne_program_of_owner` and `seeded_eq_program_mimic`.
-/
import LedgerKeys.Proofs.Derivation.Attempt

namespace LedgerKeys

/-! ## 1. Collisions -/

/-- Two messages that are a collision of the hash function. -/
def Sha256.Collision (m m' : Bytes) : Prop := m ≠ m' ∧ sha256 m = sha256 m'

/-- Two addresses made by hashing are the same only if the same was hashed, or by a collision. -/
theorem PublicKey.eq_or_collision_of_ofDigest {m m' : Bytes}
    (h : PublicKey.ofDigest m = PublicKey.ofDigest m') : m = m' ∨ Sha256.Collision m m' := by
  have hdigest : sha256 m = sha256 m' := congrArg PublicKey.data h
  by_cases hm : m = m'
  · exact Or.inl hm
  · exact Or.inr ⟨hm, hdigest⟩

namespace Derivation

/-! ## 2. Seeded addresses and program addresses -/

theorem length_marker : marker.length = 21 := by decide +kernel

/-- A seeded address is the hash of its seed between two keys, if the seed is not too long. -/
theorem createWithSeed_eq_ok_iff {base owner address : PublicKey} {seed : Value} :
    createWithSeed (.publicKey base) seed (.publicKey owner) = .ok address ↔
      ∃ s, shortSeed seed = .ok s ∧
        address = PublicKey.ofDigest (seededPreimage base.data s owner.data) := by
  rw [createWithSeed, except_bind_eq_ok]
  refine exists_congr fun s => and_congr_right fun _ => ?_
  constructor
  · intro h
    cases h
    rfl
  · rintro rfl
    rfl

/-- **When the two are the same string.**  The owner ends with the marker, and the rest is the same
on both sides. -/
theorem seededPreimage_eq_programPreimage_iff {base seed owner program : Bytes}
    {seeds : List Bytes} (howner : owner.length = 32) :
    seededPreimage base seed owner = programPreimage seeds program ↔
      owner.drop 11 = marker ∧ base ++ seed ++ owner.take 11 = seeds.flatten ++ program := by
  have hlen : (owner.drop 11).length = marker.length := by
    rw [List.length_drop, howner, length_marker]
  have hsplit : seededPreimage base seed owner =
      (base ++ seed ++ owner.take 11) ++ owner.drop 11 := by
    rw [seededPreimage, List.append_assoc (base ++ seed), List.take_append_drop]
  rw [hsplit, programPreimage]
  constructor
  · intro h
    obtain ⟨hrest, hend⟩ := List.append_inj' h hlen
    exact ⟨hend, hrest⟩
  · rintro ⟨hend, hrest⟩
    rw [hend, hrest]

/-- **The marker separates the two schemes, except for owners that end with it.**  Take a seeded
address and a program address, whatever the seeds are.  Unless the last 21 bytes of the owner are
the marker, what was hashed is different, and the addresses are the same only by a collision.  For
such an owner what was hashed is the same exactly when the seeds and the program spell the base, the
seed and the first eleven bytes of the owner. -/
theorem seeded_ne_program_of_owner {base owner program address address' : PublicKey}
    {seed seeds : Value} {check : CurveCheck} {host : Host}
    (hseeded : createWithSeed (.publicKey base) seed (.publicKey owner) = .ok address)
    (hprogram : (createProgramAddress check seeds (.publicKey program)).result host =
      .ok address') :
    ∃ s vs bs, shortSeed seed = .ok s ∧ seeds.elements = .ok vs ∧ vs.mapM shortSeed = .ok bs ∧
      address = PublicKey.ofDigest (seededPreimage base.data s owner.data) ∧
      address' = PublicKey.ofDigest (programPreimage bs program.data) ∧
      (owner.data.drop 11 ≠ marker →
        seededPreimage base.data s owner.data ≠ programPreimage bs program.data ∧
        (address = address' → Sha256.Collision (seededPreimage base.data s owner.data)
          (programPreimage bs program.data))) ∧
      (owner.data.drop 11 = marker →
        (seededPreimage base.data s owner.data = programPreimage bs program.data ↔
          base.data ++ s ++ owner.data.take 11 = bs.flatten ++ program.data)) := by
  obtain ⟨s, hs, rfl⟩ := createWithSeed_eq_ok_iff.mp hseeded
  obtain ⟨preimage, hpre, -, rfl⟩ := result_createProgramAddress_eq_ok_iff.mp hprogram
  obtain ⟨n, vs, bs, data, -, -, hvs, hbs, -, hdata, rfl⟩ := checkedPreimage_eq_ok_iff.mp hpre
  obtain rfl : program.data = data := Except.ok.inj hdata
  have hiff : seededPreimage base.data s owner.data = programPreimage bs program.data ↔ _ :=
    seededPreimage_eq_programPreimage_iff owner.length_data
  refine ⟨s, vs, bs, hs, hvs, hbs, rfl, rfl, fun hne => ?_, fun heq => ?_⟩
  · have hdiff : seededPreimage base.data s owner.data ≠ programPreimage bs program.data :=
      fun h => hne (hiff.mp h).1
    refine ⟨hdiff, fun haddress => ?_⟩
    rcases PublicKey.eq_or_collision_of_ofDigest haddress with h | h
    · exact absurd h hdiff
    · exact h
  · rw [hiff]
    exact and_iff_right heq

/-- One seed of eleven zeros gives an address of the token program. -/
theorem result_createProgramAddress_zeros :
    (createProgramAddress curveCheck (.list [.bytes (Bytes.zeros 11)])
        (.publicKey Program.token)).result {} =
      .ok (PublicKey.ofDigest (programPreimage [Bytes.zeros 11] Program.token.data)) := by
  have hoff : Curve.isOnCurve (sha256 (programPreimage [Bytes.zeros 11] Program.token.data)) =
      false := by decide +kernel
  exact result_createProgramAddress_eq_ok_iff.mpr ⟨_, checkedPreimage_list_eq_ok (by decide) rfl
    Program.isReserved_token, congrArg Except.ok hoff, rfl⟩

/-- An owner that begins with the marker. -/
def markerFirst : PublicKey := ⟨marker ++ Bytes.zeros 11, by simp [length_marker]⟩

/-- An owner that only begins with the marker is told apart. -/
theorem seeded_ne_program_of_marker_first :
    let seeded := seededPreimage PublicKey.zero.data [] markerFirst.data
    let program := programPreimage [Bytes.zeros 11] Program.token.data
    createWithSeed (.publicKey .zero) (.text []) (.publicKey markerFirst) =
        .ok (PublicKey.ofDigest seeded) ∧
      (createProgramAddress curveCheck (.list [.bytes (Bytes.zeros 11)])
        (.publicKey Program.token)).result {} = .ok (PublicKey.ofDigest program) ∧
      markerFirst.data.drop 11 ≠ marker ∧ seeded ≠ program := by
  intro seeded program
  have hseeded : createWithSeed (.publicKey .zero) (.text []) (.publicKey markerFirst) =
      .ok (PublicKey.ofDigest seeded) := rfl
  have howner : markerFirst.data.drop 11 ≠ marker := by decide +kernel
  obtain ⟨s, vs, bs, hs, hvs, hbs, -, -, hne, -⟩ :=
    seeded_ne_program_of_owner hseeded result_createProgramAddress_zeros
  cases hs
  cases hvs
  cases hbs
  exact ⟨hseeded, result_createProgramAddress_zeros, howner, (hne howner).1⟩

/-- A base of eleven zeros and the beginning of the token program. -/
def mimicBase : PublicKey :=
  ⟨Bytes.zeros 11 ++ Program.token.data.take 21, by simp [Program.token.length_data]⟩

/-- An owner of the end of the token program and the marker. -/
def mimicOwner : PublicKey :=
  ⟨Program.token.data.drop 21 ++ marker, by simp [Program.token.length_data, length_marker]⟩

/-- **The two schemes are not separated.**  The seeded address of the empty seed under `mimicBase`
and `mimicOwner` and the address of the token program for a seed of eleven zeros are hashes of the
same string. -/
theorem seeded_eq_program_mimic :
    let hashed := programPreimage [Bytes.zeros 11] Program.token.data
    createWithSeed (.publicKey mimicBase) (.text []) (.publicKey mimicOwner) =
        .ok (PublicKey.ofDigest hashed) ∧
      (createProgramAddress curveCheck (.list [.bytes (Bytes.zeros 11)])
        (.publicKey Program.token)).result {} = .ok (PublicKey.ofDigest hashed) ∧
      seededPreimage mimicBase.data [] mimicOwner.data = hashed := by
  intro hashed
  have hsame : seededPreimage mimicBase.data [] mimicOwner.data = hashed := by
    simp only [seededPreimage, hashed, programPreimage, mimicBase, mimicOwner, List.append_nil,
      List.flatten_cons, List.flatten_nil, List.append_assoc]
    rw [← List.append_assoc (Program.token.data.take 21), List.take_append_drop]
  refine ⟨createWithSeed_eq_ok_iff.mpr ⟨[], rfl, ?_⟩, result_createProgramAddress_zeros, hsame⟩
  rw [hsame]

end Derivation
end LedgerKeys
