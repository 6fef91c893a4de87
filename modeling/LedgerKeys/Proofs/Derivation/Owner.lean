/-
# Who may own an address

The check for reserved programs compares keys, and what is hashed are the bytes that the program
converts to. The two look at the same thing only if the program is a public key, which is what
callers are told to hand over. Then no address is derived under the bytes of a reserved key
(`owner_of_programAddress`).

Every other value that cannot change is let past the check, whatever its bytes are, so the bytes of
a reserved key own the addresses that the key itself is refused (`reserved_bytes_own_address`). What
is known of the owner depends on the kind of the program: for keys and signatures there is a rule
(`OwnerRule`), and for what only spells some bytes there is none.
-/
import LedgerKeys.Proofs.Derivation.Splitting

namespace LedgerKeys

/-! ## 1. The check for reserved programs -/

namespace Program

/-- A key with the bytes of a reserved one is that one. -/
theorem isReserved_eq_false_iff {k : PublicKey} :
    isReserved k = false ↔ ∀ r ∈ reserved, k.data ≠ r.data := by
  rw [← Bool.not_eq_true, isReserved_iff_mem]
  constructor
  · rintro h r hr hdata
    exact h (PublicKey.eq_iff_data.mpr hdata ▸ hr)
  · exact fun h hk => h k hk rfl

/-- **What the check lets past.**  A value that cannot change, unless it is a reserved key. -/
theorem reserved?_eq_ok_none_iff {v : Value} :
    reserved? v = .ok none ↔ v.isFixed = true ∧ ∀ k, v = .publicKey k → isReserved k = false := by
  cases hfixed : v.isFixed with
  | false => simp [reserved?, hfixed]
  | true =>
    cases v with
    | publicKey k => simp [reserved?_publicKey]
    | _ => simp [reserved?, hfixed]

end Program

namespace Derivation

/-! ## 2. Owners, by the kind of the program -/

/-- What is known of the bytes that own an address, by the program that was handed over.  Of a
public key they are 32 and not those of a reserved key; of a private key or a signature they are
too many for that. Of other programs nothing is said. -/
def OwnerRule (program : Value) (owner : Bytes) : Prop :=
  match program with
  | .publicKey _ => owner.length = 32 ∧ ∀ r ∈ Program.reserved, owner ≠ r.data
  | .privateKey _ | .signature _ => owner.length = 64 ∧ ∀ r ∈ Program.reserved, owner ≠ r.data
  | _ => True

theorem ne_data_of_length {owner : Bytes} (hlen : owner.length = 64) (r : PublicKey) :
    owner ≠ r.data := by
  rintro rfl
  rw [r.length_data] at hlen
  cases hlen

/-- A program that passes the check and is worth some bytes keeps the rule. -/
theorem ownerRule_of_reserved? {program : Value} {owner : Bytes}
    (hpass : Program.reserved? program = .ok none) (howner : program.toBytes = .ok owner) :
    OwnerRule program owner := by
  obtain ⟨-, hfree⟩ := Program.reserved?_eq_ok_none_iff.mp hpass
  cases program with
  | publicKey k =>
    cases howner
    exact ⟨k.length_data, Program.isReserved_eq_false_iff.mp (hfree k rfl)⟩
  | privateKey k =>
    cases howner
    exact ⟨k.length_data, fun r _ => ne_data_of_length k.length_data r⟩
  | signature s =>
    cases howner
    exact ⟨s.length_data, fun r _ => ne_data_of_length s.length_data r⟩
  | _ => trivial

/-- An address is derived from these seeds under the bytes of a program, and they keep the rule. -/
def DerivedUnder (seeds : List Value) (program : Value) (address : PublicKey) : Prop :=
  ∃ bs owner, seeds.mapM shortSeed = .ok bs ∧ program.toBytes = .ok owner ∧
    address = PublicKey.ofDigest (programPreimage bs owner) ∧ OwnerRule program owner

/-- A derivation that succeeds is one under an owner as it should be. -/
theorem derivedUnder_of_createProgramAddress {check : CurveCheck} {seeds program : Value}
    {host : Host} {address : PublicKey}
    (h : (createProgramAddress check seeds program).result host = .ok address) :
    ∃ vs, seeds.elements = .ok vs ∧ DerivedUnder vs program address := by
  obtain ⟨preimage, hpre, -, rfl⟩ := result_createProgramAddress_eq_ok_iff.mp h
  obtain ⟨n, vs, bs, owner, -, -, hvs, hbs, hpass, howner, rfl⟩ :=
    checkedPreimage_eq_ok_iff.mp hpre
  exact ⟨vs, hvs, bs, owner, hbs, howner, rfl, ownerRule_of_reserved? hpass howner⟩

/-- **No address is derived under a reserved key.**  Whatever is handed over as seeds and program
and whatever the curve check does: if a derivation or a search gives an address, what was hashed
ends with the bytes of the program and the marker, and these bytes keep the rule for owners.  If the
program is a public key, they are 32 and not those of a reserved key. -/
theorem owner_of_programAddress (check : CurveCheck) (seeds program : Value) (host : Host) :
    (∀ address, (createProgramAddress check seeds program).result host = .ok address →
        ∃ vs, seeds.elements = .ok vs ∧ DerivedUnder vs program address) ∧
      ∀ address b, (findProgramAddress check seeds program).result host = .ok (address, b) →
        ∃ vs, seeds.elements = .ok vs ∧ DerivedUnder (vs ++ [bumpSeed b]) program address := by
  refine ⟨fun address h => derivedUnder_of_createProgramAddress h, fun address b h => ?_⟩
  obtain ⟨vs, host', hvs, h'⟩ := exists_attempt_of_findProgramAddress h
  obtain ⟨vs', hvs', hunder⟩ := derivedUnder_of_createProgramAddress h'
  cases hvs'
  exact ⟨vs, hvs, hunder⟩

/-- The token program owns what is derived under it without seeds, if the check refuses nothing. -/
theorem owner_of_programAddress_token :
    let check := CurveCheck.ofPredicate fun _ => false
    let address (bs : List Bytes) := PublicKey.ofDigest (programPreimage bs Program.token.data)
    (createProgramAddress check (.list []) (.publicKey Program.token)).result {} =
        .ok (address []) ∧
      (findProgramAddress check (.list []) (.publicKey Program.token)).result {} =
        .ok (address [[255]], 255) ∧
      DerivedUnder [] (.publicKey Program.token) (address []) ∧
      DerivedUnder [bumpSeed 255] (.publicKey Program.token) (address [[255]]) := by
  intro check address
  have hderived : ∀ (vs : List Value) {bs : List Bytes}, vs.length ≤ maxSeeds →
      vs.mapM shortSeed = .ok bs →
      (createProgramAddress check (.list vs) (.publicKey Program.token)).result {} =
        .ok (address bs) := fun vs _ hlen hbs =>
    result_createProgramAddress_eq_ok_iff.mpr
      ⟨_, checkedPreimage_list_eq_ok hlen hbs Program.isReserved_token, rfl, rfl⟩
  have hcreated := hderived [] (Nat.zero_le _) rfl
  have hfound : (findProgramAddress check (.list []) (.publicKey Program.token)).result {} =
      .ok (address [[255]], 255) :=
    result_findProgramAddress_of_maxBump rfl (hderived [bumpSeed maxBump] (by decide) rfl)
  obtain ⟨hcreate, hfind⟩ :=
    owner_of_programAddress check (.list []) (.publicKey Program.token) {}
  obtain ⟨vs, hvs, hunder⟩ := hcreate _ hcreated
  obtain ⟨vs', hvs', hunder'⟩ := hfind _ _ hfound
  cases hvs
  cases hvs'
  exact ⟨hcreated, hfound, hunder, hunder'⟩

/-! ## 3. Programs of other kinds -/

section Derived

variable {seeds : Value} {bs : List Bytes} (hbs : checkedSeeds seeds = .ok bs) {check : CurveCheck}
  {host : Host}
include hbs

/-- Whatever passes the check and is worth some bytes owns an address if they are off the curve. -/
theorem result_createProgramAddress_of_passed {program : Value} {owner : Bytes}
    (hpass : Program.reserved? program = .ok none) (howner : program.toBytes = .ok owner)
    (hoff : check host.digests (sha256 (programPreimage bs owner)) = .ok false) :
    (createProgramAddress check seeds program).result host =
      .ok (PublicKey.ofDigest (programPreimage bs owner)) := by
  have hpre : checkedPreimage seeds program = .ok (programPreimage bs owner) := by
    rw [checkedPreimage_eq, hbs]
    simp only [bind, Except.bind, hpass, howner]
    rfl
  exact result_createProgramAddress_eq_ok_iff.mpr ⟨_, hpre, hoff, rfl⟩

/-- **The check is by kind.**  Where a reserved key is refused, the byte string with its bytes is
the owner of an address. -/
theorem result_createProgramAddress_reserved {r : PublicKey} (hr : r ∈ Program.reserved)
    (hoff : check host.digests (sha256 (programPreimage bs r.data)) = .ok false) :
    (createProgramAddress check seeds (.publicKey r)).result host = .error (.illegalOwner r) ∧
      (createProgramAddress check seeds (.bytes r.data)).result host =
        .ok (PublicKey.ofDigest (programPreimage bs r.data)) := by
  refine ⟨?_, result_createProgramAddress_of_passed hbs rfl rfl hoff⟩
  rw [Effect.result, outcome_createProgramAddress, checkedPreimage_publicKey, hbs]
  simp [bind, Except.bind, Program.isReserved_iff_mem.mpr hr]

end Derived

/-- A signature of zeros. -/
def zeroSignature : Signature := ⟨Bytes.zeros 64, Bytes.length_zeros 64⟩

/-- **Owners that no program has.**  With the check of the curve itself, addresses are derived under
32 zeros, which are the bytes of the system program, under no bytes at all and under the 64 of a
signature. -/
theorem reserved_bytes_own_address :
    let derived (seeds : List Value) (program : Value) :=
      (createProgramAddress curveCheck (.list seeds) program).result {}
    (derived [] (.bytes (Bytes.zeros 32)) =
        .ok (PublicKey.ofDigest (programPreimage [] (Bytes.zeros 32))) ∧
      Program.system ∈ Program.reserved ∧ Program.system.data = Bytes.zeros 32 ∧
      derived [] (.publicKey Program.system) = .error (.illegalOwner Program.system)) ∧
    derived [] (.bytes []) = .ok (PublicKey.ofDigest (programPreimage [] [])) ∧
    derived [.bytes (Bytes.zeros 2)] (.signature zeroSignature) =
      .ok (PublicKey.ofDigest (programPreimage [Bytes.zeros 2] zeroSignature.data)) := by
  intro derived
  have hmem : Program.system ∈ Program.reserved := by simp [Program.reserved]
  have hdata : Program.system.data = Bytes.zeros 32 := by decide +kernel
  have hsystem : Curve.isOnCurve (sha256 (programPreimage [] Program.system.data)) = false := by
    decide +kernel
  have hempty : Curve.isOnCurve (sha256 (programPreimage [] [])) = false := by decide +kernel
  have hsignature : Curve.isOnCurve
      (sha256 (programPreimage [Bytes.zeros 2] zeroSignature.data)) = false := by decide +kernel
  have hnone : checkedSeeds (.list []) = .ok [] := rfl
  have hzeros : checkedSeeds (.list [.bytes (Bytes.zeros 2)]) = .ok [Bytes.zeros 2] := rfl
  obtain ⟨hrefused, hderived⟩ : derived [] (.publicKey Program.system) = _ ∧
      derived [] (.bytes Program.system.data) = _ :=
    result_createProgramAddress_reserved hnone hmem (congrArg Except.ok hsystem)
  rw [hdata] at hderived
  exact ⟨⟨hderived, hmem, hdata, hrefused⟩,
    result_createProgramAddress_of_passed hnone rfl rfl (congrArg Except.ok hempty),
    result_createProgramAddress_of_passed hzeros rfl rfl (congrArg Except.ok hsignature)⟩

end Derivation
end LedgerKeys
