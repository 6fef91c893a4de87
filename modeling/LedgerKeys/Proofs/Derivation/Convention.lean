/-
# Addresses by convention

Two kinds of addresses are found by a rule that every client knows: the token account of a wallet
for a mint, and the metadata account of a mint. Each is a search with fixed programs among its seeds
and as its owner (`Convention`), and the keys are the only part that varies.

These seeds pass every check, so the curve is all that can refuse an attempt, and what is found
under a bump is the hash of one string (`Convention.found_iff`). The string is made of parts of a
fixed length. From its end it tells the owner, which differs between the two kinds, then the bump,
and then the keys (`Convention.hashed_eq_iff`), whatever bumps the two searches stopped at.
-/
import LedgerKeys.Proofs.Derivation.Cause
import LedgerKeys.Proofs.Derivation.Preimage
import LedgerKeys.Proofs.Derivation.Signer

namespace LedgerKeys
namespace Derivation

/-! ## 1. Two kinds of addresses -/

/-- An address by convention, with the keys that it is for. -/
inductive Convention where
  | tokenAccount (wallet mint : PublicKey)
  | metadata (mint : PublicKey)

namespace Convention

/-- The search for the address. -/
def find : Convention → Effect (PublicKey × Nat)
  | tokenAccount wallet mint => findAssociatedTokenAddress (.publicKey wallet) (.publicKey mint)
  | metadata mint => findTokenMetadataAddress (.publicKey mint)

/-- The seeds of the search. -/
def seeds : Convention → List Bytes
  | tokenAccount wallet mint => [wallet.data, Program.token.data, mint.data]
  | metadata mint =>
    ["metadata".toList.map fun c => UInt8.ofNat c.toNat, Program.tokenMetadata.data, mint.data]

/-- The program that owns the address. -/
def owner : Convention → PublicKey
  | tokenAccount _ _ => Program.associatedToken
  | metadata _ => Program.tokenMetadata

/-- What is hashed to the address under a bump. -/
def hashed (c : Convention) (bump : Nat) : Bytes :=
  c.seeds.flatten ++ [UInt8.ofNat bump] ++ c.owner.data ++ marker

variable {c c' : Convention} {host : Host} {address : PublicKey} {b b' : Nat}

/-! ## 2. What is found -/

/-- The seeds as they are handed over. -/
def values (c : Convention) : List Value := c.seeds.map Value.bytes

theorem find_eq (c : Convention) :
    c.find = findProgramAddress (.ofPredicate Curve.isOnCurve) (.list c.values)
      (.publicKey c.owner) := by
  cases c with
  | tokenAccount wallet mint => rfl
  | metadata mint => rfl

theorem isSeed_of_mem_values : ∀ v ∈ c.values, IsSeed v := by
  intro v hv
  obtain ⟨bs, -, rfl⟩ := List.mem_map.mp hv
  exact .bytes bs

theorem candidate_values (c : Convention) (bump : Nat) :
    candidate c.values c.owner bump = c.hashed bump := by
  have hworth : c.values.flatMap worth = c.seeds.flatten := by
    rw [values, List.flatMap_map]
    exact List.flatMap_id
  rw [candidate, hashed, hworth]

/-- Three seeds are not too many, even with the bump behind them. -/
theorem length_values (c : Convention) : c.values.length = 3 := by
  cases c with
  | tokenAccount wallet mint => rfl
  | metadata mint => rfl

theorem length_le_of_mem_seeds : ∀ s ∈ c.seeds, s.length ≤ 32 := by
  have hkey : ∀ k : PublicKey, k.data.length ≤ 32 := fun k => Nat.le_of_eq k.length_data
  cases c with
  | tokenAccount wallet mint =>
    rw [seeds, List.forall_mem_cons, List.forall_mem_cons, List.forall_mem_singleton]
    exact ⟨hkey wallet, hkey Program.token, hkey mint⟩
  | metadata mint =>
    rw [seeds, List.forall_mem_cons, List.forall_mem_cons, List.forall_mem_singleton]
    exact ⟨by decide, hkey Program.tokenMetadata, hkey mint⟩

theorem owner_not_mem_reserved (c : Convention) : c.owner ∉ Program.reserved := by
  rw [← Program.isReserved_iff_mem, Bool.not_eq_true]
  cases c with
  | tokenAccount wallet mint => exact Program.tokenPrograms.1.2.1
  | metadata mint => exact Program.tokenPrograms.1.2.2

/-- **Nothing is wrong with the seeds and the owner**, so the curve check is asked about every
bump. -/
theorem standingFault?_values (c : Convention) : standingFault? c.values c.owner = none := by
  have hshort : c.values.findSome? seedFault? = none := by
    refine (findSome?_seedFault?_eq_none isSeed_of_mem_values).mpr fun v hv => ?_
    obtain ⟨s, hs, rfl⟩ := List.mem_map.mp hv
    exact length_le_of_mem_seeds s hs
  rw [standingFault?, c.length_values, if_neg (by decide), hshort]
  exact if_neg c.owner_not_mem_reserved

/-- What comes of the attempt with a bump is up to the curve. -/
theorem attempt_eq (c : Convention) (bump : Nat) (host : Host) :
    (createProgramAddress (.ofPredicate Curve.isOnCurve) (.list (c.values ++ [bumpSeed bump]))
        (.publicKey c.owner)).result host =
      verdict (c.hashed bump) (.ok (Curve.isOnCurve (sha256 (c.hashed bump)))) := by
  rw [result_createProgramAddress_bump Curve.isOnCurve isSeed_of_mem_values,
    c.standingFault?_values, ← c.candidate_values]

theorem verdict_eq_ok_iff {message : Bytes} {onCurve : Bool} :
    verdict message (.ok onCurve) = .ok address ↔
      onCurve = false ∧ address = PublicKey.ofDigest message := by
  cases onCurve with
  | false => simp [verdict, eq_comm]
  | true => simp [verdict]

/-- **What is found, under which bump.** -/
theorem found_iff :
    c.find.result host = .ok (address, b) ↔
      1 ≤ b ∧ b ≤ 255 ∧ Curve.isOnCurve (sha256 (c.hashed b)) = false ∧
        address = PublicKey.ofDigest (c.hashed b) ∧
        ∀ higher, b < higher → higher ≤ 255 →
          Curve.isOnCurve (sha256 (c.hashed higher)) = true := by
  have hlist : (Value.list c.values).elements = .ok c.values := rfl
  have herror : ∀ bump, (∃ f, verdict (c.hashed bump)
      (.ok (Curve.isOnCurve (sha256 (c.hashed bump)))) = .error f) ↔
        Curve.isOnCurve (sha256 (c.hashed bump)) = true := by
    intro bump
    cases Curve.isOnCurve (sha256 (c.hashed bump)) with
    | false => simp [verdict]
    | true => simp [verdict]
  rw [find_eq, result_findProgramAddress hlist, result_searchFrom_eq_ok_iff
    (steady_createProgramAddress Curve.isOnCurve isSeed_of_mem_values c.owner host)]
  -- The scan begins with `maxBump - 1 + 1`, which is 255.
  simp only [attempt_eq, herror, verdict_eq_ok_iff, and_assoc]
  rfl

/-- **Nothing is found if the curve refuses every bump**, and for no other reason. -/
theorem not_found_iff {f : Failure} :
    c.find.result host = .error f ↔
      (∀ bump ∈ List.range' 1 255, Curve.isOnCurve (sha256 (c.hashed bump)) = true) ∧
        f = .addressNotFound .onCurve := by
  rw [find_eq, result_findProgramAddress_eq_error_iff Curve.isOnCurve isSeed_of_mem_values]
  simp only [reason?_eq_some_iff, c.standingFault?_values, c.candidate_values]
  constructor
  · rintro ⟨last, h | ⟨-, hall, rfl⟩, rfl⟩
    · cases h
    · exact ⟨hall, rfl⟩
  · rintro ⟨hall, rfl⟩
    exact ⟨.onCurve, .inr ⟨trivial, hall, rfl⟩, rfl⟩

/-! ## 3. What is hashed -/

/-- The seeds tell the keys, as only these vary and all have the same length. -/
theorem eq_of_seeds (howner : c.owner = c'.owner) (h : c.seeds.flatten = c'.seeds.flatten) :
    c = c' := by
  have hlen : ∀ k k' : PublicKey, k.data.length = k'.data.length := fun k k' => by
    rw [k.length_data, k'.length_data]
  cases c with
  | tokenAccount wallet mint =>
    cases c' with
    | tokenAccount wallet' mint' =>
      simp only [seeds, List.flatten_cons, List.flatten_nil, List.append_nil] at h
      obtain ⟨hwallet, hrest⟩ := List.append_inj h (hlen wallet wallet')
      have hmint : mint.data = mint'.data := List.append_cancel_left hrest
      rw [PublicKey.eq_iff_data.mpr hwallet, PublicKey.eq_iff_data.mpr hmint]
    | metadata mint' => exact absurd howner Program.tokenPrograms.2
  | metadata mint =>
    cases c' with
    | tokenAccount wallet' mint' =>
      exact absurd howner.symm Program.tokenPrograms.2
    | metadata mint' =>
      simp only [seeds, List.flatten_cons, List.flatten_nil, List.append_nil] at h
      have hmint : mint.data = mint'.data := List.append_cancel_left (List.append_cancel_left h)
      rw [PublicKey.eq_iff_data.mpr hmint]

/-- A bump is told by its byte. -/
theorem eq_of_bumpByte (hb : b ≤ 255) (hb' : b' ≤ 255) (h : UInt8.ofNat b = UInt8.ofNat b') :
    b = b' := by
  have hval := congrArg UInt8.toNat h
  rwa [UInt8.toNat_ofNat_of_lt' (Nat.lt_succ_of_le hb),
    UInt8.toNat_ofNat_of_lt' (Nat.lt_succ_of_le hb')] at hval

/-- **The hashed string tells the keys and the bump.** -/
theorem hashed_eq_iff (hb : b ≤ 255) (hb' : b' ≤ 255) :
    c.hashed b = c'.hashed b' ↔ c = c' ∧ b = b' := by
  constructor
  · intro h
    have howners : c.owner.data.length = c'.owner.data.length := by
      rw [c.owner.length_data, c'.owner.length_data]
    obtain ⟨hfront, howner⟩ := List.append_inj' (List.append_cancel_right h) howners
    obtain ⟨hseeds, hbump⟩ := List.append_inj' hfront rfl
    exact ⟨eq_of_seeds (PublicKey.eq_iff_data.mpr howner) hseeds,
      eq_of_bumpByte hb hb' (List.cons.inj hbump).1⟩
  · rintro ⟨rfl, rfl⟩
    rfl

/-! ## 4. What addresses identify -/

/-- **Addresses by convention identify the keys that they are for.**

Whatever the keys are, the search ends in one of two ways: with an address that is off the curve,
the hash of `hashed` under the bump that is given with it, or with the refusal that nothing is
found, caused by a digest on the curve.

If two searches give the same address, they are for the same kind of account, for the same keys, and
stopped at the same bump; or else the two hashed strings are a collision. So the token account of
other keys is another address, the metadata account of another mint is, and no token account is a
metadata account. -/
theorem convention_identifies_keys :
    (∀ (c : Convention) (host : Host),
      (∃ address b, c.find.result host = .ok (address, b) ∧
        isOnCurve (.bytes address.data) = .ok false ∧ address.data = sha256 (c.hashed b)) ∨
      ∃ f last, c.find.result host = .error f ∧ f.kind = .addressNotFound ∧
        f.cause? = some last ∧ last.kind = .invalidSeeds) ∧
    ∀ (c c' : Convention) (host host' : Host) (address : PublicKey) (b b' : Nat),
      c.find.result host = .ok (address, b) → c'.find.result host' = .ok (address, b') →
        (c = c' ∧ b = b') ∨ Sha256.Collision (c.hashed b) (c'.hashed b') := by
  refine ⟨fun c host => ?ends, fun c c' host host' address b b' h h' => ?same⟩
  case ends =>
    cases hfound : c.find.result host with
    | ok found =>
      obtain ⟨address, b⟩ := found
      obtain ⟨-, -, hoff, rfl, -⟩ := found_iff.mp hfound
      refine .inl ⟨_, b, rfl, ?_, rfl⟩
      rw [isOnCurve_bytes (PublicKey.ofDigest _).length_data]
      exact congrArg Except.ok hoff
    | error f =>
      obtain ⟨-, rfl⟩ := not_found_iff.mp hfound
      exact .inr ⟨_, .onCurve, rfl, rfl, rfl, rfl⟩
  case same =>
    obtain ⟨-, hb, -, rfl, -⟩ := found_iff.mp h
    obtain ⟨-, hb', -, haddress, -⟩ := found_iff.mp h'
    exact (PublicKey.eq_or_collision_of_ofDigest haddress).imp_left (hashed_eq_iff hb hb').mp

/-- For the zero key as a wallet and the token program as a mint, the bump 255 is passed over and
the next one is found, from every host. -/
theorem convention_identifies_keys_zero :
    let account := tokenAccount .zero Program.token
    let address := PublicKey.ofDigest (account.hashed 254)
    account.find.result {} = .ok (address, 254) ∧
      account.find.result { digests := [[]] } = .ok (address, 254) ∧
      isOnCurve (.bytes address.data) = .ok false ∧
      ((account = account ∧ 254 = 254) ∨
        Sha256.Collision (account.hashed 254) (account.hashed 254)) := by
  intro account address
  have hon : Curve.isOnCurve (sha256 (account.hashed 255)) = true := by decide +kernel
  have hoff : Curve.isOnCurve (sha256 (account.hashed 254)) = false := by decide +kernel
  have hfound : ∀ host, account.find.result host = .ok (address, 254) := by
    intro host
    refine found_iff.mpr ⟨by decide, by decide, hoff, rfl, fun higher hlt hle => ?_⟩
    obtain rfl : higher = 255 := by omega
    exact hon
  obtain ⟨hends, hsame⟩ := convention_identifies_keys
  refine ⟨hfound _, hfound _, ?_, hsame _ _ _ _ _ _ _ (hfound {}) (hfound { digests := [[]] })⟩
  rcases hends account {} with ⟨address', b, h, hoff', -⟩ | ⟨f, last, h, -⟩
  · rw [hfound] at h
    cases h
    exact hoff'
  · rw [hfound] at h
    cases h

end Convention
end Derivation
end LedgerKeys
