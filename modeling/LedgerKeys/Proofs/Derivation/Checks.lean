/-
# The order of the checks

A derivation can be refused for several reasons, and more than one may hold of the same input. Here
is which one is told: too many seeds come first, then the leftmost seed that is wrong, then a
reserved program, and last a digest on the curve. The curve check is asked once if nothing else is
wrong, and not at all otherwise (`createProgramAddress_first_check`).

What is wrong with one seed does not depend on the others (`seedFault?`). Going through the seeds
stops at the first fault, and what was put together up to there is thrown away (`mapM_shortSeed`).
-/
import LedgerKeys.Proofs.Derivation.Attempt

namespace LedgerKeys
namespace Derivation

/-! ## 1. One seed -/

/-- What may be handed over for a seed: a seed as callers are told to hand it over, or a signature
or a number in its place. -/
inductive IsCandidate : Value → Prop
  | seed {v : Value} (h : IsSeed v) : IsCandidate v
  | signature (s : Signature) : IsCandidate (.signature s)
  | int (n : Int) : IsCandidate (.int n)
  | bool (b : Bool) : IsCandidate (.bool b)

/-- The bytes of a candidate, of a text in UTF-8. A number has none. -/
def worth : Value → Bytes
  | .bytes bs | .buffer bs => bs
  | .text t => Utf8.encodeAll t
  | .publicKey k => k.data
  | .signature s => s.data
  | _ => []

/-- What is wrong with a candidate: it is a number, or it has more than 32 bytes. -/
def seedFault? : Value → Option Failure
  | .int _ => some (.seedKind "int")
  | .bool _ => some (.seedKind "bool")
  | v => if 32 < (worth v).length then some (.seedTooLong (worth v).length) else none

/-- The outcome of the checks on one seed. -/
def judge (v : Value) : Except Failure Bytes :=
  match seedFault? v with
  | some f => .error f
  | none => .ok (worth v)

/-- What is worth its bytes is no number, so only their length counts. -/
theorem shortSeed_of_seedBytes {v : Value} (h : seedBytes v = .ok (worth v)) :
    shortSeed v = judge v := by
  have hfault : seedFault? v =
      if 32 < (worth v).length then some (.seedTooLong (worth v).length) else none := by
    cases v with
    | int n => cases h
    | bool b => cases h
    | _ => rfl
  rw [shortSeed, h, judge, hfault]
  change (if 32 < (worth v).length then _ else _) = _
  split
  · rfl
  · rfl

/-- Only the length of a seed as it should be can be a fault. -/
theorem IsSeed.seedFault?_eq {v : Value} (h : IsSeed v) :
    seedFault? v =
      if 32 < (worth v).length then some (.seedTooLong (worth v).length) else none := by
  cases h <;> rfl

/-- **A candidate is refused for its fault**, and is worth its bytes if it has none. -/
theorem IsCandidate.shortSeed_eq {v : Value} (h : IsCandidate v) : shortSeed v = judge v := by
  cases h with
  | int n => rfl
  | bool b => rfl
  | signature s => exact shortSeed_of_seedBytes rfl
  | seed h =>
    cases h with
    | bytes bs => exact shortSeed_of_seedBytes rfl
    | buffer bs => exact shortSeed_of_seedBytes rfl
    | publicKey k => exact shortSeed_of_seedBytes rfl
    | @text t ht =>
      refine shortSeed_of_seedBytes ?_
      rw [seedBytes, Utf8.encode_eq_ok_iff.mpr ⟨ht, rfl⟩]
      rfl

/-! ## 2. All seeds -/

/-- **The leftmost fault is told**, by induction along the seeds. -/
theorem mapM_shortSeed {seeds : List Value} (h : ∀ v ∈ seeds, IsCandidate v) :
    seeds.mapM shortSeed = match seeds.findSome? seedFault? with
      | some f => .error f
      | none => .ok (seeds.map worth) := by
  induction seeds with
  | nil => rfl
  | cons v seeds ih =>
    have hv := (h v List.mem_cons_self).shortSeed_eq
    have hseeds := ih fun w hw => h w (List.mem_cons_of_mem v hw)
    rw [List.mapM_cons, hv, judge, List.findSome?_cons]
    cases seedFault? v with
    | some f => rfl
    | none =>
      rw [hseeds]
      cases seeds.findSome? seedFault? with
      | some f => rfl
      | none => rfl

/-- Seeds as they should be have no fault if none of them is too long. -/
theorem findSome?_seedFault?_eq_none {seeds : List Value} (h : ∀ v ∈ seeds, IsSeed v) :
    seeds.findSome? seedFault? = none ↔ ∀ v ∈ seeds, (worth v).length ≤ 32 := by
  rw [List.findSome?_eq_none_iff]
  refine forall₂_congr fun v hv => ?_
  rw [(h v hv).seedFault?_eq, ite_eq_right_iff, ← Nat.not_lt]
  exact imp_congr_right fun _ => iff_of_false (Option.some_ne_none _) id

/-- If there is a fault, it is the length of one of them. -/
theorem kind_of_findSome?_seedFault? {seeds : List Value} (h : ∀ v ∈ seeds, IsSeed v) {f : Failure}
    (hf : seeds.findSome? seedFault? = some f) : f.kind = .seedTooLong := by
  obtain ⟨v, hv, hfault⟩ := List.exists_of_findSome?_eq_some hf
  rw [(h v hv).seedFault?_eq] at hfault
  split_ifs at hfault
  cases hfault
  rfl

/-! ## 3. All checks -/

/-- **The checks before the hash is made**, in their order. What passes all of them is hashed. -/
theorem checkedPreimage_candidates {seeds : List Value} (h : ∀ v ∈ seeds, IsCandidate v)
    (program : PublicKey) :
    checkedPreimage (.list seeds) (.publicKey program) =
      if 16 < seeds.length then .error (.tooManySeeds seeds.length)
      else match seeds.findSome? seedFault? with
        | some f => .error f
        | none =>
          if program ∈ Program.reserved then .error (.illegalOwner program)
          else .ok (seeds.flatMap worth ++ program.data ++ marker) := by
  rw [checkedPreimage_publicKey, checkedSeeds_list, mapM_shortSeed h, show maxSeeds = 16 from rfl]
  by_cases hmany : 16 < seeds.length
  · rw [if_pos hmany, if_pos hmany]
    rfl
  · rw [if_neg hmany, if_neg hmany]
    cases seeds.findSome? seedFault? with
    | some f => rfl
    | none =>
      dsimp only [bind, Except.bind]
      simp only [Program.isReserved_iff_mem, programPreimage, List.flatMap_def]

/-- What an answer of the curve check means: a digest on the curve is refused, one off the curve is
the address, and a failure of the check is passed on. -/
def verdict (message : Bytes) : Except Failure Bool → Except Failure PublicKey
  | .ok true => .error .onCurve
  | .ok false => .ok (PublicKey.ofDigest message)
  | .error f => .error f

section Outcome

variable {check : CurveCheck} {seeds program : Value} {host : Host}

theorem outcome_createProgramAddress_of_error {f : Failure}
    (h : checkedPreimage seeds program = .error f) :
    (createProgramAddress check seeds program).outcome host = (.error f, host) := by
  rw [outcome_createProgramAddress, h]

theorem outcome_createProgramAddress_of_ok {message : Bytes}
    (h : checkedPreimage seeds program = .ok message) :
    (createProgramAddress check seeds program).outcome host =
      (verdict message (check host.digests (sha256 message)),
        { host with digests := host.digests ++ [sha256 message] }) := by
  rw [outcome_createProgramAddress, h]
  dsimp only
  cases check host.digests (sha256 message) with
  | error f => rfl
  | ok found => cases found <;> rfl

end Outcome

/-- **The first check that is not passed decides.**  More than sixteen seeds are refused, whatever
they are; then the leftmost seed with a fault, which is of a wrong type if it is a number and else
too long; then a reserved program.  If nothing of this is the case, the curve check is asked once,
about the digest of the bytes of the seeds, the program and the marker, and the answer is what comes
of the derivation.  It is asked in no other case, and an address is one that it has answered no
for. -/
theorem createProgramAddress_first_check (check : CurveCheck) {seeds : List Value}
    (hseeds : ∀ v ∈ seeds, IsCandidate v) (program : PublicKey) (host : Host) :
    let outcome := (createProgramAddress check (.list seeds) (.publicKey program)).outcome host
    let message := seeds.flatMap worth ++ program.data ++ marker
    (outcome =
      if 16 < seeds.length then (.error (.tooManySeeds seeds.length), host)
      else match seeds.findSome? seedFault? with
        | some f => (.error f, host)
        | none =>
          if program ∈ Program.reserved then (.error (.illegalOwner program), host)
          else (verdict message (check host.digests (sha256 message)),
            { host with digests := host.digests ++ [sha256 message] })) ∧
      ∀ address, outcome.1 = .ok address → check host.digests address.data = .ok false := by
  intro outcome message
  refine ⟨?first, fun address haddress => ?off⟩
  case first =>
    have hchecked := checkedPreimage_candidates hseeds program
    by_cases hmany : 16 < seeds.length
    · rw [if_pos hmany] at hchecked ⊢
      exact outcome_createProgramAddress_of_error hchecked
    · rw [if_neg hmany] at hchecked ⊢
      cases hfault : seeds.findSome? seedFault? with
      | some f =>
        rw [hfault] at hchecked
        exact outcome_createProgramAddress_of_error hchecked
      | none =>
        rw [hfault] at hchecked
        by_cases hreserved : program ∈ Program.reserved
        · rw [if_pos hreserved]
          exact outcome_createProgramAddress_of_error (hchecked.trans (if_pos hreserved))
        · rw [if_neg hreserved]
          exact outcome_createProgramAddress_of_ok (hchecked.trans (if_neg hreserved))
  case off =>
    obtain ⟨preimage, -, hoff, rfl⟩ := result_createProgramAddress_eq_ok_iff.mp haddress
    exact hoff

/-- Of four seeds the second is too long, the third a number, and the program is reserved; the
length is told. Under a program that is not reserved, and with seeds that are not too long, the
answers of a check decide that says yes to its first question only. -/
theorem createProgramAddress_first_check_competing :
    let long : Signature := ⟨Bytes.zeros 64, Bytes.length_zeros 64⟩
    let wrong : List Value := [.buffer [1], .signature long, .int 5, .text [0xE9]]
    let right : List Value := [.buffer [1], .text [0xE9]]
    let check : CurveCheck := fun asked _ => .ok asked.isEmpty
    let message : Bytes := [1, 0xC3, 0xA9] ++ Program.token.data ++ marker
    let asked : Host := { digests := [sha256 message] }
    let derive (seeds : List Value) (program : PublicKey) :=
      (createProgramAddress check (.list seeds) (.publicKey program)).outcome
    (∀ v ∈ wrong, IsCandidate v) ∧ (∀ v ∈ right, IsCandidate v) ∧
      derive wrong Program.system {} = (.error (.seedTooLong 64), {}) ∧
      derive right Program.token {} = (.error .onCurve, asked) ∧
      derive right Program.token asked = (.ok (PublicKey.ofDigest message),
        { digests := [sha256 message, sha256 message] }) := by
  intro long wrong right check message asked derive
  have htext : IsCandidate (.text [0xE9]) := .seed (.text fun c hc => by
    rw [List.mem_singleton.mp hc]
    rfl)
  have hright : ∀ v ∈ right, IsCandidate v := by
    simp only [right, List.forall_mem_cons, List.not_mem_nil, false_imp_iff, implies_true, and_true]
    exact ⟨.seed (.buffer [1]), htext⟩
  have hwrong : ∀ v ∈ wrong, IsCandidate v := by
    simp only [wrong, List.forall_mem_cons, List.not_mem_nil, false_imp_iff, implies_true, and_true]
    exact ⟨.seed (.buffer [1]), .signature long, .int 5, htext⟩
  have hfree : Program.token ∉ Program.reserved := fun h =>
    Bool.false_ne_true (Program.isReserved_token.symm.trans (Program.isReserved_iff_mem.mpr h))
  refine ⟨hwrong, hright, ?_, ?_, ?_⟩
  · exact (createProgramAddress_first_check check hwrong Program.system {}).1
  · refine (createProgramAddress_first_check check hright Program.token {}).1.trans ?_
    rw [if_neg hfree]
    rfl
  · refine (createProgramAddress_first_check check hright Program.token asked).1.trans ?_
    rw [if_neg hfree]
    rfl

end Derivation
end LedgerKeys
