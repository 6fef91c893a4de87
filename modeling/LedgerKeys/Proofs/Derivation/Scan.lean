/-
# The scan of the bumps, call by call

A curve check may answer differently each time it is asked, and it may fail. Here is what a search
makes of every sequence of answers, together with what it leaves behind.

Seeds and a program either have a fault that is there whatever the bump is (`standingFault?`), or
each bump gives a candidate that the check is asked about. In the second case the `i`-th call is
about the digest under the bump `256 - i`, the check is told the digests of the calls before, and
its answer is passed over or ends the search (`passedOver?`). As long as answers are passed over,
the search is that of the bumps that are left, from the host with these calls on it
(`outcome_searchFrom_skip`, by induction on the calls). The next answer is then the first one of
what is left, and all that remains is one step.
-/
import LedgerKeys.Proofs.Derivation.Checks
import LedgerKeys.Proofs.Derivation.Search

namespace LedgerKeys

/-- The host after more calls of a curve check. -/
def Host.asking (host : Host) (digests : List Bytes) : Host :=
  { host with digests := host.digests ++ digests }

theorem Host.asking_asking (host : Host) (digests more : List Bytes) :
    (host.asking digests).asking more = host.asking (digests ++ more) := by
  simp [asking]

namespace Derivation

/-! ## 1. What is hashed under a bump -/

/-- What is hashed under a bump. -/
def candidate (seeds : List Value) (program : PublicKey) (bump : Nat) : Bytes :=
  seeds.flatMap worth ++ [UInt8.ofNat bump] ++ program.data ++ marker

/-- What is wrong with seeds and a program under every bump. The bump is one more seed. -/
def standingFault? (seeds : List Value) (program : PublicKey) : Option Failure :=
  if 16 ≤ seeds.length then some (.tooManySeeds (seeds.length + 1))
  else match seeds.findSome? seedFault? with
    | some f => some f
    | none => if program ∈ Program.reserved then some (.illegalOwner program) else none

/-- **The bump itself is never at fault.**  Under all bumps it is the same that is wrong. -/
theorem checkedPreimage_bump {seeds : List Value} (h : ∀ v ∈ seeds, IsSeed v)
    (program : PublicKey) (bump : Nat) :
    checkedPreimage (.list (seeds ++ [bumpSeed bump])) (.publicKey program) =
      match standingFault? seeds program with
      | some f => .error f
      | none => .ok (candidate seeds program bump) := by
  have hall : ∀ v ∈ seeds ++ [bumpSeed bump], IsCandidate v := by
    intro v hv
    rcases List.mem_append.mp hv with hv | hv
    · exact .seed (h v hv)
    · rw [List.mem_singleton.mp hv]
      exact .seed (isSeed_bumpSeed bump)
  have hbump : seedFault? (bumpSeed bump) = none := rfl
  have hworth : worth (bumpSeed bump) = [UInt8.ofNat bump] := rfl
  rw [checkedPreimage_candidates hall, standingFault?, candidate]
  simp only [List.length_append, List.length_singleton, Nat.lt_add_one_iff, List.findSome?_append,
    List.findSome?_singleton, hbump, Option.or_none, List.flatMap_append, List.flatMap_singleton,
    hworth]
  by_cases hmany : 16 ≤ seeds.length
  · rw [if_pos hmany, if_pos hmany]
  · rw [if_neg hmany, if_neg hmany]
    cases seeds.findSome? seedFault? with
    | some f => rfl
    | none =>
      dsimp only
      split_ifs
      · rfl
      · rfl

/-! ## 2. Calls and answers -/

/-- The failure that is passed over for an answer: that of a digest on the curve, and any of the
library's own. An address and a failure of another kind end the search. -/
def passedOver? : Except Failure Bool → Option Failure
  | .ok true => some .onCurve
  | .ok false => none
  | .error f => if f.isA .own then some f else none

/-- What a search goes on after is refused with a failure of the library's own. -/
theorem verdict_of_passedOver? {answer : Except Failure Bool} {f : Failure}
    (h : passedOver? answer = some f) (message : Bytes) :
    verdict message answer = .error f ∧ f.isA .own = true := by
  cases answer with
  | ok found =>
    cases found with
    | true =>
      cases h
      exact ⟨rfl, rfl⟩
    | false => cases h
  | error g =>
    rw [passedOver?] at h
    split_ifs at h with hown
    cases h
    exact ⟨rfl, hown⟩

/-- The digests of the first calls, if `digest i` is that of the `i`-th. -/
def asked (digest : Nat → Bytes) (k : Nat) : List Bytes := (List.range' 1 k).map digest

@[simp] theorem length_asked (digest : Nat → Bytes) (k : Nat) : (asked digest k).length = k := by
  simp [asked]

theorem asked_succ (digest : Nat → Bytes) (k : Nat) :
    asked digest (k + 1) = asked digest k ++ [digest (k + 1)] := by
  rw [asked, asked, List.range'_1_concat, List.map_append, List.map_singleton, Nat.add_comm 1 k]

/-- The answer to the `i`-th call, when the ones before it were made. -/
def answerTo (check : CurveCheck) (host : Host) (digest : Nat → Bytes) (i : Nat) :
    Except Failure Bool :=
  check (host.digests ++ asked digest (i - 1)) (digest i)

/-! ## 3. Attempts that ask -/

section Asks

variable {check : CurveCheck} {attempt : Nat → Effect PublicKey} {message : Nat → Bytes}

/-- Every attempt asks the check about the digest of its message, and its answer decides. -/
def Asks (check : CurveCheck) (message : Nat → Bytes) (attempt : Nat → Effect PublicKey) : Prop :=
  ∀ bump host, (attempt bump).outcome host =
    (verdict (message bump) (check host.digests (sha256 (message bump))),
      host.asking [sha256 (message bump)])

/-- An address that the first call is answered no for ends the search. -/
theorem outcome_searchFrom_of_no (h : Asks check message attempt) {n : Nat} {host : Host}
    (hno : check host.digests (sha256 (message (n + 1))) = .ok false) :
    (searchFrom attempt n).outcome host =
      (.ok (PublicKey.ofDigest (message (n + 1)), n + 1),
        host.asking [sha256 (message (n + 1))]) := by
  have hfirst := h (n + 1) host
  rw [hno] at hfirst
  cases n with
  | zero => rw [outcome_searchFrom_zero, hfirst]; rfl
  | succ n => rw [outcome_searchFrom_succ, hfirst]; rfl

/-- A failure of the first call that is none of the library's own ends the search, too. -/
theorem outcome_searchFrom_of_other (h : Asks check message attempt) {n : Nat} {host : Host}
    {f : Failure} (hf : check host.digests (sha256 (message (n + 1))) = .error f)
    (hother : f.isA .own = false) :
    (searchFrom attempt n).outcome host =
      (.error f, host.asking [sha256 (message (n + 1))]) := by
  have hfirst := h (n + 1) host
  rw [hf, verdict] at hfirst
  cases n with
  | zero => simp [outcome_searchFrom_zero, hfirst, hother]
  | succ n => simp [outcome_searchFrom_succ, hfirst, hother]

/-- If the first answer is passed over, the bumps below are searched. -/
theorem outcome_searchFrom_of_passedOver (h : Asks check message attempt) {n : Nat} {host : Host}
    {f : Failure}
    (hf : passedOver? (check host.digests (sha256 (message (n + 2)))) = some f) :
    (searchFrom attempt (n + 1)).outcome host =
      (searchFrom attempt n).outcome (host.asking [sha256 (message (n + 2))]) := by
  obtain ⟨hverdict, hown⟩ := verdict_of_passedOver? hf (message (n + 2))
  simp [outcome_searchFrom_succ, h (n + 2) host, hverdict, hown]

/-- If the answer for the last bump is passed over, its failure is the cause. -/
theorem outcome_searchFrom_of_last (h : Asks check message attempt) {host : Host} {f : Failure}
    (hf : passedOver? (check host.digests (sha256 (message 1))) = some f) :
    (searchFrom attempt 0).outcome host =
      (.error (.addressNotFound f), host.asking [sha256 (message 1)]) := by
  obtain ⟨hverdict, hown⟩ := verdict_of_passedOver? hf (message 1)
  simp [outcome_searchFrom_zero, h 1 host, hverdict, hown]

section Run

variable {n k : Nat} {host : Host} {digest : Nat → Bytes}

/-- **As long as answers are passed over, the search goes on below**, from the host with the calls
so far on it. -/
theorem outcome_searchFrom_skip (h : Asks check message attempt)
    (hdigest : ∀ i, digest i = sha256 (message (n + 2 - i))) (hk : k ≤ n)
    (hpassed : ∀ i, 1 ≤ i → i ≤ k → ∃ f, passedOver? (answerTo check host digest i) = some f) :
    (searchFrom attempt n).outcome host =
      (searchFrom attempt (n - k)).outcome (host.asking (asked digest k)) := by
  induction k with
  | zero => rw [asked, List.range'_zero, List.map_nil, Host.asking, List.append_nil]; rfl
  | succ k ih =>
    rw [ih (by omega) fun i h1 hi => hpassed i h1 (by omega)]
    obtain ⟨f, hf⟩ := hpassed (k + 1) (by omega) (Nat.le_refl _)
    -- The call `k + 1` is the first one of the search that is left.
    have hnext : digest (k + 1) = sha256 (message (n - (k + 1) + 2)) := by
      rw [hdigest, show n + 2 - (k + 1) = n - (k + 1) + 2 by omega]
    rw [answerTo, Nat.add_sub_cancel, hnext] at hf
    rw [show n - k = n - (k + 1) + 1 by omega, outcome_searchFrom_of_passedOver h hf, asked_succ,
      hnext, Host.asking_asking]

/-- What the check is asked next, after calls that were passed over. -/
theorem answerTo_succ (hdigest : ∀ i, digest i = sha256 (message (n + 2 - i))) (hk : k ≤ n) :
    answerTo check host digest (k + 1) =
      check (host.asking (asked digest k)).digests (sha256 (message (n - k + 1))) := by
  rw [answerTo, Nat.add_sub_cancel, hdigest, show n + 2 - (k + 1) = n - k + 1 by omega]
  rfl

/-- The host after one more call. -/
theorem asking_succ (hdigest : ∀ i, digest i = sha256 (message (n + 2 - i))) (hk : k ≤ n) :
    (host.asking (asked digest k)).asking [sha256 (message (n - k + 1))] =
      host.asking (asked digest (k + 1)) := by
  rw [Host.asking_asking, asked_succ, hdigest (k + 1), show n + 2 - (k + 1) = n - k + 1 by omega]

variable (h : Asks check message attempt)
  (hdigest : ∀ i, digest i = sha256 (message (n + 2 - i))) (hk : k ≤ n)
  (hpassed : ∀ i, 1 ≤ i → i ≤ k → ∃ f, passedOver? (answerTo check host digest i) = some f)
include h hdigest hk hpassed

/-- The first answer that is no ends the search with an address. -/
theorem outcome_searchFrom_answered_no (hno : answerTo check host digest (k + 1) = .ok false) :
    (searchFrom attempt n).outcome host =
      (.ok (PublicKey.ofDigest (message (n - k + 1)), n - k + 1),
        host.asking (asked digest (k + 1))) := by
  rw [answerTo_succ hdigest hk] at hno
  rw [outcome_searchFrom_skip h hdigest hk hpassed, outcome_searchFrom_of_no h hno,
    asking_succ hdigest hk]

/-- The first failure that is none of the library's own ends it, too. -/
theorem outcome_searchFrom_failed {f : Failure}
    (hf : answerTo check host digest (k + 1) = .error f) (hother : f.isA .own = false) :
    (searchFrom attempt n).outcome host = (.error f, host.asking (asked digest (k + 1))) := by
  rw [answerTo_succ hdigest hk] at hf
  rw [outcome_searchFrom_skip h hdigest hk hpassed, outcome_searchFrom_of_other h hf hother,
    asking_succ hdigest hk]

end Run

/-- If all answers are passed over, the last failure is the cause. -/
theorem outcome_searchFrom_exhausted (h : Asks check message attempt) {n : Nat} {host : Host}
    {digest : Nat → Bytes} (hdigest : ∀ i, digest i = sha256 (message (n + 2 - i)))
    (hpassed : ∀ i, 1 ≤ i → i ≤ n + 1 →
      ∃ f, passedOver? (answerTo check host digest i) = some f) :
    ∃ last, passedOver? (answerTo check host digest (n + 1)) = some last ∧
      (searchFrom attempt n).outcome host =
        (.error (.addressNotFound last), host.asking (asked digest (n + 1))) := by
  obtain ⟨last, hlast⟩ := hpassed (n + 1) (by omega) (Nat.le_refl _)
  refine ⟨last, hlast, ?_⟩
  rw [answerTo_succ hdigest (Nat.le_refl n), Nat.sub_self] at hlast
  rw [outcome_searchFrom_skip h hdigest (Nat.le_refl n) fun i h1 hi => hpassed i h1 (by omega),
    ← asking_succ hdigest (Nat.le_refl n), Nat.sub_self, outcome_searchFrom_of_last h hlast]

end Asks

/-! ## 4. The search of a program address -/

/-- Without a fault that is there under every bump, each attempt asks the check. -/
theorem asks_createProgramAddress {seeds : List Value} (hseeds : ∀ v ∈ seeds, IsSeed v)
    {program : PublicKey} (hright : standingFault? seeds program = none) (check : CurveCheck) :
    Asks check (candidate seeds program) fun bump =>
      createProgramAddress check (.list (seeds ++ [bumpSeed bump])) (.publicKey program) := by
  intro bump host
  refine outcome_createProgramAddress_of_ok ?_
  rw [checkedPreimage_bump hseeds, hright]

/-- Seeds that leave room for the bump, none of them too long, and a program that is not reserved
have no such fault. -/
theorem standingFault?_eq_none {seeds : List Value}
    (hseeds : ∀ v ∈ seeds, IsSeed v ∧ (worth v).length ≤ 32) (hcount : seeds.length ≤ 15)
    {program : PublicKey} (hprogram : program ∉ Program.reserved) :
    standingFault? seeds program = none := by
  have hfault : seeds.findSome? seedFault? = none :=
    (findSome?_seedFault?_eq_none fun v hv => (hseeds v hv).1).mpr fun v hv => (hseeds v hv).2
  rw [standingFault?, if_neg (by omega), hfault]
  exact if_neg hprogram

/-- **The scan of the bumps, whatever the curve check answers.**  Take at most fifteen seeds, none
of them longer than 32 bytes, and a program that is not reserved. The check may answer each call as
it likes, by what it was asked before, and it may fail. The `i`-th call is about the digest under
the bump `256 - i`.

Let all answers before the `k`-th be passed over: digests on the curve, and failures of the
library's own. If the `k`-th answer is no, there are just these `k` calls, the address of the digest
is found with its bump, and one event tells that it took `k` attempts. If the answer is a failure of
another kind, there are these `k` calls as well, and the failure comes out as it is, with no event.
If all 255 answers are passed over, there are no more calls, and nothing is found because of what
came of the last one. -/
theorem findProgramAddress_scan (check : CurveCheck) {seeds : List Value}
    (hseeds : ∀ v ∈ seeds, IsSeed v ∧ (worth v).length ≤ 32) (hcount : seeds.length ≤ 15)
    {program : PublicKey} (hprogram : program ∉ Program.reserved) (host : Host) :
    let message (bump : Nat) : Bytes :=
      seeds.flatMap worth ++ [UInt8.ofNat bump] ++ program.data ++ marker
    let digest (i : Nat) : Bytes := sha256 (message (256 - i))
    let answer (i : Nat) : Except Failure Bool := answerTo check host digest i
    let outcome := (findProgramAddress check (.list seeds) (.publicKey program)).outcome host
    let after (k : Nat) : Host := host.asking (asked digest k)
    (∀ k, 1 ≤ k → k ≤ 255 → (∀ i, 1 ≤ i → i < k → ∃ f, passedOver? (answer i) = some f) →
      (answer k = .ok false →
        let address := PublicKey.ofDigest (message (256 - k))
        outcome = (.ok (address, 256 - k),
          { after k with log := host.log ++ [.foundAddress address (256 - k) k] })) ∧
      ∀ f, answer k = .error f → f.isA .own = false → outcome = (.error f, after k)) ∧
    ((∀ i, 1 ≤ i → i ≤ 255 → ∃ f, passedOver? (answer i) = some f) →
      ∃ last, passedOver? (answer 255) = some last ∧
        outcome = (.error (.addressNotFound last), after 255)) := by
  intro message digest answer outcome after
  have hasks := asks_createProgramAddress (fun v hv => (hseeds v hv).1)
    (standingFault?_eq_none hseeds hcount hprogram) check
  have hlist : (Value.list seeds).elements = .ok seeds := rfl
  have houtcome : outcome = _ := outcome_findProgramAddress hlist (.publicKey program) host
  have hdigest : ∀ i, digest i = sha256 (candidate seeds program (maxBump - 1 + 2 - i)) :=
    fun _ => rfl
  refine ⟨fun k h1 hk hpassed => ?stops, fun hpassed => ?exhausted⟩
  case stops =>
    obtain ⟨k, rfl⟩ : ∃ j, k = j + 1 := ⟨k - 1, by omega⟩
    have hmax : maxBump = 255 := rfl
    have hroom : k ≤ maxBump - 1 := by omega
    have hbump : maxBump - 1 - k + 1 = 256 - (k + 1) := by omega
    have hattempts : maxBump - (256 - (k + 1)) + 1 = k + 1 := by omega
    have hbefore : ∀ i, 1 ≤ i → i ≤ k → ∃ f, passedOver? (answer i) = some f :=
      fun i hi hik => hpassed i hi (by omega)
    refine ⟨fun hno => ?_, fun f hf hother => ?_⟩
    · rw [houtcome, outcome_searchFrom_answered_no hasks hdigest hroom hbefore hno, hbump]
      simp only [hattempts]
      rfl
    · rw [houtcome, outcome_searchFrom_failed hasks hdigest hroom hbefore hf hother]
  case exhausted =>
    obtain ⟨last, hlast, hscan⟩ := outcome_searchFrom_exhausted hasks hdigest hpassed
    refine ⟨last, hlast, ?_⟩
    rw [houtcome, hscan]
    rfl

/-- A check that fails with one of the library's own failures, then says yes, and then comes to its
third answer, which it keeps to. If that is no, the third bump is found; if it is a division by
zero, that is what comes of the search; and if it is yes, all bumps are tried. -/
theorem findProgramAddress_scan_third :
    let seeds : List Value := [.bytes [1], .text [0x2609]]
    let undecided : Failure := .raised .format "undecided"
    let crash : Failure := .raised .division "division by zero"
    let check (third : Except Failure Bool) : CurveCheck := fun asked _ =>
      match asked with
      | [] => .error undecided
      | [_] => .ok true
      | _ => third
    let message (bump : Nat) : Bytes :=
      [1, 0xE2, 0x98, 0x89] ++ [UInt8.ofNat bump] ++ Program.token.data ++ marker
    let three : List Bytes := [sha256 (message 255), sha256 (message 254), sha256 (message 253)]
    let find (third : Except Failure Bool) :=
      (findProgramAddress (check third) (.list seeds) (.publicKey Program.token)).outcome {}
    (∀ v ∈ seeds, IsSeed v ∧ (worth v).length ≤ 32) ∧ seeds.length ≤ 15 ∧
      Program.token ∉ Program.reserved ∧
      find (.ok false) = (.ok (PublicKey.ofDigest (message 253), 253),
        { digests := three, log := [.foundAddress (PublicKey.ofDigest (message 253)) 253 3] }) ∧
      find (.error crash) = (.error crash, { digests := three }) ∧
      (find (.ok true)).1 = .error (.addressNotFound .onCurve) ∧
      (find (.ok true)).2.digests.length = 255 := by
  intro seeds undecided crash check message three find
  have hseeds : ∀ v ∈ seeds, IsSeed v ∧ (worth v).length ≤ 32 := by
    simp only [seeds, List.forall_mem_cons, List.not_mem_nil, false_imp_iff, implies_true, and_true]
    exact ⟨⟨.bytes [1], by decide⟩, .text fun c hc => by rw [List.mem_singleton.mp hc]; rfl,
      by decide⟩
  have hcount : seeds.length ≤ 15 := by decide
  have hfree : Program.token ∉ Program.reserved := fun h =>
    Bool.false_ne_true (Program.isReserved_token.symm.trans (Program.isReserved_iff_mem.mpr h))
  have hscan (third : Except Failure Bool) :=
    findProgramAddress_scan (check third) hseeds hcount hfree {}
  have hpassed (third : Except Failure Bool) (digest : Nat → Bytes) (i : Nat) (h1 : 1 ≤ i)
      (hi : i < 3) : ∃ f, passedOver? (answerTo (check third) {} digest i) = some f := by
    obtain rfl | rfl : i = 1 ∨ i = 2 := by omega
    · exact ⟨undecided, rfl⟩
    · exact ⟨.onCurve, rfl⟩
  have hkept (third : Except Failure Bool) (digest : Nat → Bytes) (i : Nat) :
      answerTo (check third) {} digest (i + 3) = third := rfl
  refine ⟨hseeds, hcount, hfree, ?_, ?_, ?_⟩
  · exact ((hscan (.ok false)).1 3 (by omega) (by omega) (hpassed _ _)).1 rfl
  · exact ((hscan (.error crash)).1 3 (by omega) (by omega) (hpassed _ _)).2 crash rfl rfl
  · obtain ⟨last, hlast, hfind⟩ := (hscan (.ok true)).2 fun i h1 hi => by
      rcases Nat.lt_or_ge i 3 with hlt | hge
      · exact hpassed _ _ i h1 hlt
      · obtain ⟨j, rfl⟩ := Nat.exists_eq_add_of_le' hge
        exact ⟨.onCurve, congrArg passedOver? (hkept _ _ j)⟩
    have hlast' : .onCurve = last :=
      Option.some.inj ((congrArg passedOver? (hkept (.ok true) _ 252)).symm.trans hlast)
    subst hlast'
    have houtcome : find (.ok true) = _ := hfind
    rw [houtcome]
    exact ⟨rfl, length_asked _ 255⟩

end Derivation
end LedgerKeys
