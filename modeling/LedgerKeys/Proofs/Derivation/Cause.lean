/-
# Why nothing is found

A search of a program address whose curve check is a predicate fails in one way only: nothing is
found, because of what came of the attempt with the last bump. That attempt is refused either for a
fault that is there under every bump (`standingFault?`), and then all attempts before it were
refused for the same and the curve check was never asked (`outcome_searchFrom_of_standing`, by
induction on the bumps that are left), or because its digest is on the curve like all others.

So the cause can be read off the seeds and the program (`reason?`). The bump is one more seed:
sixteen seeds are too many for a search, and just enough for a derivation.
-/
import LedgerKeys.Proofs.Derivation.Scan

namespace LedgerKeys
namespace Derivation

/-! ## 1. What can be wrong -/

/-- Why nothing is found: the fault that is there under every bump or, without one, the curve, if
all digests are on it. -/
def reason? (onCurve : Bytes → Bool) (seeds : List Value) (program : PublicKey) : Option Failure :=
  match standingFault? seeds program with
  | some f => some f
  | none =>
    if ∀ bump ∈ List.range' 1 255, onCurve (sha256 (candidate seeds program bump)) = true then
      some .onCurve
    else none

section Reason

variable {onCurve : Bytes → Bool} {seeds : List Value} {program : PublicKey}

/-- The curve is the reason only where nothing else is. -/
theorem reason?_eq_some_iff {last : Failure} :
    reason? onCurve seeds program = some last ↔
      standingFault? seeds program = some last ∨ standingFault? seeds program = none ∧
        (∀ bump ∈ List.range' 1 255, onCurve (sha256 (candidate seeds program bump)) = true) ∧
        last = .onCurve := by
  rw [reason?]
  cases standingFault? seeds program with
  | some f => simp
  | none =>
    dsimp only
    by_cases hall : ∀ bump ∈ List.range' 1 255,
        onCurve (sha256 (candidate seeds program bump)) = true
    · rw [if_pos hall]
      refine ⟨fun h => .inr ⟨rfl, hall, (Option.some.inj h).symm⟩, ?_⟩
      rintro (h | ⟨-, -, rfl⟩)
      · cases h
      · rfl
    · rw [if_neg hall]
      refine iff_of_false (Option.some_ne_none last).symm ?_
      rintro (h | ⟨-, hall', -⟩)
      · cases h
      · exact hall hall'

/-- A fault that is there under every bump is one of the library's own, and not about the curve. -/
theorem kind_of_standingFault? (h : ∀ v ∈ seeds, IsSeed v) {f : Failure}
    (hf : standingFault? seeds program = some f) :
    f.kind ∈ [FailureKind.tooManySeeds, .seedTooLong, .illegalOwner] := by
  rw [standingFault?] at hf
  split at hf
  · cases hf
    exact List.mem_cons_self
  · cases hfault : seeds.findSome? seedFault? with
    | some g =>
      rw [hfault] at hf
      cases hf
      rw [kind_of_findSome?_seedFault? h hfault]
      decide
    | none =>
      rw [hfault] at hf
      dsimp only at hf
      split at hf
      · cases hf
        change FailureKind.illegalOwner ∈ [FailureKind.tooManySeeds, .seedTooLong, .illegalOwner]
        decide
      · cases hf

/-- **The kind of the reason**, which the seeds and the program tell. -/
theorem kind_reason? (h : ∀ v ∈ seeds, IsSeed v) :
    (reason? onCurve seeds program).map Failure.kind =
      if 16 ≤ seeds.length then some .tooManySeeds
      else if ∃ v ∈ seeds, 32 < (worth v).length then some .seedTooLong
      else if program ∈ Program.reserved then some .illegalOwner
      else if ∀ bump ∈ List.range' 1 255, onCurve (sha256 (candidate seeds program bump)) = true
        then some .invalidSeeds
      else none := by
  have hlong : (∃ v ∈ seeds, 32 < (worth v).length) ↔ seeds.findSome? seedFault? ≠ none := by
    simp only [ne_eq, findSome?_seedFault?_eq_none h, not_forall, Nat.not_le, exists_prop]
  rw [reason?, standingFault?]
  by_cases hmany : 16 ≤ seeds.length
  · simp only [if_pos hmany]
    rfl
  simp only [if_neg hmany]
  cases hfault : seeds.findSome? seedFault? with
  | some f =>
    rw [if_pos (hlong.mpr (by rw [hfault]; exact Option.some_ne_none f))]
    exact congrArg some (kind_of_findSome?_seedFault? h hfault)
  | none =>
    rw [if_neg fun hex => hlong.mp hex hfault]
    by_cases hreserved : program ∈ Program.reserved
    · simp only [if_pos hreserved]
      rfl
    · simp only [if_neg hreserved, apply_ite (Option.map Failure.kind)]
      rfl

end Reason

/-! ## 2. Attempts that are refused without the curve check -/

/-- **If every attempt is refused for the same**, without anything being done, that is the cause. -/
theorem outcome_searchFrom_of_standing {attempt : Nat → Effect PublicKey} {f : Failure}
    (h : ∀ bump host, (attempt bump).outcome host = (.error f, host)) (hown : f.isA .own = true)
    (n : Nat) (host : Host) :
    (searchFrom attempt n).outcome host = (.error (.addressNotFound f), host) := by
  induction n with
  | zero => simp only [outcome_searchFrom_zero, h, hown, if_true]
  | succ n ih => simp only [outcome_searchFrom_succ, h, hown, if_true, ih]

/-- A fault that is there under every bump is the cause of the whole search. -/
theorem outcome_findProgramAddress_of_standing (check : CurveCheck) {seeds : List Value}
    (hseeds : ∀ v ∈ seeds, IsSeed v) {program : PublicKey} {f : Failure}
    (hf : standingFault? seeds program = some f) (host : Host) :
    (findProgramAddress check (.list seeds) (.publicKey program)).outcome host =
      (.error (.addressNotFound f), host) := by
  have hattempt : ∀ bump host, (createProgramAddress check (.list (seeds ++ [bumpSeed bump]))
      (.publicKey program)).outcome host = (.error f, host) := by
    intro bump host
    refine outcome_createProgramAddress_of_error ?_
    rw [checkedPreimage_bump hseeds, hf]
  have hown : ∀ kind ∈ [FailureKind.tooManySeeds, .seedTooLong, .illegalOwner],
      kind.isA .own = true := by decide
  have hlist : (Value.list seeds).elements = .ok seeds := rfl
  rw [outcome_findProgramAddress hlist,
    outcome_searchFrom_of_standing hattempt (hown _ (kind_of_standingFault? hseeds hf))]

/-! ## 3. Attempts that ask a predicate -/

section Predicate

variable (onCurve : Bytes → Bool) {seeds : List Value} (hseeds : ∀ v ∈ seeds, IsSeed v)
  (program : PublicKey)
include hseeds

/-- What comes of the attempt with a bump. -/
theorem result_createProgramAddress_bump (bump : Nat) (host : Host) :
    (createProgramAddress (.ofPredicate onCurve) (.list (seeds ++ [bumpSeed bump]))
        (.publicKey program)).result host =
      match standingFault? seeds program with
      | some f => .error f
      | none => verdict (candidate seeds program bump)
          (.ok (onCurve (sha256 (candidate seeds program bump)))) := by
  have hpre := checkedPreimage_bump hseeds program bump
  cases hfault : standingFault? seeds program with
  | some f =>
    rw [hfault] at hpre
    exact congrArg Prod.fst (outcome_createProgramAddress_of_error hpre)
  | none =>
    rw [hfault] at hpre
    exact congrArg Prod.fst (outcome_createProgramAddress_of_ok hpre)

/-- **An attempt is refused** for the fault that is there under every bump, or for the curve. -/
theorem result_createProgramAddress_bump_eq_error_iff {bump : Nat} {host : Host} {f : Failure} :
    (createProgramAddress (.ofPredicate onCurve) (.list (seeds ++ [bumpSeed bump]))
        (.publicKey program)).result host = .error f ↔
      standingFault? seeds program = some f ∨ standingFault? seeds program = none ∧
        onCurve (sha256 (candidate seeds program bump)) = true ∧ f = .onCurve := by
  rw [result_createProgramAddress_bump onCurve hseeds]
  cases standingFault? seeds program with
  | some g => simp
  | none => cases onCurve (sha256 (candidate seeds program bump)) <;> simp [verdict, eq_comm]

/-- What is the reason, the last attempt is refused for. -/
theorem result_last_of_reason? {last : Failure} (h : reason? onCurve seeds program = some last)
    (host : Host) :
    (createProgramAddress (.ofPredicate onCurve) (.list (seeds ++ [bumpSeed 1]))
      (.publicKey program)).result host = .error last := by
  refine (result_createProgramAddress_bump_eq_error_iff onCurve hseeds program).mpr ?_
  rcases reason?_eq_some_iff.mp h with hfault | ⟨hfault, hall, hlast⟩
  · exact .inl hfault
  · exact .inr ⟨hfault, hall 1 (List.mem_range'_1.mpr (by decide)), hlast⟩

/-- **Nothing is found exactly if there is a reason**, which then is the cause. -/
theorem result_findProgramAddress_eq_error_iff (host : Host) {f : Failure} :
    (findProgramAddress (.ofPredicate onCurve) (.list seeds) (.publicKey program)).result host =
        .error f ↔
      ∃ last, reason? onCurve seeds program = some last ∧ f = .addressNotFound last := by
  have hlist : (Value.list seeds).elements = .ok seeds := rfl
  rw [result_findProgramAddress hlist,
    result_searchFrom_eq_error_iff (steady_createProgramAddress onCurve hseeds program host)]
  simp only [result_createProgramAddress_bump_eq_error_iff onCurve hseeds program,
    reason?_eq_some_iff]
  constructor
  · rintro ⟨hall, last, hlast, rfl⟩
    refine ⟨last, ?_, rfl⟩
    rcases hlast with hfault | ⟨hfault, -, rfl⟩
    · exact .inl hfault
    · refine .inr ⟨hfault, fun bump hbump => ?_, rfl⟩
      obtain ⟨h1, hlt⟩ := List.mem_range'_1.mp hbump
      obtain ⟨g, hg | ⟨-, hon, -⟩⟩ := hall bump h1 (Nat.le_of_lt_succ hlt)
      · rw [hfault] at hg
        cases hg
      · exact hon
  · rintro ⟨last, hreason, rfl⟩
    rcases hreason with hfault | ⟨hfault, hall, rfl⟩
    · exact ⟨fun _ _ _ => ⟨last, .inl hfault⟩, last, .inl hfault, rfl⟩
    · have hon : ∀ bump, 1 ≤ bump → bump ≤ 255 →
          onCurve (sha256 (candidate seeds program bump)) = true := fun bump h1 hle =>
        hall bump (List.mem_range'_1.mpr ⟨h1, Nat.lt_succ_of_le hle⟩)
      exact ⟨fun bump h1 hle => ⟨.onCurve, .inr ⟨hfault, hon bump h1 hle, rfl⟩⟩, .onCurve,
        .inr ⟨hfault, hon 1 (by decide) (by decide), rfl⟩, rfl⟩

/-- If the curve is not the reason, the check was not asked. -/
theorem outcome_findProgramAddress_of_reason? {last : Failure}
    (h : reason? onCurve seeds program = some last) (hkind : last.kind ≠ .invalidSeeds)
    (host : Host) :
    ((findProgramAddress (.ofPredicate onCurve) (.list seeds) (.publicKey program)).outcome
      host).2 = host := by
  rcases reason?_eq_some_iff.mp h with hfault | ⟨-, -, rfl⟩
  · rw [outcome_findProgramAddress_of_standing _ hseeds hfault]
  · exact absurd rfl hkind

end Predicate

/-! ## 4. The cause -/

/-- **Why nothing is found.**  A search with a predicate for a curve check is refused as
`addressNotFound` and in no other way, and the cause, with whose wording the refusal ends, is the
failure of the derivation with the last bump. Its kind is told by the seeds and the program: sixteen
seeds or more are too many, as the bump is one more; else a seed of more than 32 bytes is too long;
else a reserved program is refused; and else the digests under all bumps from 255 down to one are on
the curve. If none of this is the case, an address is found. The curve check is asked in the last
case only. -/
theorem findProgramAddress_cause (onCurve : Bytes → Bool) {seeds : List Value}
    (hseeds : ∀ v ∈ seeds, IsSeed v) (program : PublicKey) (host host' : Host) :
    let outcome := (findProgramAddress (.ofPredicate onCurve) (.list seeds)
      (.publicKey program)).outcome host
    let lastAttempt := (createProgramAddress (.ofPredicate onCurve)
      (.list (seeds ++ [.bytes [1]])) (.publicKey program)).result host'
    let message (bump : Nat) : Bytes :=
      seeds.flatMap worth ++ [UInt8.ofNat bump] ++ program.data ++ marker
    let reason : Option FailureKind :=
      if 16 ≤ seeds.length then some .tooManySeeds
      else if ∃ v ∈ seeds, 32 < (worth v).length then some .seedTooLong
      else if program ∈ Program.reserved then some .illegalOwner
      else if ∀ bump ∈ List.range' 1 255, onCurve (sha256 (message bump)) = true then
        some .invalidSeeds
      else none
    (∀ f, outcome.1 = .error f → f.kind = .addressNotFound ∧
      ∃ last, f.cause? = some last ∧ lastAttempt = .error last ∧
        f.message = Text.ofString "unable to find a valid program address: " ++ last.message) ∧
      (∀ kind, (∃ f last, outcome.1 = .error f ∧ f.cause? = some last ∧ last.kind = kind) ↔
        reason = some kind) ∧
      ∀ kind, reason = some kind → kind ≠ .invalidSeeds → outcome.2 = host := by
  intro outcome lastAttempt message reason
  have hkind : (reason? onCurve seeds program).map Failure.kind = reason := kind_reason? hseeds
  have herror : ∀ f, outcome.1 = .error f ↔ _ := fun f =>
    result_findProgramAddress_eq_error_iff onCurve hseeds program host
  rw [← hkind]
  refine ⟨fun f hf => ?cause, fun kind => ⟨?told, ?failed⟩, fun kind h hother => ?unasked⟩
  case cause =>
    obtain ⟨last, hreason, rfl⟩ := (herror f).mp hf
    exact ⟨rfl, last, rfl, result_last_of_reason? onCurve hseeds program hreason host', rfl⟩
  case told =>
    rintro ⟨f, last, hf, hlast, rfl⟩
    obtain ⟨last', hreason, rfl⟩ := (herror f).mp hf
    cases hlast
    rw [hreason, Option.map_some]
  case failed =>
    intro h
    obtain ⟨last, hreason, rfl⟩ := Option.map_eq_some_iff.mp h
    exact ⟨_, last, (herror _).mpr ⟨last, hreason, rfl⟩, rfl, rfl⟩
  case unasked =>
    obtain ⟨last, hreason, rfl⟩ := Option.map_eq_some_iff.mp h
    exact outcome_findProgramAddress_of_reason? onCurve hseeds program hreason hother host

/-- Sixteen seeds are too many also if they are too long and the program is reserved. One seed less,
and their length is told; with shorter seeds, it is the reserved program; and under another program,
with a check that says yes to everything, it is the curve. -/
theorem findProgramAddress_cause_competing :
    let seeds (count length : Nat) : List Value :=
      List.replicate count (.bytes (Bytes.zeros length))
    let cause? (seeds : List Value) (program : PublicKey) : Option FailureKind :=
      match (findProgramAddress (.ofPredicate fun _ => true) (.list seeds)
        (.publicKey program)).result {} with
      | .error f => f.cause?.map Failure.kind
      | .ok _ => none
    (∀ count length, ∀ v ∈ seeds count length, IsSeed v) ∧
      cause? (seeds 16 33) Program.system = some .tooManySeeds ∧
      cause? (seeds 15 33) Program.system = some .seedTooLong ∧
      cause? (seeds 15 32) Program.system = some .illegalOwner ∧
      cause? (seeds 15 32) Program.token = some .invalidSeeds := by
  intro seeds cause?
  have hseeds : ∀ count length, ∀ v ∈ seeds count length, IsSeed v := fun _ _ v hv => by
    rw [List.eq_of_mem_replicate hv]
    exact .bytes _
  have hfails : ∀ (seeds : List Value) (program : PublicKey) (kind : FailureKind),
      cause? seeds program = some kind ↔ ∃ f last, ((findProgramAddress (.ofPredicate fun _ => true)
        (.list seeds) (.publicKey program)).outcome {}).1 = .error f ∧ f.cause? = some last ∧
          last.kind = kind := by
    intro seeds program kind
    simp only [cause?, Effect.result]
    cases ((findProgramAddress (.ofPredicate fun _ => true) (.list seeds)
      (.publicKey program)).outcome {}).1 with
    | error f => simp
    | ok found => simp
  have hcause (count length : Nat) (program : PublicKey) (kind : FailureKind) :=
    (hfails (seeds count length) program kind).trans ((findProgramAddress_cause (fun _ => true)
      (hseeds count length) program {} {}).2.1 kind)
  have hlong : ∃ v ∈ seeds 15 33, 32 < (worth v).length :=
    ⟨_, List.mem_replicate.mpr ⟨by decide, rfl⟩, by decide⟩
  have hshort : ¬∃ v ∈ seeds 15 32, 32 < (worth v).length := by
    rintro ⟨v, hv, hlt⟩
    rw [List.eq_of_mem_replicate hv] at hlt
    exact absurd hlt (by decide)
  have hreserved : Program.system ∈ Program.reserved :=
    Program.isReserved_iff_mem.mp (by decide +kernel)
  have hfree : Program.token ∉ Program.reserved := fun h =>
    Bool.false_ne_true (Program.isReserved_token.symm.trans (Program.isReserved_iff_mem.mpr h))
  refine ⟨hseeds, (hcause 16 33 Program.system .tooManySeeds).mpr ?_,
    (hcause 15 33 Program.system .seedTooLong).mpr ?_,
    (hcause 15 32 Program.system .illegalOwner).mpr ?_,
    (hcause 15 32 Program.token .invalidSeeds).mpr ?_⟩
  · rfl
  · rw [if_neg (by decide), if_pos hlong]
  · rw [if_neg (by decide), if_neg hshort, if_pos hreserved]
  · rw [if_neg (by decide), if_neg hshort, if_neg hfree, if_pos fun _ _ => rfl]

end Derivation
end LedgerKeys
