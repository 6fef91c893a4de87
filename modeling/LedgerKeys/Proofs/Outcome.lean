/-
# Outcomes of operations

An `Effect` is run by `Effect.outcome`, which gives an answer or a failure together with the host
that is left behind. Here is what each way of combining operations does to outcomes, so that no
later proof opens the monad: a sequence goes on from the host that its first part left, a refusal
keeps that host, and a handler starts from it.

`Effect.result` is the first half of an outcome, for statements that do not speak of what is left
behind.
-/
import LedgerKeys.Host

namespace LedgerKeys

/-! ## 1. Results without a host -/

/-- A sequence of two results succeeds when both parts do. -/
theorem except_bind_eq_ok {ε α β : Type} {x : Except ε α} {next : α → Except ε β} {b : β} :
    (x >>= next) = .ok b ↔ ∃ a, x = .ok a ∧ next a = .ok b := by
  cases x with
  | error e => simp [bind, Except.bind]
  | ok a => simp [bind, Except.bind]

/-- A sequence of two results fails with the failure of the first part that fails. -/
theorem except_bind_eq_error {ε α β : Type} {x : Except ε α} {next : α → Except ε β} {e : ε} :
    (x >>= next) = .error e ↔ x = .error e ∨ ∃ a, x = .ok a ∧ next a = .error e := by
  cases x with
  | error e' => simp [bind, Except.bind]
  | ok a => simp [bind, Except.bind]

theorem except_map_eq_ok {ε α β : Type} {x : Except ε α} {f : α → β} {b : β} :
    x.map f = .ok b ↔ ∃ a, x = .ok a ∧ f a = b := by
  cases x with
  | error e => simp [Except.map]
  | ok a => simp [Except.map]

theorem except_map_eq_error {ε α β : Type} {x : Except ε α} {f : α → β} {e : ε} :
    x.map f = .error e ↔ x = .error e := by
  cases x with
  | error e' => simp [Except.map]
  | ok a => simp [Except.map]

/-- The answer of a result can be compared where its failure cannot. -/
theorem except_eq_ok_of_toOption {ε α : Type} {x : Except ε α} {a : α}
    (h : x.toOption = some a) : x = .ok a := by
  cases x with
  | error e => cases h
  | ok b => exact congrArg Except.ok (Option.some.inj h)

theorem rescue_eq_ok {α : Type} {expected : Failure → Bool} {turn : Failure → Failure}
    {r : Except Failure α} {a : α} : rescue expected turn r = .ok a ↔ r = .ok a := by
  cases r with
  | error f => simp [rescue]
  | ok a => simp [rescue]

/-- A failure is one that was expected and turned, or one that was not. -/
theorem rescue_eq_error {α : Type} {expected : Failure → Bool} {turn : Failure → Failure}
    {r : Except Failure α} {f : Failure} :
    rescue expected turn r = .error f ↔
      ∃ g, r = .error g ∧ (expected g = true ∧ f = turn g ∨ expected g = false ∧ f = g) := by
  cases r with
  | ok a => simp [rescue]
  | error g =>
    simp only [rescue, Except.error.injEq, exists_eq_left']
    cases expected g with
    | true => simp [eq_comm]
    | false => simp [eq_comm]

/-- A list is gone through with a failure only if one of its elements fails with it. -/
theorem exists_mem_of_mapM_eq_error {ε α β : Type} {f : α → Except ε β} {e : ε} :
    ∀ {as : List α}, as.mapM f = .error e → ∃ a ∈ as, f a = .error e
  | [], h => by cases h
  | a :: as, h => by
    rw [List.mapM_cons, except_bind_eq_error] at h
    rcases h with h | ⟨b, -, h⟩
    · exact ⟨a, List.mem_cons_self, h⟩
    · rw [except_bind_eq_error] at h
      rcases h with h | ⟨bs, -, h⟩
      · obtain ⟨a', ha', hfa'⟩ := exists_mem_of_mapM_eq_error h
        exact ⟨a', List.mem_cons_of_mem a ha', hfa'⟩
      · cases h

/-- A list is gone through with an answer if its elements are what the answers are given for. -/
theorem mapM_eq_ok_iff_eq_map {ε α β : Type} {f : α → Except ε β} {g : β → α}
    (h : ∀ a b, f a = .ok b ↔ a = g b) {as : List α} {bs : List β} :
    as.mapM f = .ok bs ↔ as = bs.map g := by
  induction as generalizing bs with
  | nil => cases bs <;> simp [pure, Except.pure]
  | cons a as ih =>
    rw [List.mapM_cons, except_bind_eq_ok]
    constructor
    · rintro ⟨b, hb, hrest⟩
      obtain ⟨bs', hbs', hrest⟩ := except_bind_eq_ok.mp hrest
      cases hrest
      rw [List.map_cons, ← (h a b).mp hb, ← ih.mp hbs']
    · intro heq
      cases bs with
      | nil => cases heq
      | cons b bs =>
        obtain ⟨ha, has⟩ := List.cons.inj heq
        exact ⟨b, (h a b).mpr ha, except_bind_eq_ok.mpr ⟨bs, ih.mpr has, rfl⟩⟩

/-- There are as many answers as elements. -/
theorem length_of_mapM_eq_ok {ε α β : Type} {f : α → Except ε β} {as : List α} {bs : List β}
    (h : as.mapM f = .ok bs) : bs.length = as.length := by
  induction as generalizing bs with
  | nil =>
    cases h
    rfl
  | cons a as ih =>
    rw [List.mapM_cons, except_bind_eq_ok] at h
    obtain ⟨b, -, h⟩ := h
    obtain ⟨bs', hbs', h⟩ := except_bind_eq_ok.mp h
    cases h
    rw [List.length_cons, List.length_cons, ih hbs']

namespace Effect

variable {α β : Type} (host : Host)

/-! ## 2. Outcomes -/

/-- The answer or the failure of an operation. -/
def result (action : Effect α) (host : Host) : Except Failure α := (action.outcome host).1

variable {host} in
theorem result_of_outcome {action : Effect α} {r : Except Failure α} {after : Host}
    (h : action.outcome host = (r, after)) : action.result host = r := by
  rw [result, h]

@[simp] theorem outcome_pure (a : α) : (pure a : Effect α).outcome host = (.ok a, host) := rfl

@[simp] theorem outcome_throw (f : Failure) :
    (throw f : Effect α).outcome host = (.error f, host) := rfl

@[simp] theorem outcome_ofExcept (r : Except Failure α) :
    (ofExcept r).outcome host = (r, host) := by
  cases r with
  | error f => rfl
  | ok a => rfl

theorem ofExcept_ok_bind (a : α) (next : α → Effect β) : (ofExcept (.ok a) >>= next) = next a := rfl

@[simp] theorem outcome_report (event : Event) :
    (report event).outcome host = (.ok (), { host with log := host.log ++ [event] }) := rfl

/-- What follows a refusal is not run; what follows an answer goes on from the host left. -/
theorem outcome_bind (x : Effect α) (next : α → Effect β) :
    (x >>= next).outcome host =
      match x.outcome host with
      | (.ok a, after) => (next a).outcome after
      | (.error f, after) => (.error f, after) := by
  simp only [outcome, bind, ExceptT.run, StateT.run, ExceptT.bind, ExceptT.mk, StateT.bind]
  rcases x host with ⟨r, after⟩
  cases r with
  | error f => rfl
  | ok a => rfl

/-- An answer comes from an answer to the first part. -/
theorem result_bind_eq_ok {x : Effect α} {next : α → Effect β} {b : β} :
    (x >>= next).result host = .ok b ↔
      ∃ a, x.result host = .ok a ∧ (next a).result (x.outcome host).2 = .ok b := by
  rw [result, result, outcome_bind]
  rcases x.outcome host with ⟨r, after⟩
  cases r with
  | error f => simp
  | ok a => simp [result]

@[simp] theorem result_ofExcept (r : Except Failure α) : (ofExcept r).result host = r := by
  rw [result, outcome_ofExcept]

/-- Reporting a result does not change it. -/
theorem result_report_eq_ok {r : Except Failure α} {event : α → Event} {a : α} :
    (do let b ← ofExcept r; report (event b); pure b : Effect α).result host = .ok a ↔
      r = .ok a := by
  rw [result, outcome_bind, outcome_ofExcept]
  cases r with
  | error f => rfl
  | ok b => rfl

/-- A handler is run on the host that the refused operation left. -/
theorem outcome_tryCatch (x : Effect α) (handler : Failure → Effect α) :
    (tryCatch x handler).outcome host =
      match x.outcome host with
      | (.ok a, after) => (.ok a, after)
      | (.error f, after) => (handler f).outcome after := by
  simp only [outcome, tryCatch, tryCatchThe, MonadExceptOf.tryCatch, ExceptT.tryCatch, ExceptT.run,
    ExceptT.mk, StateT.run, bind, StateT.bind]
  rcases x host with ⟨r, after⟩
  cases r with
  | error f => rfl
  | ok a => rfl

/-- A sequence fails in its first part, or in what goes on from it. -/
theorem outcome_bind_eq_error {x : Effect α} {next : α → Effect β} {f : Failure} {after : Host} :
    (x >>= next).outcome host = (.error f, after) ↔
      x.outcome host = (.error f, after) ∨
        ∃ a mid, x.outcome host = (.ok a, mid) ∧ (next a).outcome mid = (.error f, after) := by
  rw [outcome_bind]
  rcases x.outcome host with ⟨r, mid⟩
  cases r with
  | error g => simp
  | ok a => simp [and_assoc]

/-- An operation with a handler fails in the handler, behind a failure of its own. -/
theorem outcome_tryCatch_eq_error {x : Effect α} {handler : Failure → Effect α} {f : Failure}
    {after : Host} :
    (tryCatch x handler).outcome host = (.error f, after) ↔
      ∃ g mid, x.outcome host = (.error g, mid) ∧
        (handler g).outcome mid = (.error f, after) := by
  rw [outcome_tryCatch]
  rcases x.outcome host with ⟨r, mid⟩
  cases r with
  | error g => simp [and_assoc]
  | ok a => simp

/-- A function of the answer changes neither failures nor hosts. -/
theorem outcome_map (x : Effect α) (g : α → β) :
    (g <$> x).outcome host = ((x.outcome host).1.map g, (x.outcome host).2) := by
  simp only [outcome, Functor.map, ExceptT.run, ExceptT.map, ExceptT.mk, StateT.run, bind,
    StateT.bind]
  rcases x host with ⟨r, after⟩
  cases r with
  | error f => rfl
  | ok a => rfl

/-- A curve check is told the digests asked before, and its question is remembered. -/
theorem outcome_askCurve (check : CurveCheck) (digest : Bytes) :
    (askCurve check digest).outcome host =
      (check host.digests digest, { host with digests := host.digests ++ [digest] }) := by
  exact outcome_ofExcept { host with digests := host.digests ++ [digest] }
    (check host.digests digest)

/-- An entropy source is told how many bytes are wanted, and the request is remembered. -/
theorem outcome_askEntropy (source : EntropySource) (count : Nat) :
    (askEntropy source count).outcome host =
      (source count, { host with requests := host.requests ++ [count] }) :=
  outcome_ofExcept { host with requests := host.requests ++ [count] } (source count)

/-- Turning failures into others leaves what is left behind. -/
theorem outcome_rescue (expected : Failure → Bool) (turn : Failure → Failure) (x : Effect α) :
    (rescue expected turn x).outcome host =
      (LedgerKeys.rescue expected turn (x.outcome host).1, (x.outcome host).2) := by
  rw [rescue, outcome_tryCatch]
  rcases x.outcome host with ⟨r, after⟩
  cases r with
  | error f => rfl
  | ok a => rfl

/-- What reads the host goes on with it. -/
theorem outcome_get_bind (next : Host → Effect α) :
    (get >>= next).outcome host = (next host).outcome host := rfl

/-- A change of the files that is refused leaves them as they are. -/
theorem outcome_changeFiles (path : Text) (change : FileTree → Except FileFault FileTree) :
    (changeFiles path change).outcome host =
      match change host.files with
      | .ok files => (.ok (), { host with files := files })
      | .error fault => (.error (.file fault path), host) := by
  rw [changeFiles, outcome_get_bind]
  cases change host.files with
  | ok files => rfl
  | error fault => rfl

/-! ## 3. What is left behind -/

section Left

variable {R : Host → Host → Prop} (htrans : ∀ {a b c : Host}, R a b → R b c → R a c)
  {x : Effect α} (hx : ∀ host, R host (x.outcome host).2)
include htrans hx

/-- If both parts of a sequence leave a host that is so related to the one they begin on, the
sequence does, whether the second part is run or not. -/
theorem left_bind {next : α → Effect β} (hnext : ∀ a host, R host ((next a).outcome host).2) :
    R host ((x >>= next).outcome host).2 := by
  have hfirst := hx host
  rw [outcome_bind]
  cases hout : x.outcome host with
  | mk r after =>
    rw [hout] at hfirst
    cases r with
    | error f => exact hfirst
    | ok a => exact htrans hfirst (hnext a after)

/-- The same of an operation with a handler. -/
theorem left_tryCatch {handler : Failure → Effect α}
    (hhandler : ∀ f host, R host ((handler f).outcome host).2) :
    R host ((tryCatch x handler).outcome host).2 := by
  have hfirst := hx host
  rw [outcome_tryCatch]
  cases hout : x.outcome host with
  | mk r after =>
    rw [hout] at hfirst
    cases r with
    | error f => exact htrans hfirst (hhandler f after)
    | ok a => exact hfirst

end Left

end Effect
end LedgerKeys
