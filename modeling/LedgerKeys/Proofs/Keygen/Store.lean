/-
# Key files as a store of keys

Reading a key looks at the file that its path leads to and changes nothing; writing one leaves the
file with that key and no other file changed (`writeOn_cases`). So what was written is what is read,
by whichever path the file is reached, from the working directory or from the root.

Over a run of writes and reads that is kept in a memory of what was written last under which names
(`Memory`, `Step.remember`): each step keeps the files as the memory says (`Remembers.step`), and so
does every run (`Remembers.run`). Writes that fail are part of a run. They change no file, as a file
is emptied only if it can be filled, but for the file that was being filled when its device failed.
That one is forgotten.
-/
import LedgerKeys.Proofs.Keygen.Writing

namespace LedgerKeys
namespace Keygen

open FileTree (resolve Extends)

/-! ## 1. Reading -/

variable {host : Host} {path : Value} {names : List FileName} {k : PrivateKey}

/-- An operation that leaves the files as they are, whatever comes of it. -/
def KeepsFiles {α : Type} (action : Effect α) : Prop :=
  ∀ host, (action.outcome host).2.files = host.files

theorem KeepsFiles.bind {α β : Type} {x : Effect α} {next : α → Effect β} (hx : KeepsFiles x)
    (hnext : ∀ a, KeepsFiles (next a)) : KeepsFiles (x >>= next) :=
  fun host => Effect.left_bind (R := fun a b => b.files = a.files) host
    (fun hab hbc => hbc.trans hab) hx hnext

theorem keepsFiles_ofExcept {α : Type} (r : Except Failure α) : KeepsFiles (Effect.ofExcept r) := by
  intro host
  rw [Effect.outcome_ofExcept]

theorem keepsFiles_wantNameable (p : FilePath) : KeepsFiles (wantNameable p) := by
  intro host
  rw [outcome_wantNameable]

theorem keepsFiles_isPresent (p : FilePath) : KeepsFiles (isPresent p) := by
  intro host
  rw [isPresent, Effect.outcome_get_bind]
  split_ifs
  · rfl
  · cases host.files.look p with
    | ok node => rfl
    | error fault => cases fault <;> rfl

theorem keepsFiles_readBytes (p : FilePath) : KeepsFiles (readBytes p) := by
  refine (keepsFiles_wantNameable p).bind fun _ host => ?_
  rw [Effect.outcome_get_bind]
  cases host.files.read p with
  | ok content => rfl
  | error fault => rfl

/-- **Reading leaves the files as they are.** -/
theorem keepsFiles_read (path : Value) : KeepsFiles (read path) := by
  rw [read]
  refine (keepsFiles_ofExcept _).bind fun p => (keepsFiles_isPresent p).bind fun present => ?_
  cases present with
  | false => exact fun _ => rfl
  | true =>
    refine (keepsFiles_readBytes p).bind fun content => ?_
    refine (keepsFiles_ofExcept _).bind fun k => ?_
    exact KeepsFiles.bind (fun _ => rfl) fun _ _ => rfl

/-- **A key that a path leads to is read.** -/
theorem read_of_view (hhome : host.files.HasHome) (hpath : LeadsTo host path names)
    (hkey : host.files.view names = some (.file (fileText k))) :
    (read path).result host = .ok k := by
  obtain ⟨p, hp, hnameable, hresolve⟩ := hpath
  obtain ⟨node, hlook, -⟩ := FileTree.look_of_view hhome hresolve hkey
  have hread := FileTree.read_of_view hhome hresolve hkey
  have hpresent : (isPresent p).outcome host = (.ok true, host) := by
    rw [isPresent, Effect.outcome_get_bind, hnameable, hlook]
    rfl
  have hcontent : (readBytes p).outcome host = (.ok (fileText k), host) := by
    rw [readBytes, Effect.outcome_bind, outcome_wantNameable, hnameable]
    dsimp only
    rw [Effect.outcome_get_bind, hread]
    rfl
  rw [read, Effect.result, Effect.outcome_bind, Effect.outcome_ofExcept, hp]
  dsimp only
  rw [Effect.outcome_bind, hpresent]
  change ((do
    let content ← readBytes p
    let k ← Effect.ofExcept (PrivateKey.ofKeygen (.bytes content))
    Effect.report (.readKey p.toText k.publicKey)
    pure k : Effect PrivateKey).outcome host).1 = .ok k
  rw [Effect.outcome_bind, hcontent]
  dsimp only
  rw [Effect.outcome_bind, Effect.outcome_ofExcept, fileText, k.ofKeygen_encodeAll_encode]
  rfl

/-! ## 2. Runs -/

/-- A write of a private key to a path, on whatever device, or a read of a path. -/
inductive Step where
  | write (device : Device) (path : Value) (k : PrivateKey)
  | read (path : Value)

/-- The keys that were written last, by the names that lead to their files. -/
abbrev Memory := List FileName → Option PrivateKey

/-- Nothing is remembered. -/
def Memory.empty : Memory := fun _ => none

/-- The names that a path leads to, if the system can be asked about it. -/
def target? (host : Host) (path : Value) : Option (List FileName) :=
  match pathOf path with
  | .ok p => if (pathFailure? p.toText).isNone then (resolve host.files.view p).toOption else none
  | .error _ => none

theorem target?_of_leadsTo (h : LeadsTo host path names) : target? host path = some names := by
  obtain ⟨p, hp, hnameable, hresolve⟩ := h
  simp only [target?, hp, hnameable, hresolve, Option.isNone_none, if_true, Except.toOption]

namespace Step

/-- The host that a step leaves, also if it fails. -/
def after (host : Host) : Step → Host
  | write device path k => ((Keygen.writeOn device path (.privateKey k)).outcome host).2
  | read path => ((Keygen.read path).outcome host).2

/-- Whether the device fails over the text of a key. -/
def deviceFails (device : Device) (path : Value) (k : PrivateKey) : Bool :=
  match pathOf path with
  | .ok p => (device p (fileText k)).isSome
  | .error _ => false

/-- What is remembered after a step: the key that was written, if the write succeeded; of the file
whose device failed, nothing. -/
def remember (host : Host) (memory : Memory) : Step → Memory
  | write device path k =>
    let (r, after) := (Keygen.writeOn device path (.privateKey k)).outcome host
    match target? after path with
    | none => memory
    | some names =>
      match r with
      | .ok _ => Function.update memory names (some k)
      | .error _ =>
        if deviceFails device path k then Function.update memory names none else memory
  | read _ => memory

/-- The host and the memory after steps one after the other. -/
def run (steps : List Step) (start : Host × Memory) : Host × Memory :=
  steps.foldl (fun s step => (step.after s.1, step.remember s.1 s.2)) start

end Step

/-- The files are as the memory says, and the working directory is there. -/
structure Remembers (host : Host) (memory : Memory) : Prop where
  hasHome : host.files.HasHome
  isKey : ∀ names k, memory names = some k → host.files.view names = some (.file (fileText k))

namespace Remembers

variable {memory : Memory} {after : Host}

theorem empty (h : host.files.HasHome) : Remembers host .empty :=
  ⟨h, fun _ _ hnone => (by cases hnone)⟩

/-- To forget a file is always right. -/
theorem forget (h : Remembers host memory) (names : List FileName) :
    Remembers host (Function.update memory names none) := by
  refine ⟨h.hasHome, fun other k hmemory => ?_⟩
  by_cases hother : other = names
  · rw [hother, Function.update_self] at hmemory
    cases hmemory
  · rw [Function.update_of_ne hother] at hmemory
    exact h.isKey other k hmemory

/-- New directories are not in the place of any key. -/
theorem of_grown {p : FilePath} (h : Remembers host memory)
    (hgrown : Grown p host.files.view after.files.view) : Remembers after memory := by
  refine ⟨h.hasHome.of_extends hgrown.toExtends, fun names k hmemory => ?_⟩
  rcases hgrown.entry names with hsame | ⟨hnone, -⟩
  · exact hsame.trans (h.isKey names k hmemory)
  · rw [h.isKey names k hmemory] at hnone
    cases hnone

/-- A file that was stored is to be remembered as what it holds, or not at all. -/
theorem of_stored {p : FilePath} {content : Bytes} {key? : Option PrivateKey}
    (h : Remembers host memory)
    (hstored : Stored content p names host.files.view after.files.view)
    (hkey : ∀ k, key? = some k → content = fileText k) :
    Remembers after (Function.update memory names key?) := by
  refine ⟨h.hasHome.of_extends hstored.toExtends, fun other k hmemory => ?_⟩
  by_cases hother : other = names
  · rw [hother, Function.update_self] at hmemory
    rw [hother, hstored.isFile, hkey k hmemory]
  · rw [Function.update_of_ne hother] at hmemory
    have hbefore := h.isKey other k hmemory
    exact (hstored.kept other hother (by rw [hbefore]; exact nofun)).trans hbefore

/-- A write that succeeds puts its key into the memory and into the file. One that fails leaves both
as they are, unless its device has failed over the file, which then is forgotten. -/
theorem write (h : Remembers host memory) (device : Device) (path : Value) (k : PrivateKey) :
    Remembers ((Step.write device path k).after host)
      ((Step.write device path k).remember host memory) := by
  rw [Step.after, Step.remember]
  rcases writeOn_cases h.hasHome device path k with ⟨f, after, hout, q, hgrown⟩ |
    ⟨p, names, after, hp, hout, hstored⟩
  · have hafter : Remembers after memory := h.of_grown hgrown
    rw [hout]
    dsimp only
    cases target? after path with
    | none => exact hafter
    | some names =>
      dsimp only
      split_ifs
      · exact hafter.forget names
      · exact hafter
  · have htarget : target? after path = some names :=
      target?_of_leadsTo ⟨p, hp, hstored.nameable, hstored.resolve⟩
    rw [hout]
    simp only [htarget]
    cases hverdict : device.verdict p (fileText k) with
    | ok _ =>
      rw [Device.taken_of_verdict hverdict] at hstored
      exact h.of_stored hstored fun k' hk' => congrArg fileText (Option.some.inj hk')
    | error f =>
      obtain ⟨count, hfault⟩ := Device.verdict_eq_error_iff.mp hverdict
      have hfails : Step.deviceFails device path k = true := by
        simp only [Step.deviceFails, hp, hfault, Option.isSome_some]
      simp only [Except.map, hfails, if_true]
      exact h.of_stored hstored nofun

/-- **A step keeps the files as the memory says.** -/
theorem step (h : Remembers host memory) (step : Step) :
    Remembers (step.after host) (step.remember host memory) := by
  cases step with
  | write device path k => exact h.write device path k
  | read path =>
    have hfiles : ((Step.read path).after host).files = host.files := keepsFiles_read path host
    refine ⟨?_, fun names k hmemory => ?_⟩
    · rw [hfiles]
      exact h.hasHome
    · rw [hfiles]
      exact h.isKey names k hmemory

/-- **A run keeps the files as the memory says**, by induction on its steps. -/
theorem run {start : Host × Memory} (h : Remembers start.1 start.2) (steps : List Step) :
    Remembers (Step.run steps start).1 (Step.run steps start).2 := by
  induction steps generalizing start with
  | nil => exact h
  | cons step steps ih => exact ih (h.step step)

end Remembers

/-! ## 3. The store -/

/-- **Key files are a store of keys.**  Start from any files and any working directory among them,
on whatever device. A write that returns leaves the file that its path leads to with exactly the
text of the key, which reading the path gives back; every entry that was there before is there as it
was, but for the file itself, and every new one is the file or a directory that a path above it
leads to. A read changes no file. And in every run of writes and reads, a path that leads to a file
gives the key that was written to it last, by whichever path; only a file that a device failed to
fill has no last key. -/
theorem key_files_store :
    (∀ (host after : Host) (device : Device) (path : Value) (k : PrivateKey) (p : FilePath),
      host.files.HasHome →
      (writeOn device path (.privateKey k)).outcome host = (.ok p, after) →
      ∃ names, LeadsTo after path names ∧
        Stored (fileText k) p names host.files.view after.files.view ∧
        after.files.read p = .ok (fileText k) ∧ (read path).result after = .ok k) ∧
    (∀ (host : Host) (path : Value), ((read path).outcome host).2.files = host.files) ∧
    ∀ (host : Host) (steps : List Step) (path : Value) (names : List FileName) (k : PrivateKey),
      host.files.HasHome → LeadsTo (Step.run steps (host, .empty)).1 path names →
      (Step.run steps (host, .empty)).2 names = some k →
      (read path).result (Step.run steps (host, .empty)).1 = .ok k := by
  refine ⟨fun host after device path k p hhome hwrite => ?written, fun host path => ?unchanged,
    fun host steps path names k hhome hpath hmemory => ?last⟩
  case written =>
    obtain ⟨names, hp, hstored⟩ := stored_of_writeOn hhome hwrite
    have hafter : after.files.HasHome := hhome.of_extends hstored.toExtends
    have hleads : LeadsTo after path names := ⟨p, hp, hstored.nameable, hstored.resolve⟩
    exact ⟨names, hleads, hstored, FileTree.read_of_view hafter hstored.resolve hstored.isFile,
      read_of_view hafter hleads hstored.isFile⟩
  case unchanged => exact keepsFiles_read path host
  case last =>
    have hstart : Remembers (host, Memory.empty).1 (host, Memory.empty).2 := .empty hhome
    have hrun := hstart.run steps
    exact read_of_view hrun.hasHome hpath (hrun.isKey names k hmemory)

/-- A key is written to a file of the working directory that is reached through a directory to be
made and up again, and another one then to the same file from the root. A third one does not find
enough room in a file of its own. By the first path the second key is read. -/
theorem key_files_store_spellings :
    let cwd : FileName := FileName.ofText "cwd"
    let host : Host := { files := .blank [cwd] }
    let relative : Value := .text "a/../k"
    let absolute : Value := .text "/cwd/k"
    let first : PrivateKey := ⟨Bytes.zeros 64, Bytes.length_zeros 64⟩
    let second : PrivateKey := .mismatched
    let full : Device := fun _ _ =>
      some (3, .raiseSystem .system (.int 28) (.text "No space left on device") [])
    let file : List FileName := [cwd, FileName.ofText "k"]
    let written : Except Failure FilePath × Host :=
      (writeOn .sound relative (.privateKey first)).outcome host
    let final : Host × Memory :=
      Step.run [.write .sound relative first, .read absolute, .write .sound absolute second,
        .write full (.text "b") first] (host, .empty)
    (host.files.HasHome ∧ written.1 = .ok (FilePath.ofText "a/../k") ∧
        (read relative).result written.2 = .ok first) ∧
      LeadsTo final.1 relative file ∧ LeadsTo final.1 absolute file ∧ final.2 file = some second ∧
        (read relative).result final.1 = .ok second := by
  intro cwd host relative absolute first second full file written final
  obtain ⟨hstored, -, hlast⟩ := key_files_store
  have hhome : host.files.HasHome := FileTree.hasHome_blank [cwd]
  have hdone : written.1 = .ok (FilePath.ofText "a/../k") := rfl
  have hwritten : (writeOn .sound relative (.privateKey first)).outcome host =
      (.ok (FilePath.ofText "a/../k"), written.2) := Prod.ext hdone rfl
  obtain ⟨names, -, -, -, hread⟩ := hstored host written.2 .sound relative first _ hhome hwritten
  have hresolve : resolve final.1.files.view (FilePath.ofText "a/../k") = .ok file := by
    decide +kernel
  have hresolve' : resolve final.1.files.view (FilePath.ofText "/cwd/k") = .ok file := by
    decide +kernel
  have hleads : LeadsTo final.1 relative file := ⟨FilePath.ofText "a/../k", rfl, rfl, hresolve⟩
  have hleads' : LeadsTo final.1 absolute file := ⟨FilePath.ofText "/cwd/k", rfl, rfl, hresolve'⟩
  have hmemory : final.2 file = some second := by decide +kernel
  exact ⟨⟨hhome, hdone, hread⟩, hleads, hleads', hmemory,
    hlast host _ relative file second hhome hleads hmemory⟩

end Keygen
end LedgerKeys
