/-
# What is left by writing a key

Writing a key makes directories, empties a file and fills it, and each of these steps may be
refused. Making directories only adds some, where paths above the file lead (`Grown`), whether it
succeeds or not: that is carried through sequences and handlers (`Grows`) and proved of the
recursion along the levels. Before the key is looked at, the file is opened (`openFile`), which
empties it: that is refused and leaves no more than new directories, or it leaves an empty file
besides (`openFile_cases`).

A file that was emptied can be filled, because its path leads to it still. How much of the text it
takes is up to the device alone. So a write leaves either some new directories and no change
besides, or also the file with what its device took (`Stored`, `writeOn_cases`).
-/
import LedgerKeys.Proofs.Files.Tree
import LedgerKeys.Proofs.Key.Export

namespace LedgerKeys
namespace Keygen

open FileTree (resolve Extends)

/-! ## 1. Directories that are added -/

/-- Entries were added to a view, each of them a directory that the path or one above it leads to;
nothing else changed. -/
structure Grown (p : FilePath) (v v' : TreeView) : Prop where
  home : v'.home = v.home
  entry : ∀ names, v' names = v names ∨
    v names = none ∧ v' names = some .directory ∧
      ∃ above, above <+: p.names ∧ resolve v' ⟨p.rooted, above⟩ = .ok names

namespace Grown

variable {p q : FilePath} {v v' v'' : TreeView}

theorem refl (p : FilePath) (v : TreeView) : Grown p v v := ⟨rfl, fun _ => .inl rfl⟩

theorem toExtends (h : Grown p v v') : Extends v v' := by
  refine ⟨h.home, ?_, ?_⟩
  · intro names hnames
    rcases h.entry names with hsame | ⟨hnone, -, -⟩
    · rw [hsame, hnames]
    · rw [hnone] at hnames
      cases hnames
  · intro names hnames
    rcases h.entry names with hsame | ⟨-, hnew, -⟩
    · rw [hsame, hnames]
    · rw [hnew]
      rfl

/-- Directories that were made first are still where their paths lead. -/
theorem trans (h : Grown p v v') (h' : Grown p v' v'') : Grown p v v'' := by
  refine ⟨h'.home.trans h.home, fun names => ?_⟩
  rcases h.entry names with hsame | ⟨hnone, hnew, above, habove, hpath⟩
  · rw [← hsame]
    exact h'.entry names
  · rcases h'.entry names with hsame' | ⟨hnone', -⟩
    · exact .inr ⟨hnone, hsame'.trans hnew, above, habove, h'.toExtends.resolve hpath⟩
    · rw [hnew] at hnone'
      cases hnone'

/-- What a path above adds is added for the path. -/
theorem mono (h : Grown q v v') (hrooted : q.rooted = p.rooted) (hnames : q.names <+: p.names) :
    Grown p v v' := by
  refine ⟨h.home, fun names => ?_⟩
  rcases h.entry names with hsame | ⟨hnone, hnew, above, habove, hpath⟩
  · exact .inl hsame
  · refine .inr ⟨hnone, hnew, above, habove.trans hnames, ?_⟩
    rwa [hrooted] at hpath

end Grown

/-- Whatever comes of an operation, it only adds directories for a path. -/
def Grows {α : Type} (p : FilePath) (action : Effect α) : Prop :=
  ∀ host : Host, host.files.HasHome →
    Grown p host.files.view (action.outcome host).2.files.view

namespace Grows

variable {α β : Type} {p q : FilePath}

theorem of_same {action : Effect α} (h : ∀ host, (action.outcome host).2 = host) :
    Grows p action := by
  intro host _
  rw [h host]
  exact .refl p _

/-- The working directory stays, so one operation may follow another. -/
theorem trans_of_hasHome {a b c : Host}
    (hab : a.files.HasHome → Grown p a.files.view b.files.view)
    (hbc : b.files.HasHome → Grown p b.files.view c.files.view) (hhome : a.files.HasHome) :
    Grown p a.files.view c.files.view :=
  (hab hhome).trans (hbc (hhome.of_extends (hab hhome).toExtends))

theorem bind {x : Effect α} {next : α → Effect β} (hx : Grows p x) (hnext : ∀ a, Grows p (next a)) :
    Grows p (x >>= next) := fun host =>
  Effect.left_bind (R := fun a b => a.files.HasHome → Grown p a.files.view b.files.view) host
    trans_of_hasHome hx hnext

theorem tryCatch {x : Effect α} {handler : Failure → Effect α} (hx : Grows p x)
    (hhandler : ∀ f, Grows p (handler f)) : Grows p (tryCatch x handler) := fun host =>
  Effect.left_tryCatch (R := fun a b => a.files.HasHome → Grown p a.files.view b.files.view) host
    trans_of_hasHome hx hhandler

theorem mono {action : Effect α} (h : Grows q action) (hrooted : q.rooted = p.rooted)
    (hnames : q.names <+: p.names) : Grows p action :=
  fun host hhome => (h host hhome).mono hrooted hnames

end Grows

/-! ## 2. Making directories -/

variable {host after : Host} {path : Value} {p : FilePath}

theorem outcome_wantNameable (p : FilePath) (host : Host) :
    (wantNameable p).outcome host =
      (match pathFailure? p.toText with
        | some f => .error f
        | none => .ok (), host) := by
  rw [wantNameable]
  cases pathFailure? p.toText with
  | some f => rfl
  | none => rfl

theorem grows_makeDirectory (p : FilePath) : Grows p (makeDirectory p) := by
  refine Grows.bind (.of_same fun host => by rw [outcome_wantNameable]) fun _ host hhome => ?_
  rw [Effect.outcome_changeFiles]
  cases hmake : host.files.makeDirectory p with
  | error fault => exact .refl p _
  | ok files =>
    obtain ⟨names, hp, hnone, hview⟩ := FileTree.makeDirectory_spec hhome hmake
    dsimp only
    rw [hview]
    have hextends : Extends host.files.view (host.files.view.set names .directory) :=
      FileTree.extends_set _ (by rw [hnone]; exact nofun)
    refine ⟨hextends.home, fun other => ?_⟩
    by_cases hother : other = names
    · subst hother
      exact .inr ⟨hnone, TreeView.set_self, p.names, List.prefix_rfl, hextends.resolve hp⟩
    · exact .inl (TreeView.set_of_ne hother)

theorem grows_unlessDirectory (p q : FilePath) (f : Failure) : Grows p (unlessDirectory q f) := by
  refine .of_same fun host => ?_
  rw [unlessDirectory, Effect.outcome_get_bind]
  split_ifs
  · rfl
  · rfl

theorem grows_throw {α : Type} (p : FilePath) (f : Failure) : Grows p (throw f : Effect α) :=
  .of_same fun _ => rfl

/-- **Making a directory with those above it only adds directories**, on every level and also where
it is refused. -/
theorem grows_makeDirectories (rooted : Bool) (backwards : List Text) (levels : Nat) :
    Grows ⟨rooted, backwards.reverse⟩ (makeDirectories rooted backwards levels) := by
  induction levels generalizing backwards with
  | zero =>
    rw [makeDirectories]
    exact grows_throw _ _
  | succ levels ih =>
    cases backwards with
    | nil =>
      rw [makeDirectories]
      exact (grows_makeDirectory _).tryCatch fun f => grows_unlessDirectory _ _ f
    | cons name above =>
      have habove : Grows ⟨rooted, (name :: above).reverse⟩ (makeDirectories rooted above levels) :=
        (ih above).mono rfl (by simp)
      rw [makeDirectories]
      refine (grows_makeDirectory _).tryCatch fun f => ?_
      split_ifs
      · refine habove.bind fun _ => (grows_makeDirectory _).tryCatch fun f => ?_
        split_ifs
        · exact grows_throw _ f
        · exact grows_unlessDirectory _ _ f
      · exact grows_unlessDirectory _ _ f

theorem grows_makeParents (p : FilePath) : Grows p.parent (makeParents p) := by
  have h := grows_makeDirectories p.rooted p.names.dropLast.reverse levelLimit
  rwa [List.reverse_reverse] at h

/-! ## 3. Putting bytes into a file -/

variable {content old : Bytes} {names : List FileName} {device : Device}

/-- **Putting bytes into a file** is refused and changes nothing, or changes the one entry that the
path leads to. -/
theorem writeBytes_cases (hhome : host.files.HasHome) (p : FilePath) (content : Bytes) :
    (∃ f, (writeBytes p content).outcome host = (.error f, host)) ∨
      ∃ names files, pathFailure? p.toText = none ∧ resolve host.files.view p = .ok names ∧
        host.files.view names ≠ some .directory ∧
        (writeBytes p content).outcome host = (.ok (), { host with files := files }) ∧
        files.view = host.files.view.set names (.file content) := by
  rw [writeBytes, Effect.outcome_bind, outcome_wantNameable]
  cases hnameable : pathFailure? p.toText with
  | some f => exact .inl ⟨f, rfl⟩
  | none =>
    dsimp only
    rw [Effect.outcome_changeFiles]
    cases hwrite : host.files.write p content with
    | error fault => exact .inl ⟨_, rfl⟩
    | ok files =>
      obtain ⟨names, hp, hfile, hview⟩ := FileTree.write_spec hhome hwrite
      exact .inr ⟨names, files, rfl, hp, hfile, rfl, hview⟩

/-- Nothing refuses bytes for a file that a path leads to. -/
theorem writeBytes_of_view (hhome : host.files.HasHome) (hnameable : pathFailure? p.toText = none)
    (hp : resolve host.files.view p = .ok names) (hfile : host.files.view names ≠ some .directory)
    (content : Bytes) :
    ∃ files, (writeBytes p content).outcome host = (.ok (), { host with files := files }) ∧
      files.view = host.files.view.set names (.file content) := by
  obtain ⟨files, hwrite, hview⟩ := FileTree.write_of_view hhome hp hfile content
  refine ⟨files, ?_, hview⟩
  rw [writeBytes, Effect.outcome_bind, outcome_wantNameable, hnameable]
  dsimp only
  rw [Effect.outcome_changeFiles, hwrite]

/-- A device that does not fail has taken everything. -/
theorem Device.taken_of_verdict (h : device.verdict p content = .ok ()) :
    device.taken p content = content := by
  rw [verdict] at h
  rw [taken]
  cases hdevice : device p content with
  | none => rfl
  | some fault =>
    rw [hdevice] at h
    cases h

/-- A failure of the device tells how much it has taken. -/
theorem Device.verdict_eq_error_iff {f : Failure} :
    device.verdict p content = .error f ↔ ∃ count, device p content = some (count, f) := by
  rw [verdict]
  cases device p content with
  | none => simp
  | some fault =>
    obtain ⟨count, g⟩ := fault
    simp

theorem Device.taken_of_fault {count : Nat} {f : Failure}
    (h : device p content = some (count, f)) : device.taken p content = content.take count := by
  rw [taken, h]

/-! ## 4. Files that are stored -/

/-- The path, as a caller spells it, leads to these names. -/
def LeadsTo (host : Host) (path : Value) (names : List FileName) : Prop :=
  ∃ p, pathOf path = .ok p ∧ pathFailure? p.toText = none ∧ resolve host.files.view p = .ok names

/-- A view with a file of this content where the path leads, everything else that was there before,
and besides only directories that were missing on the path. -/
structure Stored (content : Bytes) (p : FilePath) (names : List FileName) (v v' : TreeView) :
    Prop where
  resolve : resolve v' p = .ok names
  nameable : pathFailure? p.toText = none
  wasFile : v names ≠ some .directory
  isFile : v' names = some (.file content)
  kept : ∀ other, other ≠ names → v other ≠ none → v' other = v other
  added : ∀ other, other ≠ names → v other = none → v' other ≠ none →
    v' other = some .directory ∧
      ∃ above, above <+: p.parent.names ∧ FileTree.resolve v' ⟨p.rooted, above⟩ = .ok other
  home : v'.home = v.home

section Stored

variable {v w : TreeView}

theorem Stored.toExtends (h : Stored content p names v w) : Extends v w := by
  have hother : ∀ other, v other ≠ none → other ≠ names → w other = v other :=
    fun other hsome hne => h.kept other hne hsome
  refine ⟨h.home, ?_, ?_⟩
  · intro other hdirectory
    have hne : other ≠ names := by
      rintro rfl
      exact h.wasFile hdirectory
    rw [hother other (by rw [hdirectory]; exact nofun) hne, hdirectory]
  · intro other hsome
    by_cases hne : other = names
    · rw [hne, h.isFile]
      rfl
    · rwa [hother other (Option.isSome_iff_ne_none.mp hsome) hne]

/-- New directories and then one file. -/
theorem Grown.stored (hgrown : Grown p.parent v w) (hnameable : pathFailure? p.toText = none)
    (hp : FileTree.resolve w p = .ok names) (hfile : w names ≠ some .directory)
    (content : Bytes) : Stored content p names v (w.set names (.file content)) := by
  have hextends : Extends w (w.set names (.file content)) := FileTree.extends_set _ hfile
  refine ⟨hextends.resolve hp, hnameable, ?_, TreeView.set_self, ?_, ?_, hgrown.home⟩
  · exact fun hdirectory => hfile (hgrown.toExtends.directory names hdirectory)
  · intro other hne hsome
    rcases hgrown.entry other with hsame | ⟨hnone, -⟩
    · rw [TreeView.set_of_ne hne, hsame]
    · exact absurd hnone hsome
  · intro other hne hnone hnew
    rw [TreeView.set_of_ne hne] at hnew ⊢
    rcases hgrown.entry other with hsame | ⟨-, hdirectory, above, habove, hpath⟩
    · rw [hsame, hnone] at hnew
      exact absurd rfl hnew
    · exact ⟨hdirectory, above, habove, hextends.resolve hpath⟩

/-- Other bytes in the file change nothing besides. -/
theorem Stored.refill (h : Stored old p names v w) (content : Bytes) :
    Stored content p names v (w.set names (.file content)) := by
  have hextends : Extends w (w.set names (.file content)) :=
    FileTree.extends_set _ (by rw [h.isFile]; exact nofun)
  refine ⟨hextends.resolve h.resolve, h.nameable, h.wasFile, TreeView.set_self, ?_, ?_, h.home⟩
  · intro other hne hsome
    rw [TreeView.set_of_ne hne]
    exact h.kept other hne hsome
  · intro other hne hnone hnew
    rw [TreeView.set_of_ne hne] at hnew ⊢
    obtain ⟨hdirectory, above, habove, hpath⟩ := h.added other hne hnone hnew
    exact ⟨hdirectory, above, habove, hextends.resolve hpath⟩

end Stored

/-! ## 5. Writing a key -/

/-- The text of a key in a file. -/
def fileText (k : PrivateKey) : Bytes := Utf8.encodeAll (encode k.data)

/-- Makes the directories above a path and empties its file. -/
def openFile (path : Value) : Effect FilePath := do
  let p ← Effect.ofExcept (pathOf path)
  makeParents p
  writeBytes p []
  pure p

/-- **Only when the file is open, a write looks at the key.** -/
theorem writeOn_eq (device : Device) (path key : Value) :
    writeOn device path key = openFile path >>= fun p =>
      match key with
      | .privateKey k => do
        fill device p (fileText k)
        Effect.report (.wroteKey p.toText k.publicKey)
        pure p
      | _ => throw .noAttribute := by
  simp only [openFile, bind_assoc, pure_bind]
  rfl

/-- **A file is opened**, and then it is there and empty, or that is refused, which leaves no more
than new directories. -/
theorem openFile_cases (hhome : host.files.HasHome) (path : Value) :
    (∃ f after, (openFile path).outcome host = (.error f, after) ∧
        ∃ p, Grown p host.files.view after.files.view) ∨
      ∃ p names after, (openFile path).outcome host = (.ok p, after) ∧ pathOf path = .ok p ∧
        Stored [] p names host.files.view after.files.view := by
  rw [openFile, Effect.outcome_bind, Effect.outcome_ofExcept]
  cases pathOf path with
  | error f => exact .inl ⟨f, host, rfl, ⟨false, []⟩, .refl _ _⟩
  | ok p =>
    have hgrown := grows_makeParents p host hhome
    dsimp only
    rw [Effect.outcome_bind]
    generalize (makeParents p).outcome host = made at hgrown
    obtain ⟨f | _, mid⟩ := made
    · exact .inl ⟨f, mid, rfl, p.parent, hgrown⟩
    · have hmid : mid.files.HasHome := hhome.of_extends hgrown.toExtends
      dsimp only
      rw [Effect.outcome_bind]
      rcases writeBytes_cases hmid p [] with ⟨f, hrefused⟩ |
        ⟨names, files, hnameable, hp, hfile, hempty, hview⟩
      · rw [hrefused]
        exact .inl ⟨f, mid, rfl, p.parent, hgrown⟩
      · rw [hempty]
        refine .inr ⟨p, names, { mid with files := files }, rfl, rfl, ?_⟩
        rw [hview]
        exact hgrown.stored hnameable hp hfile []

/-- **An open file is filled as its device decides.** -/
theorem fill_of_stored {v : TreeView} (hhome : host.files.HasHome)
    (h : Stored old p names v host.files.view) (device : Device) (content : Bytes) :
    ∃ files, (fill device p content).outcome host =
        (device.verdict p content, { host with files := files }) ∧
      Stored (device.taken p content) p names v files.view := by
  have hfile : host.files.view names ≠ some .directory := by
    rw [h.isFile]
    exact nofun
  obtain ⟨files, hfill, hview⟩ :=
    writeBytes_of_view hhome h.nameable h.resolve hfile (device.taken p content)
  refine ⟨files, ?_, ?_⟩
  · rw [fill, Effect.outcome_bind, hfill]
    exact Effect.outcome_ofExcept _ _
  · rw [hview]
    exact h.refill _

/-- A write that cannot open its file ends there, with any device and any key. -/
theorem writeOn_of_refused {f : Failure} (h : (openFile path).outcome host = (.error f, after))
    (device : Device) (key : Value) :
    (writeOn device path key).outcome host = (.error f, after) := by
  rw [writeOn_eq, Effect.outcome_bind, h]

/-- **With the file open, a private key is stored as far as the device takes it.** -/
theorem writeOn_of_opened (hhome : host.files.HasHome)
    (h : (openFile path).outcome host = (.ok p, after))
    (hstored : Stored [] p names host.files.view after.files.view) (device : Device)
    (k : PrivateKey) :
    ∃ final, (writeOn device path (.privateKey k)).outcome host =
        ((device.verdict p (fileText k)).map fun _ => p, final) ∧
      Stored (device.taken p (fileText k)) p names host.files.view final.files.view := by
  obtain ⟨files, hfill, hfilled⟩ :=
    fill_of_stored (hhome.of_extends hstored.toExtends) hstored device (fileText k)
  rw [writeOn_eq, Effect.outcome_bind, h]
  dsimp only
  rw [Effect.outcome_bind, hfill]
  cases device.verdict p (fileText k) with
  | error f => exact ⟨_, rfl, hfilled⟩
  | ok _ => exact ⟨_, rfl, hfilled⟩

/-- **Writing a key stores what its device takes, or only adds directories.** -/
theorem writeOn_cases (hhome : host.files.HasHome) (device : Device) (path : Value)
    (k : PrivateKey) :
    (∃ f after, (writeOn device path (.privateKey k)).outcome host = (.error f, after) ∧
        ∃ p, Grown p host.files.view after.files.view) ∨
      ∃ p names after, pathOf path = .ok p ∧
        (writeOn device path (.privateKey k)).outcome host =
          ((device.verdict p (fileText k)).map fun _ => p, after) ∧
        Stored (device.taken p (fileText k)) p names host.files.view after.files.view := by
  rcases openFile_cases hhome path with ⟨f, after, hopen, hgrown⟩ |
    ⟨p, names, mid, hopen, hp, hopened⟩
  · exact .inl ⟨f, after, writeOn_of_refused hopen device _, hgrown⟩
  · obtain ⟨after, hout, hstored⟩ := writeOn_of_opened hhome hopen hopened device k
    exact .inr ⟨p, names, after, hp, hout, hstored⟩

/-- **A write that returns has stored the key**, whatever the device is. -/
theorem stored_of_writeOn (hhome : host.files.HasHome) {k : PrivateKey}
    (h : (writeOn device path (.privateKey k)).outcome host = (.ok p, after)) :
    ∃ names, pathOf path = .ok p ∧
      Stored (fileText k) p names host.files.view after.files.view := by
  rcases writeOn_cases hhome device path k with ⟨f, final, hout, -⟩ |
    ⟨q, names, final, hq, hout, hstored⟩
  · rw [h] at hout
    cases hout
  · rw [h] at hout
    obtain ⟨hdone, rfl⟩ := Prod.mk.inj hout
    obtain ⟨u, hverdict, rfl⟩ := except_map_eq_ok.mp hdone.symm
    rw [Device.taken_of_verdict hverdict] at hstored
    exact ⟨names, hq, hstored⟩

end Keygen
end LedgerKeys
