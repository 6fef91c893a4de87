/-
# Writes that fail

A write looks at the key only after the file was opened, which empties it (`openFile`). As long as
that is not done, a refusal costs no file anything: it may leave new directories, but then the
directory that the path needs is not among them (`makeDirectories_refused`, by induction along the
levels), so the path leads to no file, as it did before (`fileAt_of_openFile_refused`). Once it is
done, a private key is not refused any more, and everything else is. Only the device can still fail,
and then the file holds what it has taken of the text.

So a write of a private key that fails leaves what reading its path gives as it was, unless the
device has failed over the open file. A write of another value leaves it only where no private key
could have been written either.
-/
import LedgerKeys.Proofs.Keygen.Writing

namespace LedgerKeys
namespace Keygen

open FileTree (resolve Extends)

variable {host after : Host} {path : Value} {p : FilePath} {names : List FileName}
  {content : Bytes}

/-! ## 1. The file at a path -/

/-- The bytes that reading a path gives, if it leads to a file. -/
def fileAt (host : Host) (path : Value) : Option Bytes :=
  ((Effect.ofExcept (pathOf path) >>= readBytes).result host).toOption

theorem result_readBytes (p : FilePath) (host : Host) :
    (readBytes p).result host =
      match pathFailure? p.toText with
      | some f => .error f
      | none => match host.files.read p with
        | .ok content => .ok content
        | .error fault => .error (.file fault p.toText) := by
  rw [readBytes, Effect.result, Effect.outcome_bind, outcome_wantNameable]
  cases pathFailure? p.toText with
  | some f => rfl
  | none =>
    dsimp only
    rw [Effect.outcome_get_bind]
    cases host.files.read p with
    | ok content => rfl
    | error fault => rfl

/-- **The file at a path** is what the path leads to. -/
theorem fileAt_eq_some_iff (hhome : host.files.HasHome) :
    fileAt host path = some content ↔
      ∃ names, LeadsTo host path names ∧ host.files.view names = some (.file content) := by
  have hread : ∀ p, ((readBytes p).result host).toOption = some content ↔
      pathFailure? p.toText = none ∧ host.files.read p = .ok content := by
    intro p
    rw [result_readBytes]
    cases pathFailure? p.toText with
    | some f => simp [Except.toOption]
    | none => cases host.files.read p <;> simp [Except.toOption]
  rw [fileAt, Effect.result, Effect.outcome_bind, Effect.outcome_ofExcept]
  constructor
  · intro hfile
    cases hpath : pathOf path with
    | error f =>
      rw [hpath] at hfile
      cases hfile
    | ok p =>
      rw [hpath] at hfile
      obtain ⟨hnameable, hcontent⟩ := (hread p).mp hfile
      obtain ⟨names, hp, hview⟩ := (FileTree.read_eq_ok_iff hhome).mp hcontent
      exact ⟨names, ⟨p, hpath, hnameable, hp⟩, hview⟩
  · rintro ⟨names, ⟨p, hpath, hnameable, hp⟩, hview⟩
    rw [hpath]
    exact (hread p).mpr ⟨hnameable, FileTree.read_of_view hhome hp hview⟩

/-- Directories that are added take no file away from a path. -/
theorem fileAt_of_grown (hhome : host.files.HasHome)
    (hgrown : Grown p host.files.view after.files.view) (hfile : fileAt host path = some content) :
    fileAt after path = some content := by
  obtain ⟨names, ⟨q, hq, hnameable, hresolve⟩, hview⟩ := (fileAt_eq_some_iff hhome).mp hfile
  refine (fileAt_eq_some_iff (hhome.of_extends hgrown.toExtends)).mpr
    ⟨names, ⟨q, hq, hnameable, hgrown.toExtends.resolve hresolve⟩, ?_⟩
  rcases hgrown.entry names with hsame | ⟨hnone, -⟩
  · exact hsame.trans hview
  · rw [hview] at hnone
    cases hnone

/-- So a path that leads to no file in the end has led to none before. -/
theorem fileAt_eq_of_grown (hhome : host.files.HasHome)
    (hgrown : Grown p host.files.view after.files.view) (hnone : fileAt after path = none) :
    fileAt after path = fileAt host path := by
  cases hfile : fileAt host path with
  | none => exact hnone
  | some content =>
    rw [fileAt_of_grown hhome hgrown hfile] at hnone
    cases hnone

/-! ## 2. Directories that cannot be made -/

theorem outcome_makeDirectory (p : FilePath) (host : Host) :
    (makeDirectory p).outcome host =
      match pathFailure? p.toText with
      | some f => (.error f, host)
      | none => match host.files.makeDirectory p with
        | .ok files => (.ok (), { host with files := files })
        | .error fault => (.error (.file fault p.toText), host) := by
  rw [makeDirectory, Effect.outcome_bind, outcome_wantNameable]
  cases pathFailure? p.toText with
  | some f => rfl
  | none => exact Effect.outcome_changeFiles host p.toText _

theorem outcome_unlessDirectory (p : FilePath) (f : Failure) (host : Host) :
    (unlessDirectory p f).outcome host =
      (if f.isA .system && (host.files.look p matches .ok (.directory _)) then .ok () else .error f,
        host) := by
  rw [unlessDirectory, Effect.outcome_get_bind]
  cases f.isA .system && (host.files.look p matches .ok (.directory _)) with
  | true => rfl
  | false => rfl

section Refused

variable {f g : Failure}

/-- A directory that cannot be made changes nothing. -/
theorem makeDirectory_refused (h : (makeDirectory p).outcome host = (.error f, after)) :
    after = host := by
  rw [outcome_makeDirectory] at h
  cases hnameable : pathFailure? p.toText with
  | some g =>
    rw [hnameable] at h
    exact (congrArg Prod.snd h).symm
  | none =>
    rw [hnameable] at h
    cases hmake : host.files.makeDirectory p with
    | error fault =>
      rw [hmake] at h
      exact (congrArg Prod.snd h).symm
    | ok files =>
      rw [hmake] at h
      cases h

theorem unlessDirectory_refused (h : (unlessDirectory p f).outcome host = (.error g, after)) :
    after = host := by
  rw [outcome_unlessDirectory] at h
  exact (congrArg Prod.snd h).symm

/-- A path that the system cannot be asked about is not taken for a missing one. -/
theorem pathFailure?_of_isMissing (h : (makeDirectory p).outcome host = (.error f, after))
    (hmissing : f.isA .fileMissing = true) : pathFailure? p.toText = none := by
  rw [outcome_makeDirectory] at h
  cases hnameable : pathFailure? p.toText with
  | none => rfl
  | some g =>
    rw [hnameable] at h
    cases h
    rw [pathFailure?] at hnameable
    split at hnameable
    · cases hnameable
      cases hmissing
    · split_ifs at hnameable
      cases hnameable
      cases hmissing

/-- The second try to make a directory, when those above it are there. -/
def tryAgain (p : FilePath) : Effect Unit :=
  tryCatch (makeDirectory p) fun f =>
    if f.isA .fileMissing then throw f else unlessDirectory p f

/-- A second try that fails changes nothing, either. -/
theorem tryAgain_refused (h : (tryAgain p).outcome host = (.error f, after)) : after = host := by
  obtain ⟨g, mid, hmake, hhandler⟩ := (Effect.outcome_tryCatch_eq_error host).mp h
  obtain rfl := makeDirectory_refused hmake
  split_ifs at hhandler
  · exact (congrArg Prod.snd hhandler).symm
  · exact unlessDirectory_refused hhandler

/-- It does not fail if the directory is there. -/
theorem outcome_tryAgain_of_view (hhome : host.files.HasHome)
    (hnameable : pathFailure? p.toText = none) (hp : resolve host.files.view p = .ok names)
    (hdirectory : host.files.view names = some .directory) :
    (tryAgain p).outcome host = (.ok (), host) := by
  obtain ⟨node, hlook, hnode⟩ := FileTree.look_of_view hhome hp hdirectory
  rw [tryAgain, Effect.outcome_tryCatch, outcome_makeDirectory, hnameable,
    FileTree.makeDirectory_of_view hhome hp hdirectory]
  cases node with
  | file content => cases hnode
  | directory entries =>
    change (unlessDirectory p (.file .occupied p.toText)).outcome host = _
    rw [outcome_unlessDirectory, hlook]
    rfl

/-- The path leads to no directory. -/
def LacksDirectory (v : TreeView) (p : FilePath) : Prop :=
  ∀ names, resolve v p = .ok names → v names ≠ some .directory

/-- Without the directory above it, a path leads nowhere. -/
theorem LacksDirectory.resolve_ne {v : TreeView} (h : LacksDirectory v p.parent)
    (hne : p.names ≠ []) : resolve v p ≠ .ok names := by
  intro hp
  obtain ⟨above, habove, hdirectory⟩ := FileTree.resolve_parent hp hne
  exact h above habove hdirectory

theorem LacksDirectory.below {v : TreeView} {rooted : Bool} {above : List Text}
    (h : LacksDirectory v ⟨rooted, above.reverse⟩) (name : Text) :
    LacksDirectory v ⟨rooted, (name :: above).reverse⟩ := by
  intro names hp
  refine absurd hp (LacksDirectory.resolve_ne ?_ (by simp))
  simpa [FilePath.parent] using h

/-- **Where directories cannot be made**, nothing was done, or directories above were made and the
one that was wanted is not there. The induction is along the levels. -/
theorem makeDirectories_refused (hhome : host.files.HasHome) (rooted : Bool)
    (backwards : List Text) (levels : Nat)
    (h : (makeDirectories rooted backwards levels).outcome host = (.error f, after)) :
    after = host ∨
      backwards ≠ [] ∧ LacksDirectory after.files.view ⟨rooted, backwards.reverse⟩ := by
  induction levels generalizing backwards f after with
  | zero =>
    rw [makeDirectories] at h
    exact .inl (congrArg Prod.snd h).symm
  | succ levels ih =>
    cases backwards with
    | nil =>
      rw [makeDirectories] at h
      obtain ⟨g, mid, hmake, hhandler⟩ := (Effect.outcome_tryCatch_eq_error host).mp h
      obtain rfl := makeDirectory_refused hmake
      exact .inl (unlessDirectory_refused hhandler)
    | cons name above =>
      rw [makeDirectories] at h
      obtain ⟨g, mid, hmake, hhandler⟩ := (Effect.outcome_tryCatch_eq_error host).mp h
      obtain rfl := makeDirectory_refused hmake
      split_ifs at hhandler with hmissing
      · rcases (Effect.outcome_bind_eq_error mid).mp hhandler with habove |
          ⟨_, mid', habove, hagain⟩
        · -- The directories above could not be made.
          rcases ih above habove with hsame | ⟨-, hlacks⟩
          · exact .inl hsame
          · exact .inr ⟨List.cons_ne_nil name above, hlacks.below name⟩
        · -- They were made, and the second try failed.
          obtain rfl := tryAgain_refused hagain
          refine .inr ⟨List.cons_ne_nil name above, fun names hp hdirectory => ?_⟩
          have hgrown := grows_makeDirectories rooted above levels mid hhome
          rw [habove] at hgrown
          have hthere := outcome_tryAgain_of_view (hhome.of_extends hgrown.toExtends)
            (pathFailure?_of_isMissing hmake hmissing) hp hdirectory
          rw [tryAgain, hagain] at hthere
          cases hthere
      · exact .inl (unlessDirectory_refused hhandler)

end Refused

/-! ## 3. What a write does before it looks at the key -/

/-- A path that leads to no file after directories were made for it has led to none before. -/
theorem fileAt_eq_of_no_file (hhome : host.files.HasHome)
    (hgrown : Grown p.parent host.files.view after.files.view) (hpath : pathOf path = .ok p)
    (hnone : ∀ names content, pathFailure? p.toText = none →
      resolve after.files.view p = .ok names → after.files.view names ≠ some (.file content)) :
    fileAt after path = fileAt host path := by
  refine fileAt_eq_of_grown hhome hgrown (Option.eq_none_iff_forall_ne_some.mpr ?_)
  intro content hfile
  obtain ⟨names, ⟨q, hq, hnameable, hresolve⟩, hview⟩ :=
    (fileAt_eq_some_iff (hhome.of_extends hgrown.toExtends)).mp hfile
  rw [hpath] at hq
  cases hq
  exact hnone names content hnameable hresolve hview

/-- Directories that cannot be made leave the file of the path that needs them as it was. -/
theorem fileAt_of_makeParents_refused (hhome : host.files.HasHome) (hpath : pathOf path = .ok p)
    (h : (makeParents p).outcome host = (.error f, after)) :
    fileAt after path = fileAt host path := by
  have hgrown := grows_makeParents p host hhome
  rw [h] at hgrown
  rcases makeDirectories_refused hhome _ _ _ h with rfl | ⟨hne, hlacks⟩
  · rfl
  · refine fileAt_eq_of_no_file hhome hgrown hpath fun names content _ hp => ?_
    rw [List.reverse_reverse] at hlacks
    refine absurd hp (LacksDirectory.resolve_ne hlacks ?_)
    intro hnil
    simp [FilePath.parent, hnil] at hne

/-- A file that cannot be emptied is none, before its directories were made as afterwards. -/
theorem fileAt_of_writeBytes_refused (hhome : host.files.HasHome)
    (hgrown : Grown p.parent host.files.view after.files.view) (hpath : pathOf path = .ok p)
    (h : ((writeBytes p []).outcome after).1 = .error f) :
    fileAt after path = fileAt host path := by
  refine fileAt_eq_of_no_file hhome hgrown hpath fun names content hnameable hp hview => ?_
  have hfile : after.files.view names ≠ some .directory := by simp [hview]
  obtain ⟨files, hwrite, -⟩ :=
    writeBytes_of_view (hhome.of_extends hgrown.toExtends) hnameable hp hfile []
  rw [hwrite] at h
  cases h

/-- **A file that cannot be opened is what it was.** -/
theorem fileAt_of_openFile_refused (hhome : host.files.HasHome)
    (h : (openFile path).outcome host = (.error f, after)) :
    fileAt after path = fileAt host path := by
  rw [openFile, Effect.outcome_bind, Effect.outcome_ofExcept] at h
  cases hpath : pathOf path with
  | error g =>
    rw [hpath] at h
    cases h
    rfl
  | ok p =>
    rw [hpath] at h
    rcases (Effect.outcome_bind_eq_error host).mp h with hparents | ⟨_, mid, hparents, h⟩
    · exact fileAt_of_makeParents_refused hhome hpath hparents
    · have hgrown := grows_makeParents p host hhome
      rw [hparents] at hgrown
      rcases (Effect.outcome_bind_eq_error mid).mp h with hempty | ⟨_, mid', -, h⟩
      · -- Emptying the file was refused, which changes nothing.
        rcases writeBytes_cases (hhome.of_extends hgrown.toExtends) p [] with ⟨g, hrefused⟩ |
          ⟨names, files, -, -, -, hdone, -⟩
        · rw [hrefused] at hempty
          cases hempty
          exact fileAt_of_writeBytes_refused hhome hgrown hpath (congrArg Prod.fst hrefused)
        · rw [hdone] at hempty
          cases hempty
      · cases h

/-! ## 4. Writes that fail -/

/-- What was stored under a path is the file there. -/
theorem fileAt_of_stored (hhome : host.files.HasHome) (hpath : pathOf path = .ok p)
    (h : Stored content p names host.files.view after.files.view) :
    fileAt after path = some content :=
  (fileAt_eq_some_iff (hhome.of_extends h.toExtends)).mpr
    ⟨names, ⟨p, hpath, h.nameable, h.resolve⟩, h.isFile⟩

/-- Every value but a private key is refused, at the latest when the file was emptied. -/
theorem writeOn_other {key : Value} (hkey : ∀ k, key ≠ .privateKey k)
    (h : (openFile path).outcome host = (.ok p, after)) (device : Device) :
    (writeOn device path key).outcome host = (.error .noAttribute, after) := by
  rw [writeOn_eq, Effect.outcome_bind, h]
  cases key with
  | privateKey k => exact absurd rfl (hkey k)
  | _ => rfl

/-- **A write that fails, and the file it was for.**  If the write of a private key fails on
whatever device, then reading the path gives what it gave before, the same bytes or nothing, unless
the failure is that of the device over the open file: then the file holds the part of the text that
was taken. A value that is no private key is always refused. Where a private key is refused though
the device does not fail, it is refused in the same way, and the file is what it was; anywhere else
the failure is that the value has no text in the keygen format, and the file is left empty, whatever
was in it. -/
theorem refused_write_keeps_file (hhome : host.files.HasHome) (path : Value) (k : PrivateKey) :
    (∀ (device : Device) (f : Failure) (after : Host),
      (writeOn device path (.privateKey k)).outcome host = (.error f, after) →
      fileAt after path = fileAt host path ∨
        ∃ p count, pathOf path = .ok p ∧ device p (fileText k) = some (count, f) ∧
          fileAt after path = some ((fileText k).take count)) ∧
    let stored := (write path (.privateKey k)).outcome host
    ∀ (device : Device) (key : Value), (∀ k', key ≠ .privateKey k') →
      let outcome := (writeOn device path key).outcome host
      (∀ f, stored.1 = .error f → outcome = stored ∧ fileAt outcome.2 path = fileAt host path) ∧
        ∀ p, stored.1 = .ok p →
          outcome.1 = .error .noAttribute ∧ fileAt outcome.2 path = some [] := by
  rcases openFile_cases hhome path with ⟨g, mid, hopen, -⟩ | ⟨p, names, mid, hopen, hp, hopened⟩
  · have hrefused := writeOn_of_refused hopen
    have hkept := fileAt_of_openFile_refused hhome hopen
    refine ⟨fun device f after hout => .inl ?_, ?_⟩
    · rw [hrefused] at hout
      cases hout
      exact hkept
    · intro stored device key _ outcome
      have hstored : stored = (.error g, mid) := hrefused .sound _
      have houtcome : outcome = (.error g, mid) := hrefused device key
      rw [hstored, houtcome]
      exact ⟨fun _ _ => ⟨rfl, hkept⟩, fun p hdone => by cases hdone⟩
  · refine ⟨fun device f after hout => .inr ?_, ?_⟩
    · obtain ⟨final, hwrite, hstored⟩ := writeOn_of_opened hhome hopen hopened device k
      rw [hout] at hwrite
      obtain ⟨hverdict, rfl⟩ := Prod.mk.inj hwrite
      obtain ⟨count, hfault⟩ :=
        Device.verdict_eq_error_iff.mp (except_map_eq_error.mp hverdict.symm)
      rw [Device.taken_of_fault hfault] at hstored
      exact ⟨p, count, hp, hfault, fileAt_of_stored hhome hp hstored⟩
    · intro stored device key hkey outcome
      obtain ⟨final, hwrite, -⟩ := writeOn_of_opened hhome hopen hopened .sound k
      have hstored : stored.1 = .ok p := congrArg Prod.fst hwrite
      have houtcome : outcome = (.error .noAttribute, mid) := writeOn_other hkey hopen device
      rw [hstored, houtcome]
      refine ⟨fun f hfailed => ?_, fun _ _ => ⟨rfl, fileAt_of_stored hhome hp hopened⟩⟩
      cases hfailed

/-- Below a file nothing can be written, though a directory on the way is made. In the file itself a
device that fails leaves a part of the key, and a wallet leaves nothing. -/
theorem refused_write_keeps_file_below :
    let old : Bytes := [0x6F, 0x6C, 0x64]
    let host : Host := ((writeBytes (FilePath.ofText "k") old).outcome {}).2
    let key : PrivateKey := ⟨Bytes.zeros 64, Bytes.length_zeros 64⟩
    let failure : Failure := .raiseSystem .system (.int 28) (.text "No space left on device") []
    let full : Device := fun _ _ => some (3, failure)
    let wallet : Value := .wallet (.privateKey key)
    let file : Value := .text "k"
    let below : Value := .text "a/../k/x"
    let onFull (path : Value) := (writeOn full path (.privateKey key)).outcome host
    let stored (path : Value) := (write path (.privateKey key)).outcome host
    let outcome (path : Value) := (write path wallet).outcome host
    host.files.HasHome ∧ (∀ k, wallet ≠ .privateKey k) ∧
      ((stored below).1 = .error (.file .occupied "a/../k") ∧ fileAt (stored below).2 below = none ∧
        outcome below = stored below) ∧
      fileAt host file = some old ∧
      ((onFull file).1 = .error failure ∧ fileAt (onFull file).2 file = some [0x5B, 0x30, 0x2C]) ∧
      (stored file).1 = .ok (FilePath.ofText "k") ∧
        (outcome file).1 = .error .noAttribute ∧ fileAt (outcome file).2 file = some [] := by
  intro old host key failure full wallet file below onFull stored outcome
  have hhome : host.files.HasHome := rfl
  have hother : ∀ k, wallet ≠ .privateKey k := nofun
  have hbelow : (stored below).1 = .error (.file .occupied "a/../k") := rfl
  have hfile : (stored file).1 = .ok (FilePath.ofText "k") := rfl
  have hfull : (onFull file).1 = .error failure := rfl
  have hold : fileAt host file = some old := by decide +kernel
  have hkept := refused_write_keeps_file hhome below key
  have hlost := refused_write_keeps_file hhome file key
  have htaken : fileAt (onFull file).2 file = some [0x5B, 0x30, 0x2C] := by
    rcases hlost.1 full failure (onFull file).2 (Prod.ext hfull rfl) with hsame |
      ⟨p, count, -, hfault, hpart⟩
    · have hchanged : fileAt (onFull file).2 file ≠ fileAt host file := by decide +kernel
      exact absurd hsame hchanged
    · rw [hpart, ← (Prod.mk.inj (Option.some.inj hfault)).1]
      decide +kernel
  have hrefused := (hkept.2 .sound wallet hother).1 _ hbelow
  have hsame : outcome below = stored below := hrefused.1
  have hnone : fileAt (stored below).2 below = none := by
    rw [← hsame]
    exact hrefused.2.trans rfl
  exact ⟨hhome, hother, ⟨hbelow, hnone, hsame⟩, hold, ⟨hfull, htaken⟩, hfile,
    (hlost.2 .sound wallet hother).2 _ hfile⟩

/-- Two ways to lose a key. A wallet in the place of its key is refused, and the key that was in the
file is gone; where there was no file, there is one. A private key that does not fit on the device
leaves a file in which there is neither the old key nor the new one. -/
theorem failed_write_loses_key :
    let key : PrivateKey := ⟨Bytes.zeros 64, Bytes.length_zeros 64⟩
    let host : Host := ((write (.text "k") (.privateKey key)).outcome {}).2
    let failure : Failure := .raiseSystem .system (.int 28) (.text "No space left on device") []
    let full : Device := fun _ _ => some (0, failure)
    let outcome (path : Value) := (write path (.wallet (.privateKey key))).outcome host
    let onFull := (writeOn full (.text "k") (.privateKey .mismatched)).outcome host
    fileAt host (.text "k") = some (fileText key) ∧
      ((outcome (.text "k")).1 = .error .noAttribute ∧
        fileAt (outcome (.text "k")).2 (.text "k") = some []) ∧
      ((outcome (.text "new")).1 = .error .noAttribute ∧ fileAt host (.text "new") = none ∧
        fileAt (outcome (.text "new")).2 (.text "new") = some []) ∧
      onFull.1 = .error failure ∧ fileAt onFull.2 (.text "k") = some [] := by
  intro key host failure full outcome onFull
  exact ⟨by decide +kernel, ⟨rfl, by decide +kernel⟩, ⟨rfl, by decide +kernel, by decide +kernel⟩,
    rfl, by decide +kernel⟩

end Keygen
end LedgerKeys
