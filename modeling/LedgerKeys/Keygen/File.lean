/-
# Keygen files

Writing a key makes the directories that its path is missing, empties the file and then fills it.
The key is turned into text only after the file was emptied, so a value that is no private key
leaves an empty file behind. Reading changes nothing.

The device that a file is on may fail when the file is filled, for want of space or for a reason of
its own; then the file holds what was taken so far. What else a system can refuse is left out:
permissions, and devices that fail before a file is open or when it is read.
-/
import LedgerKeys.Keygen.Format

namespace LedgerKeys
namespace Keygen

/-! ## 1. Paths -/

/-- The path that a value spells. -/
def pathOf : Value → Except Failure FilePath
  | .text t => .ok (FilePath.ofText t)
  | .path t => .ok (FilePath.ofText t)
  | _ => .error .wrongType

/-- Why the system cannot be asked about a path at all. -/
def pathFailure? (t : Text) : Option Failure :=
  match FileName.fault? t with
  | some fault => some (.encoding fault)
  | none => if t.contains 0 then some .nullInPath else none

/-- Refuses a path that the system cannot be asked about. -/
def wantNameable (p : FilePath) : Effect Unit :=
  match pathFailure? p.toText with
  | some f => throw f
  | none => pure ()

/-! ## 2. Directories -/

/-- Makes one directory. -/
def makeDirectory (p : FilePath) : Effect Unit := do
  wantNameable p
  Effect.changeFiles p.toText (·.makeDirectory p)

/-- Lets a failure pass if the path leads to a directory all the same. -/
def unlessDirectory (p : FilePath) (f : Failure) : Effect Unit := do
  let h ← get
  if f.isA .system && (h.files.look p matches .ok (.directory _)) then pure () else throw f

/-- The most directories that are made at once. For the host that is a matter of the stack that is
left to the recursion; a fixed number stands for it, as for documents that are nested too deeply. -/
def levelLimit : Nat := 988

/-- Makes the directory of the names, given backwards, with all those above it, in at most so many
levels. The levels are counted on the way up, before anything is made. -/
def makeDirectories (rooted : Bool) : List Text → Nat → Effect Unit
  | _, 0 => throw .tooDeep
  | [], _ + 1 => tryCatch (makeDirectory ⟨rooted, []⟩) (unlessDirectory ⟨rooted, []⟩)
  | name :: above, levels + 1 =>
    let p : FilePath := ⟨rooted, (name :: above).reverse⟩
    tryCatch (makeDirectory p) fun f =>
      if f.isA .fileMissing then do
        makeDirectories rooted above levels
        tryCatch (makeDirectory p) fun f =>
          if f.isA .fileMissing then throw f else unlessDirectory p f
      else unlessDirectory p f

/-- Makes a directory with all those above it. -/
def makePath (p : FilePath) : Effect Unit := makeDirectories p.rooted p.names.reverse levelLimit

/-- Makes the directories above a path. -/
def makeParents (p : FilePath) : Effect Unit := makePath p.parent

/-! ## 3. Files -/

/-- Puts bytes into a file, new or in place of the old one. -/
def writeBytes (p : FilePath) (content : Bytes) : Effect Unit := do
  wantNameable p
  Effect.changeFiles p.toText (·.write p content)

/-- The bytes of a file. -/
def readBytes (p : FilePath) : Effect Bytes := do
  wantNameable p
  let h ← get
  match h.files.read p with
  | .ok content => pure content
  | .error fault => throw (.file fault p.toText)

/-- Whether a path leads to anything. -/
def isPresent (p : FilePath) : Effect Bool := do
  let h ← get
  if (pathFailure? p.toText).isSome then pure false
  else match h.files.look p with
    | .ok _ => pure true
    | .error .missing | .error .notDirectory => pure false
    | .error fault => throw (.file fault p.toText)

/-- What a device does with the bytes for an open file: it takes them all, or it fails when it has
taken so many. -/
abbrev Device := FilePath → Bytes → Option (Nat × Failure)

namespace Device

/-- The device that takes everything. -/
def sound : Device := fun _ _ => none

/-- The bytes that are taken. -/
def taken (device : Device) (p : FilePath) (content : Bytes) : Bytes :=
  match device p content with
  | some (count, _) => content.take count
  | none => content

/-- Whether the device fails. -/
def verdict (device : Device) (p : FilePath) (content : Bytes) : Except Failure Unit :=
  match device p content with
  | some (_, f) => .error f
  | none => .ok ()

end Device

/-- Puts bytes into a file that was emptied, as far as its device takes them. -/
def fill (device : Device) (p : FilePath) (content : Bytes) : Effect Unit := do
  writeBytes p (device.taken p content)
  Effect.ofExcept (device.verdict p content)

/-- Stores a private key under a path and returns the path. -/
def writeOn (device : Device) (path key : Value) : Effect FilePath := do
  let p ← Effect.ofExcept (pathOf path)
  makeParents p
  writeBytes p []
  match key with
  | .privateKey k => do
    fill device p (Utf8.encodeAll (encode k.data))
    Effect.report (.wroteKey p.toText k.publicKey)
    pure p
  | _ => throw .noAttribute

/-- Stores a private key under a path on a device that does not fail. -/
def write (path key : Value) : Effect FilePath := writeOn .sound path key

/-- The private key that is stored under a path. -/
def read (path : Value) : Effect PrivateKey := do
  let p ← Effect.ofExcept (pathOf path)
  if !(← isPresent p) then throw (.keygenMissing p.toText)
  let content ← readBytes p
  let k ← Effect.ofExcept (PrivateKey.ofKeygen (.bytes content))
  Effect.report (.readKey p.toText k.publicKey)
  pure k

end Keygen
end LedgerKeys
