/-
# What calls act on and leave behind

An operation may read and change files, report events, ask a caller's curve check about a digest
and a caller's entropy source for bytes. `Host` is what all of that leaves behind, and an `Effect`
is an operation on it. A refused operation leaves behind what it did before the refusal.

A caller's function may answer differently each time it is called. A curve check is therefore a
function of the digests asked before and of the one asked now.
-/
import LedgerKeys.Event
import LedgerKeys.Failure.Basic
import LedgerKeys.Files.Tree

namespace LedgerKeys

/-- The files, and in order of occurrence the events reported, the digests that a curve check was
asked about, and the numbers of bytes that an entropy source was asked for. -/
structure Host where
  files : FileTree := .empty
  log : List Event := []
  digests : List Bytes := []
  requests : List Nat := []

/-- An operation on the host that may be refused. -/
abbrev Effect := ExceptT Failure (StateM Host)

/-- A caller's answer to whether a digest is on the curve, given the digests asked before. -/
abbrev CurveCheck := List Bytes → Bytes → Except Failure Bool

/-- A caller's source of random bytes: the answer to a request for so many of them. -/
abbrev EntropySource := Nat → Except Failure Value

namespace Effect

/-- The outcome of an operation and the host that it leaves. -/
def outcome {α : Type} (action : Effect α) (host : Host) : Except Failure α × Host :=
  (action.run).run host

/-- A result that needs no host. -/
def ofExcept {α : Type} : Except Failure α → Effect α
  | .ok a => pure a
  | .error f => throw f

/-- Reports an event. -/
def report (event : Event) : Effect Unit :=
  modify fun h => { h with log := h.log ++ [event] }

/-- Asks a curve check about a digest. -/
def askCurve (check : CurveCheck) (digest : Bytes) : Effect Bool := do
  let h ← get
  set { h with digests := h.digests ++ [digest] }
  ofExcept (check h.digests digest)

/-- Asks an entropy source for bytes. -/
def askEntropy (source : EntropySource) (count : Nat) : Effect Value := do
  modify fun h => { h with requests := h.requests ++ [count] }
  ofExcept (source count)

/-- Puts the tree of files in place that a change leaves, or refuses for the path. -/
def changeFiles (path : Text) (change : FileTree → Except FileFault FileTree) : Effect Unit := do
  let h ← get
  match change h.files with
  | .ok files => set { h with files := files }
  | .error fault => throw (.file fault path)

end Effect

/-- Turns failures of which a test holds into others. -/
def rescue {α : Type} (expected : Failure → Bool) (turn : Failure → Failure) :
    Except Failure α → Except Failure α
  | .error f => .error (if expected f then turn f else f)
  | r => r

/-- Turns failures of an operation, of which a test holds, into others. -/
def Effect.rescue {α : Type} (expected : Failure → Bool) (turn : Failure → Failure)
    (action : Effect α) : Effect α :=
  tryCatch action fun f => throw (if expected f then turn f else f)

end LedgerKeys
