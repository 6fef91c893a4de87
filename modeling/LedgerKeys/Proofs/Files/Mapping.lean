/-
# Trees with other bytes in their files

Nothing that follows a path or changes an entry looks into a file. So replacing the bytes of every
file by a function of them (`FileTree.mapFiles`) may be done before or after: each operation on
trees has an equation that says so. Only reading a file shows the difference, and it shows just
that the bytes are the other ones.
-/
import LedgerKeys.Files.Tree
import Mathlib.Tactic.SplitIfs

namespace LedgerKeys

/-! ## 1. Entries -/

namespace FileNode

variable (f : Bytes → Bytes)

mutual

/-- The node with the bytes of every file replaced. -/
def mapFiles : FileNode → FileNode
  | .directory entries => .directory (mapEntries entries)
  | .file content => .file (f content)

/-- The entries with the bytes of every file replaced. -/
def mapEntries : List (FileName × FileNode) → List (FileName × FileNode)
  | [] => []
  | (name, node) :: rest => (name, mapFiles node) :: mapEntries rest

end

end FileNode

/-! ## 2. Places -/

namespace Place

variable (f : Bytes → Bytes)

/-- The same place in the tree with the bytes of every file replaced. -/
def mapFiles (p : Place) : Place := ⟨p.node.mapFiles f, FileNode.mapEntries f p.above⟩

end Place

/-! ## 3. What a path leads to -/

namespace FileTree

variable (f : Bytes → Bytes)

/-- The tree with the bytes of every file replaced. -/
def mapFiles (tree : FileTree) : FileTree := { tree with root := tree.root.mapFiles f }

/-- What a path leads to in the tree with the bytes of every file replaced. -/
def Target.mapFiles : Target → Target
  | existing place => .existing (place.mapFiles f)
  | fresh parent name => .fresh (parent.mapFiles f) name

end FileTree
end LedgerKeys
