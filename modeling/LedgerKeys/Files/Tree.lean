/-
# Trees of files

A directory holds named entries, which are directories and files. A place in a tree is an entry
together with the directories above it, so one can go down to an entry, up again, and put another
entry in its stead; `rebuild` gives the tree that this leaves.

A path is followed name by name: each step needs a directory to start from, a name that is not too
long and, but for the last name of what is to be created, an entry of that name.

A tree also knows where in it the working directory is. Paths from there and paths from the root may
spell the same file. Links are left out: but for going up, each entry has one name in one directory.
-/
import LedgerKeys.Files.Fault
import LedgerKeys.Files.Path

namespace LedgerKeys

/-! ## 1. Entries -/

/-- A directory or a file. -/
inductive FileNode where
  | directory (entries : List (FileName × FileNode))
  | file (content : Bytes)
  deriving Inhabited

namespace FileNode

/-- The directory without entries. -/
def emptyDirectory : FileNode := directory []

/-- Whether the node is a directory. -/
def isDirectory : FileNode → Bool
  | directory _ => true
  | file _ => false

/-- The entry of a name. -/
def child? (name : FileName) : FileNode → Option FileNode
  | directory entries => (entries.find? fun e => e.1 = name).map (·.2)
  | file _ => none

/-- The entries with that of a name set: in its old place, or at the end. -/
def setEntry (name : FileName) (node : FileNode) :
    List (FileName × FileNode) → List (FileName × FileNode)
  | [] => [(name, node)]
  | e :: rest => if e.1 = name then (name, node) :: rest else e :: setEntry name node rest

/-- The directory with the entry of a name set. -/
def setChild (parent : FileNode) (name : FileName) (node : FileNode) : FileNode :=
  match parent with
  | directory entries => directory (setEntry name node entries)
  | file content => file content

/-- The entry that is set is the one found. -/
theorem child?_setChild_self (name : FileName) (node : FileNode)
    (entries : List (FileName × FileNode)) :
    ((directory entries).setChild name node).child? name = some node := by
  simp only [setChild, child?]
  induction entries with
  | nil => simp [setEntry]
  | cons e rest ih =>
    unfold setEntry
    split <;> simp_all

/-- Setting an entry leaves those of other names as they are. -/
theorem child?_setChild_of_ne {name other : FileName} (h : other ≠ name)
    (parent node : FileNode) :
    (parent.setChild name node).child? other = parent.child? other := by
  cases parent with
  | file _ => rfl
  | directory entries =>
    simp only [setChild, child?]
    congr 1
    induction entries with
    | nil => simp [setEntry, Ne.symm h]
    | cons e rest ih =>
      unfold setEntry
      split
      · simp_all [Ne.symm h]
      · simp [List.find?_cons, ih]

/-- The node that names lead to, without going up. -/
def at? : List FileName → FileNode → Option FileNode
  | [], node => some node
  | name :: rest, node => (node.child? name).bind (at? rest)

/-- The directory that has nothing below it but an empty one, which these names lead to. -/
def pathTo : List FileName → FileNode
  | [] => emptyDirectory
  | name :: rest => directory [(name, pathTo rest)]

end FileNode

/-! ## 2. Places -/

/-- A node with the directories above it, the nearest first, each with the name that leads down. -/
structure Place where
  node : FileNode
  above : List (FileName × FileNode)

namespace Place

/-- The place one directory up; the root lies below itself. -/
def up (p : Place) : Place :=
  match p.above with
  | [] => p
  | (_, parent) :: rest => ⟨parent, rest⟩

/-- The place of an entry. -/
def down? (p : Place) (name : FileName) : Option Place :=
  (p.node.child? name).map fun child => ⟨child, (name, p.node) :: p.above⟩

/-- The root after another node is put in a place. -/
def rebuild (node : FileNode) : List (FileName × FileNode) → FileNode
  | [] => node
  | (name, parent) :: rest => rebuild (parent.setChild name node) rest

/-- The root after another node is put in this place. -/
def replace (p : Place) (node : FileNode) : FileNode := rebuild node p.above

end Place

/-- A tree of files, given by its root and the names that lead from there to the working
directory. -/
structure FileTree where
  root : FileNode
  home : List FileName

namespace FileTree

/-- The tree of nothing but its working directory, which has no entries. -/
def blank (home : List FileName) : FileTree := ⟨.pathTo home, home⟩

/-- The tree that a session starts from, unless it is told another one. -/
def empty : FileTree := blank [FileName.ofText "tmp", FileName.ofText "work"]

/-- The place of the working directory. -/
def start (tree : FileTree) : Place :=
  tree.home.foldl (fun p name => (p.down? name).getD ⟨.emptyDirectory, (name, p.node) :: p.above⟩)
    ⟨tree.root, []⟩

/-! ## 3. Following a path -/

/-- The most bytes of a name. -/
def nameLimit : Nat := 255

/-- The most bytes of a path. -/
def pathLimit : Nat := 4095

/-- The name that leads one directory up. -/
def up : FileName := [0x2E, 0x2E]

/-- What a path leads to: a place, or a name in a directory that has no such entry. -/
inductive Target where
  | existing (place : Place)
  | fresh (parent : Place) (name : FileName)

/-- What one name leads to from a place. -/
def step (here : Place) (name : FileName) : Except FileFault Target :=
  if !here.node.isDirectory then .error .notDirectory
  else if name = up then .ok (.existing here.up)
  else if nameLimit < name.length then .error .nameTooLong
  else match here.down? name with
    | some place => .ok (.existing place)
    | none => .ok (.fresh here name)

/-- What names lead to from a place. Only the last one may be fresh. -/
def walk (here : Place) : List FileName → Except FileFault Target
  | [] => .ok (.existing here)
  | [name] => step here name
  | name :: rest =>
    match step here name with
    | .ok (.existing next) => walk next rest
    | .ok (.fresh _ _) => .error .missing
    | .error fault => .error fault

/-- What a path leads to. -/
def locate (tree : FileTree) (p : FilePath) : Except FileFault Target :=
  if pathLimit < (FileName.ofText p.toText).length then .error .nameTooLong
  else walk (if p.rooted then ⟨tree.root, []⟩ else tree.start) p.fileNames

/-- The node that a path leads to. -/
def look (tree : FileTree) (p : FilePath) : Except FileFault FileNode := do
  match ← tree.locate p with
  | .existing place => .ok place.node
  | .fresh _ _ => .error .missing

/-! ## 4. Reading and changing -/

/-- The bytes of a file. -/
def read (tree : FileTree) (p : FilePath) : Except FileFault Bytes := do
  match ← tree.look p with
  | .directory _ => .error .isDirectory
  | .file content => .ok content

/-- The tree with a new directory. -/
def makeDirectory (tree : FileTree) (p : FilePath) : Except FileFault FileTree := do
  match ← tree.locate p with
  | .existing _ => .error .occupied
  | .fresh parent name =>
    .ok { tree with root := parent.replace (parent.node.setChild name .emptyDirectory) }

/-- The tree with a file of this content, new or in place of the old one. -/
def write (tree : FileTree) (p : FilePath) (content : Bytes) : Except FileFault FileTree := do
  match ← tree.locate p with
  | .existing place =>
    if place.node.isDirectory then .error .isDirectory
    else .ok { tree with root := place.replace (.file content) }
  | .fresh parent name =>
    .ok { tree with root := parent.replace (parent.node.setChild name (.file content)) }

/-! ## 5. Listing -/

mutual

/-- The paths below a node whose own path, with a slash at the end, is `stem`; of a directory also
that path itself. -/
def pathsBelow (stem : Text) : FileNode → List Text
  | .file _ => []
  | .directory entries => pathsOfEntries stem entries

/-- The paths of entries and of what is below them. -/
def pathsOfEntries (stem : Text) : List (FileName × FileNode) → List Text
  | [] => []
  | (name, node) :: rest =>
    let path := stem ++ FileName.toText name
    (match node with
      | .file _ => [path]
      | .directory entries =>
        (path ++ [FilePath.slash]) :: pathsOfEntries (path ++ [FilePath.slash]) entries) ++
      pathsOfEntries stem rest

end

/-- Order of texts by their code points. -/
def textLe : Text → Text → Bool
  | [], _ => true
  | _ :: _, [] => false
  | a :: s, b :: t => a < b || (a == b && textLe s t)

/-- The paths of all entries of the working directory in order, those of directories with a slash
at the end. -/
def listing (tree : FileTree) : List Text :=
  (pathsBelow [] tree.start.node).mergeSort textLe

end FileTree
end LedgerKeys
