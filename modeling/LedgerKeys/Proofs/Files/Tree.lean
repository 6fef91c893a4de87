/-
# Trees of files, seen from the root

A tree is seen through the entries that lists of names lead to from its root (`FileNode.view`), and
the names of its working directory (`FileTree.view`). Places, which are how a path is followed, are
the same thing seen from the inside: a place that lies in a tree (`Place.Within`) stands for its
names, and what is put there changes the view at those names and nowhere else
(`Place.Within.view_replace`).

What a path leads to is a question about the view alone (`resolve`, `locate_eq`). So making a
directory or writing a file is a change of the view at one point, and a path that leads somewhere
leads there still when entries were added (`Extends.resolve_eq_ok`).

The working directory has to be there (`FileTree.HasHome`), wherever it is. Since no entry is ever
removed and nothing changes the directory that one works in, it stays.
-/
import LedgerKeys.Files.Tree
import LedgerKeys.Proofs.Outcome
import Mathlib.Logic.Function.Basic

namespace LedgerKeys

/-! ## 1. Entries -/

/-- What names lead to: a directory, or a file with its bytes. -/
inductive Entry where
  | directory
  | file (content : Bytes)
  deriving DecidableEq

/-- The entries at and below a node by the names that lead to them. -/
abbrev Entries := List FileName → Option Entry

namespace FileNode

/-- The node without what is below it. -/
def entry : FileNode → Entry
  | directory _ => .directory
  | file content => .file content

/-- The entries at and below a node. -/
def view (node : FileNode) : Entries := fun names => (node.at? names).map entry

variable {node parent child leaf : FileNode} {name : FileName} {names tail : List FileName}

theorem isDirectory_iff : node.isDirectory = true ↔ node.entry = .directory := by
  cases node with
  | directory entries => exact ⟨fun _ => rfl, fun _ => rfl⟩
  | file content => exact ⟨fun h => (by cases h), fun h => (by cases h)⟩

theorem isDirectory_of_child? (h : parent.child? name = some child) :
    parent.isDirectory = true := by
  cases parent with
  | directory entries => rfl
  | file content => cases h

@[simp] theorem view_nil : node.view [] = some node.entry := rfl

/-- Below a node the view is that of its entry. -/
theorem view_cons_of_child? (h : node.child? name = some child) :
    node.view (name :: tail) = child.view tail := by
  rw [view, view, at?, h]
  rfl

theorem view_cons_of_no_child (h : node.child? name = none) : node.view (name :: tail) = none := by
  rw [view, at?, h]
  rfl

theorem at?_append (names tail : List FileName) (node : FileNode) :
    node.at? (names ++ tail) = (node.at? names).bind (at? tail) := by
  induction names generalizing node with
  | nil => rfl
  | cons name names ih =>
    rw [List.cons_append, at?, at?]
    cases node.child? name with
    | none => rfl
    | some child => exact ih child

/-- A node has nothing below it if it is a file or an empty directory. -/
def IsLeaf (node : FileNode) : Prop := ∀ name, node.child? name = none

theorem isLeaf_file (content : Bytes) : (file content).IsLeaf := fun _ => rfl

theorem isLeaf_emptyDirectory : emptyDirectory.IsLeaf := fun _ => rfl

/-- A leaf in place of another one changes only the entry itself. -/
theorem view_of_isLeaf (hnode : node.IsLeaf) (hleaf : leaf.IsLeaf) :
    leaf.view = Function.update node.view [] (some leaf.entry) := by
  funext names
  cases names with
  | nil => rw [Function.update_self, view_nil]
  | cons name names =>
    rw [Function.update_of_ne (List.cons_ne_nil name names), view_cons_of_no_child (hleaf name),
      view_cons_of_no_child (hnode name)]

/-- What is changed at one point below an entry is changed at one point below its directory. -/
theorem view_setChild (hparent : parent.isDirectory = true) {new : FileNode} {e : Option Entry}
    (hnew : ∀ names, new.view names =
      Function.update (fun rest => parent.view (name :: rest)) tail e names) :
    (parent.setChild name new).view = Function.update parent.view (name :: tail) e := by
  cases parent with
  | file content => cases hparent
  | directory entries =>
    funext names
    cases names with
    | nil => rw [Function.update_of_ne (List.cons_ne_nil name tail).symm]; rfl
    | cons other rest =>
      by_cases hname : other = name
      · subst hname
        rw [view_cons_of_child? (child?_setChild_self other new entries), hnew]
        by_cases htail : rest = tail
        · rw [htail, Function.update_self, Function.update_self]
        · rw [Function.update_of_ne htail,
            Function.update_of_ne fun h => htail (List.cons.inj h).2]
      · rw [Function.update_of_ne fun h => hname (List.cons.inj h).1, view, view, at?, at?,
          child?_setChild_of_ne hname]

end FileNode

/-! ## 2. Places -/

namespace Place

/-- The names that lead to a place. -/
def names (p : Place) : List FileName := (p.above.map Prod.fst).reverse

/-- The directories above a node are those of a tree, each the parent of the next. -/
def Chain (root : FileNode) : FileNode → List (FileName × FileNode) → Prop
  | node, [] => node = root
  | node, (name, parent) :: above => parent.child? name = some node ∧ Chain root parent above

/-- The place lies in the tree of a root. -/
def Within (root : FileNode) (p : Place) : Prop := Chain root p.node p.above

variable {root : FileNode} {p : Place} {name : FileName}

theorem within_root (root : FileNode) : Within root ⟨root, []⟩ := rfl

theorem names_cons (node parent : FileNode) (name : FileName)
    (above : List (FileName × FileNode)) :
    names ⟨node, (name, parent) :: above⟩ = names ⟨parent, above⟩ ++ [name] := by
  simp [names]

theorem names_up (p : Place) : p.up.names = p.names.dropLast := by
  obtain ⟨node, above⟩ := p
  cases above with
  | nil => rfl
  | cons e above =>
    obtain ⟨name, parent⟩ := e
    rw [names_cons, List.dropLast_concat]
    rfl

theorem Within.up (h : p.Within root) : p.up.Within root := by
  obtain ⟨node, above⟩ := p
  cases above with
  | nil => exact h
  | cons e above => exact h.2

theorem Within.down (h : p.Within root) {child : FileNode}
    (hchild : p.node.child? name = some child) :
    Within root ⟨child, (name, p.node) :: p.above⟩ := ⟨hchild, h⟩

/-- A place in a tree is what its names lead to. -/
theorem Within.at? (h : p.Within root) : root.at? p.names = some p.node := by
  obtain ⟨node, above⟩ := p
  induction above generalizing node with
  | nil =>
    cases h
    rfl
  | cons e above ih =>
    obtain ⟨name, parent⟩ := e
    have hparent : root.at? (names ⟨parent, above⟩) = some parent := ih parent h.2
    rw [names_cons, FileNode.at?_append, hparent, Option.bind_some, FileNode.at?, h.1]
    rfl

theorem Within.view (h : p.Within root) (tail : List FileName) :
    root.view (p.names ++ tail) = p.node.view tail := by
  rw [FileNode.view, FileNode.view, FileNode.at?_append, h.at?]
  rfl

theorem Within.view_names (h : p.Within root) : root.view p.names = some p.node.entry := by
  have hview := h.view []
  rwa [List.append_nil] at hview

/-- **What is put in a place is seen there and nowhere else.** -/
theorem Within.view_replace (h : p.Within root) {new : FileNode} {tail : List FileName}
    {e : Option Entry} (hnew : new.view = Function.update p.node.view tail e) :
    (p.replace new).view = Function.update root.view (p.names ++ tail) e := by
  obtain ⟨node, above⟩ := p
  induction above generalizing node new tail with
  | nil =>
    cases h
    exact hnew
  | cons d above ih =>
    obtain ⟨name, parent⟩ := d
    have hdirectory := FileNode.isDirectory_of_child? h.1
    have hparent : (parent.setChild name new).view =
        Function.update parent.view (name :: tail) e := by
      refine FileNode.view_setChild hdirectory fun names => ?_
      have hbelow : (fun rest => parent.view (name :: rest)) = node.view :=
        funext fun rest => FileNode.view_cons_of_child? h.1
      rw [hnew, hbelow]
    have htop := ih parent h.2 hparent
    rw [names_cons, List.append_assoc]
    exact htop

/-- A leaf in place of another one. -/
theorem Within.view_replace_leaf (h : p.Within root) {leaf : FileNode} (hnode : p.node.IsLeaf)
    (hleaf : leaf.IsLeaf) :
    (p.replace leaf).view = Function.update root.view p.names (some leaf.entry) := by
  have hview := h.view_replace (FileNode.view_of_isLeaf hnode hleaf)
  rwa [List.append_nil] at hview

/-- A leaf where there was no entry. -/
theorem Within.view_replace_fresh (h : p.Within root) {leaf : FileNode}
    (hdirectory : p.node.isDirectory = true) (hfresh : p.node.child? name = none)
    (hleaf : leaf.IsLeaf) :
    (p.replace (p.node.setChild name leaf)).view =
      Function.update root.view (p.names ++ [name]) (some leaf.entry) := by
  refine h.view_replace (FileNode.view_setChild hdirectory fun names => ?_)
  cases names with
  | nil => rw [Function.update_self, FileNode.view_nil]
  | cons other rest =>
    rw [Function.update_of_ne (List.cons_ne_nil other rest),
      FileNode.view_cons_of_no_child (hleaf other), FileNode.view, FileNode.at?, hfresh]
    rfl

end Place

/-! ## 3. Paths one level up -/

/-- Texts that are joined come first when there are more. -/
theorem Text.join_prefix (separator t : Text) (ts : List Text) :
    Text.join separator ts <+: Text.join separator (ts ++ [t]) := by
  induction ts with
  | nil => exact List.nil_prefix
  | cons first rest ih =>
    cases rest with
    | nil => exact ⟨separator ++ t, (List.append_assoc ..).symm⟩
    | cons second rest => exact (List.prefix_append_right_inj (first ++ separator)).mpr ih

/-- The text of a path is no longer one level up, unless it is a single dot. -/
theorem FilePath.length_parent_le (p : FilePath) :
    (FileName.ofText p.parent.toText).length ≤ max 1 (FileName.ofText p.toText).length := by
  have hjoin : Text.join [slash] p.names.dropLast <+: Text.join [slash] p.names := by
    cases List.eq_nil_or_concat p.names with
    | inl hnil =>
      rw [hnil]
      exact List.prefix_rfl
    | inr hconcat =>
      obtain ⟨names, last, hnames⟩ := hconcat
      rw [hnames, List.concat_eq_append, List.dropLast_concat]
      exact Text.join_prefix _ _ _
  have hlength : ∀ s t : Text, s <+: t →
      (FileName.ofText s).length ≤ max 1 (FileName.ofText t).length := by
    rintro s _ ⟨rest, rfl⟩
    simp only [FileName.ofText, List.flatMap_append, List.length_append]
    omega
  rw [toText, toText, parent]
  cases p.rooted with
  | true => exact hlength _ _ ((List.prefix_cons_inj slash).mpr hjoin)
  | false =>
    cases hnames : p.names.dropLast with
    | nil => exact Nat.le_max_left _ _
    | cons first rest =>
      have hne : p.names.isEmpty = false := by
        cases hall : p.names with
        | nil =>
          rw [hall] at hnames
          cases hnames
        | cons name names => rfl
      rw [hnames] at hjoin
      simp only [hne, List.isEmpty_cons, Bool.false_eq_true, if_false]
      exact hlength _ _ hjoin

/-! ## 4. What a path leads to -/

/-- What is seen of a tree: its entries from the root, and the names of the working directory. -/
structure TreeView where
  entries : Entries
  home : List FileName

namespace TreeView

instance : CoeFun TreeView fun _ => Entries := ⟨entries⟩

/-- The view with one entry set. -/
def set (v : TreeView) (names : List FileName) (e : Entry) : TreeView :=
  { v with entries := Function.update v.entries names (some e) }

variable {v : TreeView} {names other : List FileName} {e : Entry}

@[simp] theorem set_self : v.set names e names = some e := Function.update_self ..

theorem set_of_ne (h : other ≠ names) : v.set names e other = v other :=
  Function.update_of_ne h ..

end TreeView

namespace FileTree

/-- What is seen of a tree. -/
def view (tree : FileTree) : TreeView := ⟨tree.root.view, tree.home⟩

theorem view_eq (tree : FileTree) (names : List FileName) :
    tree.view names = tree.root.view names := rfl

/-- The names that one more name leads to. -/
def stepNames (v : Entries) (here : List FileName) (name : FileName) :
    Except FileFault (List FileName) :=
  if v here ≠ some .directory then .error .notDirectory
  else if name = up then .ok here.dropLast
  else if nameLimit < name.length then .error .nameTooLong
  else .ok (here ++ [name])

/-- The names that several more lead to. All but the last have to lead to entries. -/
def walkNames (v : Entries) (here : List FileName) :
    List FileName → Except FileFault (List FileName)
  | [] => .ok here
  | [name] => stepNames v here name
  | name :: rest =>
    match stepNames v here name with
    | .ok next => if (v next).isSome then walkNames v next rest else .error .missing
    | .error fault => .error fault

/-- The names that a path leads to from the root. -/
def resolve (v : TreeView) (p : FilePath) : Except FileFault (List FileName) :=
  if pathLimit < (FileName.ofText p.toText).length then .error .nameTooLong
  else walkNames v (if p.rooted then [] else v.home) p.fileNames

/-- The working directory is there. -/
def HasHome (tree : FileTree) : Prop := (tree.view tree.home).isSome = true

theorem hasHome_blank (home : List FileName) : (blank home).HasHome := by
  change ((FileNode.pathTo home).view home).isSome = true
  induction home with
  | nil => rfl
  | cons name rest ih =>
    have hchild : (FileNode.pathTo (name :: rest)).child? name = some (.pathTo rest) := by
      simp [FileNode.pathTo, FileNode.child?]
    rw [FileNode.view_cons_of_child? hchild]
    exact ih

namespace Target

/-- The names that lead to what a path leads to. -/
def names : Target → List FileName
  | existing place => place.names
  | fresh parent name => parent.names ++ [name]

/-- The entry that is there already. -/
def entry? : Target → Option Entry
  | existing place => some place.node.entry
  | fresh _ _ => none

/-- The target lies in the tree of a root: an entry of it, or a place for one. -/
def Within (root : FileNode) : Target → Prop
  | existing place => place.Within root
  | fresh parent name =>
    parent.Within root ∧ parent.node.isDirectory = true ∧ parent.node.child? name = none

variable {root : FileNode} {t : Target}

/-- The view tells whether there is an entry. -/
theorem Within.view (h : t.Within root) : root.view t.names = t.entry? := by
  cases t with
  | existing place => exact Place.Within.view_names h
  | fresh parent name => rw [names, h.1.view, FileNode.view_cons_of_no_child h.2.2, entry?]

end Target

variable {root : FileNode} {here : Place}

theorem within_step (h : here.Within root) {name : FileName} {t : Target}
    (hstep : step here name = .ok t) : t.Within root := by
  rw [step] at hstep
  split at hstep
  · cases hstep
  · next hdirectory =>
    split at hstep
    · cases hstep
      exact h.up
    · split at hstep
      · cases hstep
      · cases hchild : here.node.child? name with
        | none =>
          rw [Place.down?, hchild] at hstep
          cases hstep
          exact ⟨h, by simpa using hdirectory, hchild⟩
        | some child =>
          rw [Place.down?, hchild] at hstep
          cases hstep
          exact h.down hchild

theorem step_names (h : here.Within root) (name : FileName) :
    (step here name).map Target.names = stepNames root.view here.names name := by
  rw [step, stepNames, h.view_names]
  by_cases hdirectory : here.node.isDirectory = true
  · have hentry : ¬ some here.node.entry ≠ some .directory :=
      not_not.mpr (congrArg some (FileNode.isDirectory_iff.mp hdirectory))
    rw [if_neg (by simp [hdirectory]), if_neg hentry]
    split
    · exact congrArg Except.ok (Place.names_up here)
    · split
      · rfl
      · cases hchild : here.node.child? name with
        | none =>
          rw [Place.down?, hchild]
          rfl
        | some child =>
          rw [Place.down?, hchild]
          exact congrArg Except.ok (Place.names_cons child here.node name here.above)
  · have hentry : some here.node.entry ≠ some .directory := fun h =>
      hdirectory (FileNode.isDirectory_iff.mpr (Option.some.inj h))
    rw [if_pos (by simpa using hdirectory), if_pos hentry]
    rfl

/-- **Following names from a place in a tree is a question about the view.** -/
theorem walk_spec (h : here.Within root) (names : List FileName) :
    (walk here names).map Target.names = walkNames root.view here.names names ∧
      ∀ t, walk here names = .ok t → t.Within root := by
  induction names generalizing here with
  | nil =>
    refine ⟨rfl, fun t ht => ?_⟩
    cases ht
    exact h
  | cons name rest ih =>
    cases rest with
    | nil => exact ⟨step_names h name, fun t ht => within_step h ht⟩
    | cons second rest =>
      have hnames := step_names h name
      rw [walk, walkNames, ← hnames]
      · cases hstep : step here name with
        | error fault => exact ⟨rfl, fun t ht => (by cases ht)⟩
        | ok t =>
          have hwithin := within_step h hstep
          have hview := hwithin.view
          cases t with
          | existing next =>
            have hsome : (root.view next.names).isSome = true := congrArg Option.isSome hview
            simp only [Except.map, Target.names, if_pos hsome]
            exact ih hwithin
          | fresh parent last =>
            have hnone : ¬ (root.view (parent.names ++ [last])).isSome = true := by
              rw [Bool.not_eq_true]
              exact congrArg Option.isSome hview
            simp only [Except.map, Target.names, if_neg hnone]
            exact ⟨trivial, fun t ht => (by cases ht)⟩
      · simp
      · simp

variable {tree after : FileTree} {p : FilePath} {names : List FileName} {content : Bytes}

/-- Going down names that lead to an entry ends at the place with these names. -/
theorem within_foldl_down (h : here.Within root)
    (hsome : (root.view (here.names ++ names)).isSome = true) :
    let place := names.foldl
      (fun p name => (p.down? name).getD ⟨.emptyDirectory, (name, p.node) :: p.above⟩) here
    place.Within root ∧ place.names = here.names ++ names := by
  induction names generalizing here with
  | nil => exact ⟨h, (List.append_nil _).symm⟩
  | cons name rest ih =>
    rw [h.view] at hsome
    cases hchild : here.node.child? name with
    | none =>
      rw [FileNode.view_cons_of_no_child hchild] at hsome
      cases hsome
    | some child =>
      have hnames := Place.names_cons child here.node name here.above
      have hbelow : (root.view
          (Place.names ⟨child, (name, here.node) :: here.above⟩ ++ rest)).isSome = true := by
        rwa [(h.down hchild).view, ← FileNode.view_cons_of_child? hchild]
      have hplace := ih (h.down hchild) hbelow
      rw [hnames, List.append_assoc] at hplace
      rw [List.foldl_cons, Place.down?, hchild]
      exact hplace

theorem within_start (h : tree.HasHome) :
    tree.start.Within tree.root ∧ tree.start.names = tree.home := by
  have hhome : (tree.root.view (Place.names ⟨tree.root, []⟩ ++ tree.home)).isSome = true := h
  exact within_foldl_down (Place.within_root tree.root) hhome

/-- **What a path leads to is a question about the view.** -/
theorem locate_spec (h : tree.HasHome) (p : FilePath) :
    (tree.locate p).map Target.names = resolve tree.view p ∧
      ∀ t, tree.locate p = .ok t → t.Within tree.root := by
  rw [locate, resolve]
  split
  · exact ⟨rfl, fun t ht => (by cases ht)⟩
  · cases p.rooted with
    | true => exact walk_spec (Place.within_root tree.root) p.fileNames
    | false =>
      obtain ⟨hwithin, hnames⟩ := within_start h
      have hwalk := walk_spec hwithin p.fileNames
      rw [hnames] at hwalk
      exact hwalk

theorem exists_target_of_resolve (h : tree.HasHome) (hp : resolve tree.view p = .ok names) :
    ∃ t, tree.locate p = .ok t ∧ t.Within tree.root ∧ t.names = names := by
  obtain ⟨hnames, hwithin⟩ := locate_spec h p
  rw [hp] at hnames
  obtain ⟨t, ht, rfl⟩ := except_map_eq_ok.mp hnames
  exact ⟨t, ht, hwithin t ht, rfl⟩

theorem resolve_of_locate (h : tree.HasHome) {t : Target} (ht : tree.locate p = .ok t) :
    resolve tree.view p = .ok t.names ∧ t.Within tree.root := by
  obtain ⟨hnames, hwithin⟩ := locate_spec h p
  rw [ht] at hnames
  exact ⟨hnames.symm, hwithin t ht⟩

/-- The last step of a walk is one from a directory, to which the names before lead. -/
theorem walkNames_concat {v : Entries} {here target : List FileName} {last : FileName}
    (hwalk : walkNames v here (names ++ [last]) = .ok target) :
    ∃ above, walkNames v here names = .ok above ∧ v above = some .directory := by
  induction names generalizing here with
  | nil =>
    refine ⟨here, rfl, ?_⟩
    rw [List.nil_append, walkNames, stepNames] at hwalk
    by_cases hdirectory : v here = some .directory
    · exact hdirectory
    · rw [if_pos hdirectory] at hwalk
      cases hwalk
  | cons name rest ih =>
    rw [List.cons_append, walkNames] at hwalk
    · cases hstep : stepNames v here name with
      | error fault =>
        rw [hstep] at hwalk
        cases hwalk
      | ok next =>
        rw [hstep] at hwalk
        dsimp only at hwalk
        by_cases hsome : (v next).isSome = true
        · rw [if_pos hsome] at hwalk
          obtain ⟨above, habove, hdirectory⟩ := ih hwalk
          refine ⟨above, ?_, hdirectory⟩
          cases rest with
          | nil =>
            cases habove
            exact hstep
          | cons second rest =>
            rw [walkNames, hstep]
            · dsimp only
              rw [if_pos hsome]
              exact habove
            · simp
        · rw [if_neg hsome] at hwalk
          cases hwalk
    · simp

/-- A path that leads somewhere has a directory above it. -/
theorem resolve_parent {v : TreeView} (hp : resolve v p = .ok names) (hne : p.names ≠ []) :
    ∃ above, resolve v p.parent = .ok above ∧ v above = some .directory := by
  have hnames : p.parent.fileNames ++ [FileName.ofText (p.names.getLast hne)] = p.fileNames := by
    rw [FilePath.fileNames, FilePath.fileNames, FilePath.parent, ← List.map_singleton,
      ← List.map_append, List.dropLast_concat_getLast]
  rw [resolve] at hp ⊢
  by_cases hlong : pathLimit < (FileName.ofText p.toText).length
  · rw [if_pos hlong] at hp
    cases hp
  · have hshort : ¬ pathLimit < (FileName.ofText p.parent.toText).length := by
      have hle := p.length_parent_le
      simp only [pathLimit] at hlong ⊢
      omega
    rw [if_neg hlong, ← hnames] at hp
    rw [if_neg hshort]
    exact walkNames_concat hp

/-! ## 5. Reading and changing -/

theorem look_of_view (h : tree.HasHome) (hp : resolve tree.view p = .ok names) {e : Entry}
    (he : tree.view names = some e) : ∃ node, tree.look p = .ok node ∧ node.entry = e := by
  obtain ⟨t, ht, hwithin, rfl⟩ := exists_target_of_resolve h hp
  have hview : t.entry? = some e := hwithin.view.symm.trans he
  rw [look, ht]
  cases t with
  | existing place => exact ⟨place.node, rfl, Option.some.inj hview⟩
  | fresh parent name => cases hview

/-- A file is read if it is what the path leads to. -/
theorem read_of_view (h : tree.HasHome) (hp : resolve tree.view p = .ok names)
    (hfile : tree.view names = some (.file content)) : tree.read p = .ok content := by
  obtain ⟨node, hlook, hnode⟩ := look_of_view h hp hfile
  rw [read, hlook]
  cases node with
  | directory entries => cases hnode
  | file content' =>
    cases hnode
    rfl

/-- **A file is read exactly if it is what the path leads to.** -/
theorem read_eq_ok_iff (h : tree.HasHome) :
    tree.read p = .ok content ↔
      ∃ names, resolve tree.view p = .ok names ∧ tree.view names = some (.file content) := by
  constructor
  · intro hread
    obtain ⟨node, hlook, hnode⟩ := except_bind_eq_ok.mp hread
    obtain ⟨t, ht, htarget⟩ := except_bind_eq_ok.mp hlook
    obtain ⟨hp, hwithin⟩ := resolve_of_locate h ht
    cases t with
    | fresh parent name => cases htarget
    | existing place =>
      cases htarget
      refine ⟨place.names, hp, ?_⟩
      cases hplace : place.node with
      | directory entries =>
        rw [hplace] at hnode
        cases hnode
      | file content' =>
        rw [hplace] at hnode
        cases hnode
        rw [view_eq, Place.Within.view_names hwithin, hplace]
        rfl
  · rintro ⟨names, hp, hfile⟩
    exact read_of_view h hp hfile

/-- No directory is made where a path leads to one. -/
theorem makeDirectory_of_view (h : tree.HasHome) (hp : resolve tree.view p = .ok names)
    {e : Entry} (he : tree.view names = some e) : tree.makeDirectory p = .error .occupied := by
  obtain ⟨t, ht, hwithin, rfl⟩ := exists_target_of_resolve h hp
  have hview : t.entry? = some e := hwithin.view.symm.trans he
  rw [makeDirectory, ht]
  cases t with
  | existing place => rfl
  | fresh parent name => cases hview

/-- **Making a directory adds one entry**, where there was none. -/
theorem makeDirectory_spec (h : tree.HasHome) (hafter : tree.makeDirectory p = .ok after) :
    ∃ names, resolve tree.view p = .ok names ∧ tree.view names = none ∧
      after.view = tree.view.set names .directory := by
  rw [makeDirectory, except_bind_eq_ok] at hafter
  obtain ⟨t, ht, hafter⟩ := hafter
  obtain ⟨hp, hwithin⟩ := resolve_of_locate h ht
  refine ⟨t.names, hp, ?_⟩
  cases t with
  | existing place => cases hafter
  | fresh parent name =>
    cases hafter
    exact ⟨hwithin.view, congrArg (TreeView.mk · tree.home)
      (hwithin.1.view_replace_fresh hwithin.2.1 hwithin.2.2 FileNode.isLeaf_emptyDirectory)⟩

/-- What is left of writing to a target. -/
theorem write_target {t : Target} (hwithin : t.Within tree.root) (ht : tree.locate p = .ok t)
    (hentry : t.entry? ≠ some .directory) (content : Bytes) :
    ∃ after, tree.write p content = .ok after ∧
      after.view = tree.view.set t.names (.file content) := by
  rw [write, ht]
  cases t with
  | existing place =>
    have hplace : place.Within tree.root := hwithin
    cases hnode : place.node with
    | directory entries => exact absurd (by rw [Target.entry?, hnode]; rfl) hentry
    | file old =>
      have hleaf : place.node.IsLeaf := by
        rw [hnode]
        exact FileNode.isLeaf_file old
      refine ⟨⟨place.replace (.file content), tree.home⟩, ?_, congrArg (TreeView.mk · tree.home)
        (hplace.view_replace_leaf hleaf (FileNode.isLeaf_file content))⟩
      simp only [bind, Except.bind, hnode, FileNode.isDirectory, Bool.false_eq_true, if_false]
  | fresh parent name =>
    exact ⟨_, rfl, congrArg (TreeView.mk · tree.home)
      (hwithin.1.view_replace_fresh hwithin.2.1 hwithin.2.2 (FileNode.isLeaf_file content))⟩

/-- **Writing changes one entry**, which is a file already or not there yet. -/
theorem write_spec (h : tree.HasHome) (hafter : tree.write p content = .ok after) :
    ∃ names, resolve tree.view p = .ok names ∧ tree.view names ≠ some .directory ∧
      after.view = tree.view.set names (.file content) := by
  have hlocate := hafter
  rw [write, except_bind_eq_ok] at hlocate
  obtain ⟨t, ht, hchange⟩ := hlocate
  obtain ⟨hp, hwithin⟩ := resolve_of_locate h ht
  have hentry : t.entry? ≠ some .directory := by
    cases t with
    | existing place =>
      intro hdirectory
      dsimp only at hchange
      rw [if_pos (FileNode.isDirectory_iff.mpr (Option.some.inj hdirectory))] at hchange
      cases hchange
    | fresh parent name => exact fun hdirectory => (by cases hdirectory)
  obtain ⟨after', hafter', hview⟩ := write_target hwithin ht hentry content
  rw [hafter] at hafter'
  cases hafter'
  refine ⟨t.names, hp, ?_, hview⟩
  rw [view_eq, hwithin.view]
  exact hentry

/-- A path that leads to no directory can be written to. -/
theorem write_of_view (h : tree.HasHome) (hp : resolve tree.view p = .ok names)
    (hfile : tree.view names ≠ some .directory) (content : Bytes) :
    ∃ after, tree.write p content = .ok after ∧
      after.view = tree.view.set names (.file content) := by
  obtain ⟨t, ht, hwithin, rfl⟩ := exists_target_of_resolve h hp
  rw [view_eq, hwithin.view] at hfile
  exact write_target hwithin ht hfile content

/-! ## 6. Growing trees -/

/-- Nothing was removed: entries stay, directories stay directories, and so does the one that is
worked in. -/
structure Extends (v v' : TreeView) : Prop where
  home : v'.home = v.home
  directory : ∀ names, v names = some .directory → v' names = some .directory
  isSome : ∀ names, (v names).isSome = true → (v' names).isSome = true

section Extends

variable {v v' : TreeView}

/-- An entry may be added, and a file may be replaced. -/
theorem extends_set (e : Entry) (h : v names ≠ some .directory) : Extends v (v.set names e) := by
  refine ⟨rfl, ?_, ?_⟩
  · intro other hother
    rw [TreeView.set_of_ne]
    · exact hother
    · rintro rfl
      exact h hother
  · intro other hother
    by_cases hne : other = names
    · rw [hne, TreeView.set_self]
      rfl
    · rwa [TreeView.set_of_ne hne]

theorem Extends.stepNames (h : Extends v v') {here target : List FileName} {name : FileName}
    (hstep : stepNames v here name = .ok target) : stepNames v' here name = .ok target := by
  rw [FileTree.stepNames] at hstep ⊢
  by_cases hdirectory : v here = some .directory
  · rw [if_neg (not_not.mpr hdirectory)] at hstep
    rw [if_neg (not_not.mpr (h.directory here hdirectory))]
    exact hstep
  · rw [if_pos hdirectory] at hstep
    cases hstep

theorem Extends.walkNames (h : Extends v v') {here target : List FileName}
    (hwalk : walkNames v here names = .ok target) : walkNames v' here names = .ok target := by
  induction names generalizing here with
  | nil => exact hwalk
  | cons name rest ih =>
    cases rest with
    | nil => exact h.stepNames hwalk
    | cons second rest =>
      rw [FileTree.walkNames] at hwalk ⊢
      · cases hstep : FileTree.stepNames v here name with
        | error fault =>
          rw [hstep] at hwalk
          cases hwalk
        | ok next =>
          rw [hstep] at hwalk
          rw [h.stepNames hstep]
          dsimp only at hwalk ⊢
          split at hwalk
          · next hsome =>
            rw [if_pos (h.isSome next hsome)]
            exact ih hwalk
          · cases hwalk
      · simp
      · simp

/-- **Where a path leads, it leads still.** -/
theorem Extends.resolve (h : Extends v v') (hp : resolve v p = .ok names) :
    resolve v' p = .ok names := by
  rw [FileTree.resolve] at hp ⊢
  split at hp
  · cases hp
  · next hshort =>
    rw [if_neg hshort, h.home]
    exact h.walkNames hp

theorem HasHome.of_extends (h : tree.HasHome) (hextends : Extends tree.view after.view) :
    after.HasHome := by
  have hhome : after.home = tree.home := hextends.home
  rw [HasHome, hhome]
  exact hextends.isSome tree.home h

end Extends

end FileTree
end LedgerKeys
