/-
# Sessions

The steps of a session refer to the results of earlier ones. What can change is shared: put into a
list, a map or a wallet, or taken out of a wallet, a list remains the same list, and a change of it
shows wherever it is. A session therefore keeps all that can change, and all that can contain it, in
numbered cells, and an `Item` names a cell where a `Value` would hold its content.

A cell may come to contain itself. `value` puts the contents back in their places and writes
`again` for a cell inside itself, so every item has a value. Likeness is decided on the items
instead: a cell is like itself, whatever it contains, and two cells are compared down to a depth.
-/
import LedgerKeys.Files.Tree
import LedgerKeys.Sequence

namespace LedgerKeys

open KeyList (Answer Call View)

/-! ## 1. Items and cells -/

/-- A value that holds nothing that can change, or the number of a cell. -/
inductive Item where
  | plain (v : Value)
  | cell (number : Nat)
  deriving Inhabited

/-- The content of a cell. The keys of a map cannot change. -/
inductive Cell where
  | list (ofKeys : Bool) (items : List Item)
  | tuple (items : List Item)
  | buffer (bs : Bytes)
  | map (entries : List (Value × Item))
  | wallet (content : Item)

/-- The files, the cells by their numbers and the results of the steps so far. -/
structure Session where
  files : FileTree := .empty
  cells : Array Cell := #[]
  results : Array Item := #[]

/-! ## 2. Values of items -/

namespace Cell

/-- The value of a cell's content, given those of the cells in it. -/
def value (ofCell : Nat → Value) : Cell → Value
  | list ofKeys items => (if ofKeys then Value.keyList else Value.list) (items.map ofItem)
  | tuple items => .tuple (items.map ofItem)
  | buffer bs => .buffer bs
  | map entries => .map (entries.map fun e => (e.1, ofItem e.2))
  | wallet content => .wallet (ofItem content)
where
  ofItem : Item → Value
    | .plain v => v
    | .cell number => ofCell number

/-- The value of a cell inside itself. -/
def again : Cell → Value
  | list ofKeys _ => .again (if ofKeys then .keyList else .list)
  | tuple _ => .again .tuple
  | buffer bs => .buffer bs
  | map _ => .again .map
  | wallet _ => .again .wallet

end Cell

namespace Session

/-- The value of a cell inside others, which are listed. The first argument bounds their number. -/
def valueInside (s : Session) : Nat → List Nat → Nat → Value
  | 0, _, _ => .null
  | more + 1, around, number =>
    match s.cells[number]? with
    | none => .null
    | some content =>
      if around.contains number then content.again
      else content.value (valueInside s more (number :: around))

/-- The value of an item. No more cells are around a cell than there are cells. -/
def value (s : Session) : Item → Value
  | .plain v => v
  | .cell number => s.valueInside (s.cells.size + 1) [] number

/-! ## 3. Likeness of items -/

/-- Whether a test of two elements holds in every place of two lists of the same length. -/
def allOf {α : Type} (test : α → α → Except Failure Bool) : List α → List α → Except Failure Bool
  | x :: xs, y :: ys => do if ← test x y then allOf test xs ys else pure false
  | xs, ys => .ok (xs.isEmpty && ys.isEmpty)

/-- Whether a map has a like entry for each of these. -/
def entriesIn (alike : Item → Item → Except Failure Bool) (ys : List (Value × Item)) :
    List (Value × Item) → Except Failure Bool
  | [] => .ok true
  | (key, x) :: es => do
    match key.lookUp? ys with
    | none => pure false
    | some y => if ← alike x y then entriesIn alike ys es else pure false

/-- Whether two contents are alike, given whether items are. -/
def contentsAlike (alike : Item → Item → Except Failure Bool) : Cell → Cell → Except Failure Bool
  | .list _ xs, .list _ ys | .tuple xs, .tuple ys =>
    if xs.length = ys.length then allOf alike xs ys else .ok false
  | .buffer a, .buffer b => .ok (a == b)
  | .map xs, .map ys => if xs.length = ys.length then entriesIn alike ys xs else .ok false
  | .wallet a, .wallet b => alike a b
  | _, _ => .ok false

/-- Whether two items are alike, in so many levels. -/
def alikeWithin (s : Session) : Nat → Item → Item → Except Failure Bool
  | 0, _, _ => .error .tooDeep
  | levels + 1, .cell m, .cell n =>
    if m = n then .ok true
    else match s.cells[m]?, s.cells[n]? with
      | some a, some b => contentsAlike (alikeWithin s levels) a b
      | _, _ => .ok false
  | _ + 1, a, b => .ok ((s.value a).alike (s.value b))

/-- The most levels of a comparison, a fixed number that stands for the stack of the host. -/
def levelLimit : Nat := 990

/-- Whether two items are alike. -/
def alike (s : Session) (a b : Item) : Except Failure Bool := s.alikeWithin levelLimit a b

/-- Whether two items are equal. -/
def equals (s : Session) : Item → Item → Except Failure Bool
  | .plain a, .plain b => .ok (a.equals b)
  | a, b => s.alike a b

/-! ## 4. New cells -/

/-- Adds a cell. -/
def addCell (content : Cell) : StateM Session Item :=
  modifyGet fun s => (.cell s.cells.size, { s with cells := s.cells.push content })

mutual

/-- The item of a value, with new cells for all in it that can change. -/
def share : Value → StateM Session Item
  | .list vs => do addCell (.list false (← shareAll vs))
  | .keyList vs => do addCell (.list true (← shareAll vs))
  | .tuple vs => do addCell (.tuple (← shareAll vs))
  | .buffer bs => addCell (.buffer bs)
  | .map es => do addCell (.map (← shareEntries es))
  | .wallet content => do addCell (.wallet (← share content))
  | v => pure (.plain v)

/-- The items of values. -/
def shareAll : List Value → StateM Session (List Item)
  | [] => pure []
  | v :: vs => do
    let item ← share v
    let items ← shareAll vs
    pure (item :: items)

/-- The entries of a map with items. -/
def shareEntries : List (Value × Value) → StateM Session (List (Value × Item))
  | [] => pure []
  | (key, v) :: es => do
    let item ← share v
    let entries ← shareEntries es
    pure ((key, item) :: entries)

end

/-! ## 5. What items are made of -/

/-- The content of the cell that an item names. -/
def content? (s : Session) : Item → Option Cell
  | .plain _ => none
  | .cell number => s.cells[number]?

/-- The items in what can be gone through in order. -/
def itemsOf (s : Session) (item : Item) : Except Failure (List Item) :=
  match s.content? item with
  | some (.list _ items) | some (.tuple items) => .ok items
  | some (.map entries) => .ok (entries.map fun e => .plain e.1)
  | _ => List.map .plain <$> (s.value item).elements

/-- What a wallet was made from, as the same item. -/
def walletContent (s : Session) (item : Item) : Except Failure Item :=
  match s.content? item with
  | some (.wallet content) => .ok content
  | _ => .plain <$> (s.value item).walletContent

/-- Whether an item is in another one. -/
def contains (s : Session) (container item : Item) : Except Failure Bool :=
  match s.content? container with
  | some (.list _ items) | some (.tuple items) =>
    Option.isSome <$> KeyList.place? (s.alike · item) items
  | _ => Sequence.contains (s.value container) (s.value item)

/-- The items as a call sees them. -/
def view (s : Session) : View Item := ⟨s.value, s.itemsOf, s.alike⟩

/-! ## 6. Calls -/

/-- The answer of a cell and its content after a call. -/
def callCell (s : Session) (call : Call Item) : Cell → Except Failure (Answer Item × Cell)
  | .list ofKeys items => do
    let (answer, items) ← call.run s.view ofKeys items
    pure (answer, .list ofKeys items)
  | .tuple items => (·, .tuple items) <$> Sequence.askTuple s.view items call
  | .buffer bs => do
    let (answer, bs) ← Sequence.changeBuffer s.view bs call
    pure (answer, .buffer bs)
  | .map entries => do
    let (answer, entries) ← Sequence.changeMap s.view entries call
    pure (answer, .map entries)
  | .wallet _ => .error .noAttribute

/-- The answer of an item to a call, and the session after it. -/
def call (s : Session) (target : Item) (call : Call Item) :
    Except Failure (Answer Item × Session) :=
  match target with
  | .cell number =>
    match s.cells[number]? with
    | none => .error .wrongType
    | some content => do
      let (answer, content) ← s.callCell call content
      pure (answer, { s with cells := s.cells.setIfInBounds number content })
  | .plain (.text t) => (·, s) <$> Sequence.askText s.view t call
  | .plain (.bytes bs) => (·, s) <$> Sequence.askBytes s.view bs call
  | .plain _ => .error .noAttribute

end Session
end LedgerKeys
