/-
# Lists of keys

A list of keys is a list of any values. Looking for a key by its bytes needs keys: an element that
is no public key is refused when the search comes to it, and so is anything without bytes that is
looked for. The other operations compare values for likeness and place them by numbers, which
count from the end when they are negative.

`Call` is what can be asked of a list or done to it. It does not depend on what the elements are,
as long as there is a `View` of them.
-/
import LedgerKeys.Value.Conversion
import LedgerKeys.Value.Equality

namespace LedgerKeys
namespace KeyList

/-! ## 1. Keys -/

/-- Whether a public key has the bytes of a key or signature. -/
def hasBytesOf (a b : Value) : Except Failure Bool :=
  match a, b.data? with
  | .publicKey k, some bs => .ok (k.data == bs)
  | _, _ => .error .noAttribute

/-- Whether an element has the bytes of a key. The search stops at the first one. -/
def has (key : Value) : List Value → Except Failure Bool
  | [] => .ok false
  | v :: vs => do
    if ← hasBytesOf v key then pure true else has key vs

/-! ## 2. Places -/

/-- A number as a place; values of another kind and numbers beyond 64 bits are refused. -/
def placeOf (v : Value) : Except Failure Int :=
  match v.wholeNumber? with
  | none => .error .wrongType
  | some i =>
    if i < -Value.wordLimit ∨ (Value.wordLimit : Int) ≤ i then .error .countTooLarge else .ok i

/-- The place from the start. -/
def fromStart (i : Int) (length : Nat) : Int := if i < 0 then i + length else i

/-- The list with something inserted before a place; places outside the list mean its ends. -/
def insert {α : Type} (place : Value) (x : α) (xs : List α) : Except Failure (List α) := do
  let i ← placeOf place
  let n := min (fromStart i xs.length).toNat xs.length
  pure (xs.take n ++ x :: xs.drop n)

/-- What stands at a place, and the list without it. -/
def pop {α : Type} (place : Value) (xs : List α) : Except Failure (α × List α) := do
  let i := fromStart (← placeOf place) xs.length
  if i < 0 then .error .noSuchIndex
  else match xs[i.toNat]? with
    | some x => pure (x, xs.eraseIdx i.toNat)
    | none => .error .noSuchIndex

/-! ## 3. Like elements -/

/-- The place of the first element of which a test holds. The test may be refused. -/
def place? {α : Type} (test : α → Except Failure Bool) : List α → Except Failure (Option Nat)
  | [] => .ok none
  | x :: xs => do
    if ← test x then pure (some 0)
    else
      let i ← place? test xs
      pure (i.map (· + 1))

/-- The number of elements of which a test holds. -/
def countOf {α : Type} (test : α → Except Failure Bool) : List α → Except Failure Nat
  | [] => .ok 0
  | x :: xs => do
    let here ← test x
    let n ← countOf test xs
    pure (if here then n + 1 else n)

/-! ## 4. Calls -/

/-- A change of a list, or a question about it. -/
inductive Call (α : Type) where
  | uniqueAppend (x : α)
  | append (x : α)
  | extend (more : α)
  | insert (place x : α)
  | pop (place : Option α)
  | remove (x : α)
  | clear
  | reverse
  | count (x : α)
  | index (x : α)

/-- What a call answers. -/
inductive Answer (α : Type) where
  | nothing
  | flag (b : Bool)
  | number (n : Nat)
  | element (x : α)

/-- What has to be known of the elements: the value of each, what it is made of if it can be gone
through, and whether it is like another one. -/
structure View (α : Type) where
  value : α → Value
  elements : α → Except Failure (List α)
  alike : α → α → Except Failure Bool

/-- The place that an element means; the last one, if there is none. -/
def View.placeOr {α : Type} (view : View α) : Option α → Value
  | some place => view.value place
  | none => .int (-1)

/-- The answer of a call and the list after it. Only a list of keys can be asked to append what it
does not have. -/
def Call.run {α : Type} (view : View α) (ofKeys : Bool) (xs : List α) :
    Call α → Except Failure (Answer α × List α)
  | uniqueAppend x => do
    if !ofKeys then .error .noAttribute
    if ← has (view.value x) (xs.map view.value) then pure (.flag false, xs)
    else pure (.flag true, xs ++ [x])
  | append x => .ok (.nothing, xs ++ [x])
  | extend more => do pure (.nothing, xs ++ (← view.elements more))
  | insert place x => do pure (.nothing, ← KeyList.insert (view.value place) x xs)
  | pop place => do
    let (x, rest) ← KeyList.pop (view.placeOr place) xs
    pure (.element x, rest)
  | remove x => do
    match ← place? (view.alike · x) xs with
    | some i => pure (.nothing, xs.eraseIdx i)
    | none => .error .removeAbsent
  | clear => .ok (.nothing, [])
  | reverse => .ok (.nothing, xs.reverse)
  | count x => do pure (.number (← countOf (view.alike · x) xs), xs)
  | index x => do
    match ← place? (view.alike · x) xs with
    | some i => pure (.number i, xs)
    | none => .error (.notInList (view.value x))

end KeyList
end LedgerKeys
