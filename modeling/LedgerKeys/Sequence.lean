/-
# Sequences besides lists

Some of what can be asked of a list can be asked of a tuple, a text and a byte string too, and some
of the changes can be made to a buffer and to a map. Parts of texts and of byte strings are looked
for where tuples are searched for one element; a buffer holds the numbers of bytes; a map gives up
the value of a key.
-/
import LedgerKeys.KeyList

namespace LedgerKeys
namespace Sequence

open KeyList (Answer Call View)

/-! ## 1. Parts -/

/-- Where a list occurs in another one in one piece for the first time. -/
def partIndex? {α : Type} [BEq α] (part : List α) : List α → Option Nat
  | [] => if part.isEmpty then some 0 else none
  | x :: xs => if part.isPrefixOf (x :: xs) then some 0 else (partIndex? part xs).map (· + 1)

/-- How often a list that is not empty occurs in another one, without overlaps. The first argument
counts the elements that still belong to the last occurrence. -/
def countFrom {α : Type} [BEq α] (part : List α) : Nat → List α → Nat
  | _, [] => 0
  | skipped + 1, _ :: xs => countFrom part skipped xs
  | 0, x :: xs =>
    if part.isPrefixOf (x :: xs) then countFrom part (part.length - 1) xs + 1
    else countFrom part 0 xs

/-- How often a list occurs in another one; the empty one, around every element. -/
def partCount {α : Type} [BEq α] (part xs : List α) : Nat :=
  if part.isEmpty then xs.length + 1 else countFrom part 0 xs

/-- The byte of a number, if it has one. -/
def byteOf (v : Value) : Except Failure UInt8 :=
  match v.wholeNumber? with
  | none => .error .wrongType
  | some n => if 0 ≤ n ∧ n < 256 then .ok (UInt8.ofNat n.toNat) else .error .noByte

/-- The bytes that a byte string is searched for: those of a byte string, or that of a number. -/
def soughtBytes (v : Value) : Except Failure Bytes :=
  match v.byteString? with
  | some bs => .ok bs
  | none => ([·]) <$> byteOf v

/-! ## 2. Membership -/

/-- Whether a value is in another one that is no list: as a key of a map, or a part of a text or of
a byte string. -/
def contains (container v : Value) : Except Failure Bool :=
  match container, v with
  | .map es, v => if v.isFixed then .ok (v.lookUp? es).isSome else .error .wrongType
  | .text t, .text part => .ok (partIndex? part t).isSome
  | .bytes bs, v | .buffer bs, v => do pure (partIndex? (← soughtBytes v) bs).isSome
  | _, _ => .error .wrongType

/-! ## 3. Questions -/

/-- A place that was looked for and must exist. -/
def mustExist {α : Type} (absent : Failure) : Option Nat → Except Failure (Answer α)
  | some i => .ok (.number i)
  | none => .error absent

/-- What a tuple answers. -/
def askTuple {α : Type} (view : View α) (xs : List α) : Call α → Except Failure (Answer α)
  | .count x => do pure (.number (← KeyList.countOf (view.alike · x) xs))
  | .index x => do mustExist .notInTuple (← KeyList.place? (view.alike · x) xs)
  | _ => .error .noAttribute

/-- The text that a value is. -/
def soughtText : Value → Except Failure Text
  | .text t => .ok t
  | _ => .error .wrongType

/-- What a text answers. -/
def askText {α : Type} (view : View α) (t : Text) : Call α → Except Failure (Answer α)
  | .count x => do pure (.number (partCount (← soughtText (view.value x)) t))
  | .index x => do mustExist .partAbsent (partIndex? (← soughtText (view.value x)) t)
  | _ => .error .noAttribute

/-- What a byte string answers. -/
def askBytes {α : Type} (view : View α) (bs : Bytes) : Call α → Except Failure (Answer α)
  | .count x => do pure (.number (partCount (← soughtBytes (view.value x)) bs))
  | .index x => do mustExist .sectionAbsent (partIndex? (← soughtBytes (view.value x)) bs)
  | _ => .error .noAttribute

/-! ## 4. Changes -/

/-- The answer of a buffer and its bytes after the call. An element that is taken out is answered as
its number. -/
def changeBuffer {α : Type} (view : View α) (bs : Bytes) :
    Call α → Except Failure (Answer α × Bytes)
  | .append x => do pure (.nothing, bs ++ [← byteOf (view.value x)])
  | .extend more => do
    let added ← match view.value more with
      | .bytes added | .buffer added => pure added
      | v => do (← v.elements).mapM byteOf
    pure (.nothing, bs ++ added)
  | .insert place x => do
    let place := view.value place
    let _ ← KeyList.placeOf place
    pure (.nothing, ← KeyList.insert place (← byteOf (view.value x)) bs)
  | .pop place => do
    let (b, rest) ← KeyList.pop (view.placeOr place) bs
    pure (.number b.toNat, rest)
  | .remove x => do
    match bs.findIdx? (· == (← byteOf (view.value x))) with
    | some i => pure (.nothing, bs.eraseIdx i)
    | none => .error .byteAbsent
  | .clear => .ok (.nothing, [])
  | .reverse => .ok (.nothing, bs.reverse)
  | call => (·, bs) <$> askBytes view bs call

/-- The answer of a map and its entries after the call. An empty map looks at no key. -/
def changeMap {α : Type} (view : View α) (entries : List (Value × α)) :
    Call α → Except Failure (Answer α × List (Value × α))
  | .pop (some key) => do
    let key := view.value key
    if entries.isEmpty then .error (.keyAbsent key)
    if !key.isFixed then .error .wrongType
    match key.lookUp? entries with
    | some x => pure (.element x, entries.filter fun e => !e.1.alike key)
    | none => .error (.keyAbsent key)
  | .pop none => .error .wrongType
  | .clear => .ok (.nothing, [])
  | _ => .error .noAttribute

end Sequence
end LedgerKeys
