/-
# Equality of values

Truth values, whole numbers and reals are equal as numbers; fixed and changeable byte strings, and
lists and lists of keys, by their content. Maps are equal when they have the same keys with equal
values, in any order. Keys of different types are never equal, whatever their bytes.

What is not a number equals nothing, but is alike to itself, and inside of other values it is
likeness that counts. A value can be looked up in a set or a map only if it cannot change, all the
way down.
-/
import LedgerKeys.Value.Basic

namespace LedgerKeys
namespace Value

mutual

/-- Whether two values are alike: equal, or both not a number. -/
def alike : Value → Value → Bool
  | null, null => true
  | bool a, bool b => a == b
  | bool a, int n => (if a then 1 else 0) == n
  | int n, bool b => n == (if b then 1 else 0)
  | int m, int n => m == n
  | real x, bool b => x.equalsInt (if b then 1 else 0)
  | bool b, real x => x.equalsInt (if b then 1 else 0)
  | real x, int n => x.equalsInt n
  | int n, real x => x.equalsInt n
  | real x, real y => x.equals y || (x == .nan && y == .nan)
  | text s, text t => s == t
  | bytes a, bytes b => a == b
  | bytes a, buffer b => a == b
  | buffer a, bytes b => a == b
  | buffer a, buffer b => a == b
  | list xs, list ys => allAlike xs ys
  | list xs, keyList ys => allAlike xs ys
  | keyList xs, list ys => allAlike xs ys
  | keyList xs, keyList ys => allAlike xs ys
  | tuple xs, tuple ys => allAlike xs ys
  | map xs, map ys => xs.length == ys.length && entriesIn xs ys
  | publicKey a, publicKey b => a == b
  | privateKey a, privateKey b => a == b
  | signature a, signature b => a == b
  | wallet a, wallet b => alike a b
  | path s, path t => s == t
  | _, _ => false

/-- Whether two lists have like elements in every place. -/
def allAlike : List Value → List Value → Bool
  | [], [] => true
  | x :: xs, y :: ys => alike x y && allAlike xs ys
  | _, _ => false

/-- Whether a map has a like entry for each of these. -/
def entriesIn : List (Value × Value) → List (Value × Value) → Bool
  | [], _ => true
  | (k, v) :: es, ys =>
    (ys.any fun e => alike k e.1 && alike v e.2) && entriesIn es ys

end

/-- Whether two values are equal. -/
def equals : Value → Value → Bool
  | real x, real y => x.equals y
  | a, b => alike a b

mutual

/-- Whether the value cannot change, all the way down. -/
def isFixed : Value → Bool
  | buffer _ => false
  | list _ => false
  | keyList _ => false
  | map _ => false
  | tuple vs => allFixed vs
  | wallet content => isFixed content
  | again _ => false
  | _ => true

/-- Whether none of the values can change. -/
def allFixed : List Value → Bool
  | [] => true
  | v :: vs => isFixed v && allFixed vs

end

/-- The value under a key of a map. -/
def lookUp? {α : Type} (key : Value) (entries : List (Value × α)) : Option α :=
  (entries.find? fun e => alike e.1 key).map (·.2)

/-- The entries with the value of a key set: in its old place under its old spelling, or at the
end. -/
def setEntry {α : Type} (key : Value) (content : α) : List (Value × α) → List (Value × α)
  | [] => [(key, content)]
  | (k, v) :: rest =>
    if alike k key then (k, content) :: rest else (k, v) :: setEntry key content rest

/-- The first of all like elements, in order. -/
def distinct (vs : List Value) : List Value :=
  vs.foldl (fun seen v => if seen.any (alike · v) then seen else seen ++ [v]) []

end Value
end LedgerKeys
