/-
# JSON values

The value that a JSON text stands for. Integers and reals are told apart by how they are written,
as the byte values of a key file must be integers. An object keeps its members in the order of
their first appearance, and a member that is given twice has the value given last.
-/
import LedgerKeys.Decimal.Shortest

namespace LedgerKeys

/-- A JSON value. -/
inductive Json where
  | null
  | bool (b : Bool)
  | int (n : Int)
  | real (x : Binary64)
  | str (t : Text)
  | arr (elements : List Json)
  | obj (members : List (Text × Json))
  deriving Inhabited

namespace Json

/-- The members with the value of `key` set: in its old place, or at the end. -/
def setMember (key : Text) (value : Json) : List (Text × Json) → List (Text × Json)
  | [] => [(key, value)]
  | (k, v) :: rest => if k = key then (k, value) :: rest else (k, v) :: setMember key value rest

/-- The members that an object has after all of these are set in order. -/
def membersOf (pairs : List (Text × Json)) : List (Text × Json) :=
  pairs.foldl (fun members p => setMember p.1 p.2 members) []

/-- The value of a member of an object. -/
def get? (key : Text) : Json → Option Json
  | obj members => (members.find? fun m => m.1 = key).map (·.2)
  | _ => none

end Json

end LedgerKeys
