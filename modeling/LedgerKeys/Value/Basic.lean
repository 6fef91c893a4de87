/-
# Values

Callers hand over values of many kinds where a key, a seed or a byte string is wanted, and what
happens with each kind is part of the contract: some are converted, the others refused. `Value`
holds them. A byte string can be fixed or a buffer that its owner may change; a list of keys is a
list with operations of its own; a wallet holds whatever it was made from. Of a function of the
caller's nothing is known here.

Left out are views of the bytes of something else, ranges, sets, and objects of classes that the
caller has defined, be it below one of the kinds here. A view can stand wherever its bytes are all
that is asked for, as for a seed, and counts there as the byte string that it shows. Of the others
nothing is said.

A list may come to contain itself. Where its value would begin again, it ends in `again`, which
says no more than what kind of container it stands in.
-/
import LedgerKeys.Json.Basic
import LedgerKeys.Key

namespace LedgerKeys

/-- What can contain other values. -/
inductive Container where
  | list
  | tuple
  | keyList
  | map
  | wallet
  deriving DecidableEq

/-- The name of the kind of a container, as error messages show it. -/
def Container.kindName : Container → String
  | list => "list"
  | tuple => "tuple"
  | keyList => "PublicKeyList"
  | map => "dict"
  | wallet => "Wallet"

/-- A value as callers hand it over. -/
inductive Value where
  | null
  | bool (b : Bool)
  | int (n : Int)
  | real (x : Binary64)
  | text (t : Text)
  | bytes (bs : Bytes)
  | buffer (bs : Bytes)
  | list (elements : List Value)
  | tuple (elements : List Value)
  | keyList (elements : List Value)
  | map (entries : List (Value × Value))
  | publicKey (k : PublicKey)
  | privateKey (k : PrivateKey)
  | signature (s : Signature)
  | wallet (content : Value)
  | path (t : Text)
  | callback
  | again (container : Container)
  deriving Inhabited

namespace Value

/-! ## 1. Kinds -/

/-- The name of the kind, as error messages show it. -/
def kindName : Value → String
  | null => "NoneType"
  | bool _ => "bool"
  | int _ => "int"
  | real _ => "float"
  | text _ => "str"
  | bytes _ => "bytes"
  | buffer _ => "bytearray"
  | list _ => Container.list.kindName
  | tuple _ => Container.tuple.kindName
  | keyList _ => Container.keyList.kindName
  | map _ => Container.map.kindName
  | publicKey _ => "PublicKey"
  | privateKey _ => "PrivateKey"
  | signature _ => "Signature"
  | wallet _ => Container.wallet.kindName
  | path _ => "PosixPath"
  | callback => "function"
  | again container => container.kindName

/-- The whole number that a value counts as: truth values are 0 and 1. -/
def wholeNumber? : Value → Option Int
  | bool b => some (if b then 1 else 0)
  | int n => some n
  | _ => none

/-- The content of a fixed or changeable byte string. -/
def byteString? : Value → Option Bytes
  | bytes bs => some bs
  | buffer bs => some bs
  | _ => none

/-- The bytes inside a key or signature. -/
def data? : Value → Option Bytes
  | publicKey k => some k.data
  | privateKey k => some k.data
  | signature s => some s.data
  | _ => none

/-! ## 2. Values from JSON -/

mutual

/-- The value that a JSON value stands for. -/
def ofJson : Json → Value
  | .null => null
  | .bool b => bool b
  | .int n => int n
  | .real x => real x
  | .str t => text t
  | .arr vs => list (ofElements vs)
  | .obj ms => map (ofMembers ms)

/-- The values of the elements of an array. -/
def ofElements : List Json → List Value
  | [] => []
  | v :: vs => ofJson v :: ofElements vs

/-- The entries for the members of an object. -/
def ofMembers : List (Text × Json) → List (Value × Value)
  | [] => []
  | (k, v) :: ms => (text k, ofJson v) :: ofMembers ms

end

end Value
end LedgerKeys
