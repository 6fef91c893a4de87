/-
# Keys in JSON payloads

A payload is written as JSON with every key and signature in it as its base58 text. Byte strings,
wallets and paths have no JSON form, and neither has a container inside itself. The names of an
object's members are texts, or the written forms of other simple values; a key is no name.
-/
import LedgerKeys.Json.Printer
import LedgerKeys.Value.Conversion

namespace LedgerKeys
namespace Payload

/-- The text of a key or signature, which is all that has a form besides plain JSON. -/
def keyText : Value → Except Failure Text
  | .publicKey k => .ok k.toBase58
  | .privateKey k => .ok k.toBase58
  | .signature s => .ok s.toBase58
  | v => .error (.notSerializable v.kindName)

/-- The name of a member. -/
def memberName : Value → Except Failure Text
  | .text t => .ok t
  | .real x => .ok (Json.printReal x)
  | .bool b => .ok (Json.print (.bool b))
  | .null => .ok (Json.print .null)
  | .int n => .ok (Json.print (.int n))
  | v => .error (.memberKind v.kindName)

mutual

/-- The JSON form of a value. -/
def toJson : Value → Except Failure Json
  | .null => .ok .null
  | .bool b => .ok (.bool b)
  | .int n => .ok (.int n)
  | .real x => .ok (.real x)
  | .text t => .ok (.str t)
  | .list vs => .arr <$> toElements vs
  | .tuple vs => .arr <$> toElements vs
  | .keyList vs => .arr <$> toElements vs
  | .map es => .obj <$> toMembers es
  | .again _ => .error .circular
  | v => .str <$> keyText v

/-- The JSON forms of the elements of a list. -/
def toElements : List Value → Except Failure (List Json)
  | [] => .ok []
  | v :: vs => do
    let x ← toJson v
    let xs ← toElements vs
    pure (x :: xs)

/-- The members for the entries of a map. -/
def toMembers : List (Value × Value) → Except Failure (List (Text × Json))
  | [] => .ok []
  | (k, v) :: es => do
    let name ← memberName k
    let x ← toJson v
    let ms ← toMembers es
    pure ((name, x) :: ms)

end

/-- The written form of a payload. -/
def write (v : Value) : Except Failure Text := Json.print <$> toJson v

end Payload
end LedgerKeys
