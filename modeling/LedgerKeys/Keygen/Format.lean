/-
# The keygen format

A private key is stored as a JSON array of its 64 bytes as numbers. An array is accepted if all its
elements are integers from 0 to 255 and there are 64 of them; the first element that is not is
reported even when their number is wrong too.
-/
import LedgerKeys.Key.Reading

namespace LedgerKeys
namespace Keygen

/-- The byte that an element stands for. -/
def byteOf : Json → Except Failure UInt8
  | .int n =>
    if 0 ≤ n ∧ n ≤ 255 then .ok (UInt8.ofNat n.toNat) else .error (.keygenElement (.int n))
  | found => .error (.keygenElement found)

/-- The bytes of an array. -/
def ofJson : Json → Except Failure Bytes
  | .arr found => do
    let bs ← found.mapM byteOf
    if found.length = 64 then pure bs else .error (.keygenCount found.length)
  | _ => .error .keygenNotArray

/-- The bytes of a document. -/
def decode (document : Value) : Except Failure Bytes :=
  rescue Json.isMalformed .keygenJson (Json.ofDocument document) >>= ofJson

/-- The text of a byte string. -/
def encode (bs : Bytes) : Text := Json.print (.arr (bs.map fun b => .int b.toNat))

/-- The text of the bytes that a value stands for. -/
def encodeValue (v : Value) : Except Failure Text := encode <$> v.toBytes

end Keygen

/-- The key of a document in the keygen format. -/
def PrivateKey.ofKeygen (document : Value) : Except Failure PrivateKey :=
  Keygen.decode document >>= ofLength .privateKey ofBytes?

end LedgerKeys
