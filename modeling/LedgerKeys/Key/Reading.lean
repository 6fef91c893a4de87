/-
# Reading keys

Keys and signatures are made from byte values, from base58 text and from JSON strings that hold
such text. Each way ends in a length check, and every text that is no key is refused with a
failure of the kind `format`; only values of a wrong kind are refused otherwise.

The failure for a text shows the text. For a private key read from JSON that is no string it does
not show the value.
-/
import LedgerKeys.Host
import LedgerKeys.Json.Document
import LedgerKeys.Json.Printer
import LedgerKeys.Text.Blank
import LedgerKeys.Value.Conversion

namespace LedgerKeys

/-! ## 1. Base58 text -/

namespace Base58

/-- The text that is decoded for a value: blanks at the end are dropped, and a byte string is read
as ASCII. -/
def textOf : Value → Except Failure Text
  | .text t =>
    match Ascii.encode t.trimEnd with
    | .ok bs => .ok (Ascii.decode bs)
    | .error fault => .error (.encoding fault)
  | .bytes bs | .buffer bs => .ok (Ascii.decode bs.trimEnd)
  | _ => .error .noAttribute

/-- The bytes of the base58 text that a value holds. -/
def decodeValue (v : Value) : Except Failure Bytes :=
  rescue (·.isA .wrongValue) (.base58 v) do
    let t ← textOf v
    match decode t with
    | .ok bs => .ok bs
    | .error c => .error (.character c)

/-- The base58 text of the bytes that a value stands for. -/
def encodeValue (v : Value) : Except Failure Text := encode <$> v.toBytes

end Base58

/-! ## 2. Key data -/

/-- The bytes of key data. Numbers are refused, although as many zeros could be meant. -/
def Value.keyData (v : Value) : Except Failure Bytes :=
  if v.wholeNumber?.isSome then .error (.keyDataKind v.kindName) else v.toBytes

/-- Bytes as a key or signature, or the failure for their length. -/
def ofLength {α : Type} (what : Measured) (ofBytes? : Bytes → Option α) (bs : Bytes) :
    Except Failure α :=
  match ofBytes? bs with
  | some a => .ok a
  | none => .error (.length what bs.length)

/-- Whether a failure says that a text or its length is wrong. -/
def isFormatFailure (f : Failure) : Bool := f.isA .format

/-! ## 3. Public keys -/

namespace PublicKey

/-- The key with the bytes of a value. -/
def ofValue (v : Value) : Except Failure PublicKey :=
  v.keyData >>= ofLength .publicKey ofBytes?

/-- The key with the first 32 bytes of a value, filled up with zeros. -/
def fitValue (v : Value) : Except Failure PublicKey := do
  let start ← v.cut (·.take 32)
  fit <$> start.toBytes

/-- The key of a base58 text. -/
def ofBase58 (v : Value) : Except Failure PublicKey :=
  Base58.decodeValue v >>= ofLength .publicKey ofBytes?

/-- The key of a JSON string that holds a base58 text. -/
def ofJson (document : Value) : Except Failure PublicKey := do
  match ← rescue Json.isMalformed .publicKeyJson (Json.ofDocument document) with
  | .str t => rescue isFormatFailure (.publicKeyText t) (ofBase58 (.text t))
  | found => .error (.publicKeyNotText found)

/-- The key of a base58 text that is known to be right. -/
def ofLiteral (v : Value) : Except Failure PublicKey :=
  rescue isFormatFailure (.publicKeyLiteral v) (ofBase58 v)

/-- The key as a JSON string. -/
def toJson (k : PublicKey) : Text := Json.printText k.toBase58

end PublicKey

/-! ## 4. Signatures -/

namespace Signature

/-- The signature with the bytes of a value. -/
def ofValue (v : Value) : Except Failure Signature :=
  v.keyData >>= ofLength .signature ofBytes?

/-- The signature of a base58 text. -/
def ofBase58 (v : Value) : Except Failure Signature :=
  Base58.decodeValue v >>= ofLength .signature ofBytes?

end Signature

/-! ## 5. Private keys -/

namespace PrivateKey

/-- The key with the bytes of a value. -/
def ofValue (v : Value) : Except Failure PrivateKey :=
  v.keyData >>= ofLength .privateKey ofBytes?

/-- The key of a base58 text. -/
def ofBase58 (v : Value) : Except Failure PrivateKey :=
  Base58.decodeValue v >>= ofLength .privateKey ofBytes?

/-- The key of a JSON string that holds a base58 text. -/
def ofJson (document : Value) : Except Failure PrivateKey := do
  match ← rescue Json.isMalformed .privateKeyJson (Json.ofDocument document) with
  | .str t => ofBase58 (.text t)
  | _ => .error .privateKeyNotText

/-- The key of a base58 text that is known to be right. -/
def ofLiteral (v : Value) : Except Failure PrivateKey :=
  rescue isFormatFailure .privateKeyLiteral (ofBase58 v)

/-- The key as a JSON string. -/
def toJson (k : PrivateKey) : Text := Json.printText k.toBase58

end PrivateKey

end LedgerKeys
