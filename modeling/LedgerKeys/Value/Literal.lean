/-
# Literals

How an error message shows the value it complains about: texts and byte strings between quotes,
lists and maps between brackets, keys by their base58 text. A private key shows nothing of its
content, alone or inside a wallet. A container inside itself is left out.
-/
import LedgerKeys.Text.Quoted
import LedgerKeys.Value.Basic

namespace LedgerKeys

/-- The content of a buffer between quotes, behind a `b`. Unlike in a fixed byte string, a single
quote is escaped whatever encloses it. -/
def Bytes.quotedBuffer (bs : Bytes) : Text :=
  let quote := Text.quoteFor (bs.map CodePoint.ofByte)
  let shown (b : UInt8) : Text := if b = 0x27 then "\\'" else Bytes.quotedByte 0x27 b
  Text.ofString "b" ++ quote :: bs.flatMap shown ++ [quote]

namespace Value

/-- A call by name around an argument. -/
def callLiteral (name : String) (argument : Text) : Text :=
  Text.ofString name ++ Text.ofString "(" ++ argument ++ Text.ofString ")"

/-- What stands for a container inside itself. -/
def omission : Container → Text
  | .list | .keyList => "[...]"
  | .tuple => "(...)"
  | .map => "\x7b...\x7d"
  | .wallet => "..."

mutual

/-- The literal of a value. -/
def literal : Value → Text
  | null => "None"
  | bool true => "True"
  | bool false => "False"
  | int n => Text.ofInt n
  | real x => x.text
  | text t => t.quoted
  | bytes bs => bs.quoted
  | buffer bs => callLiteral "bytearray" bs.quotedBuffer
  | list vs => [0x5B] ++ Text.join ", " (literals vs) ++ [0x5D]
  | tuple [v] => callLiteral "" (literal v ++ Text.ofString ",")
  | tuple vs => callLiteral "" (Text.join ", " (literals vs))
  | keyList vs => [0x5B] ++ Text.join ", " (literals vs) ++ [0x5D]
  | map es => [0x7B] ++ Text.join ", " (entryLiterals es) ++ [0x7D]
  | publicKey k => callLiteral "PublicKey" k.toBase58.quoted
  | privateKey _ => "PrivateKey()"
  | signature s => callLiteral "Signature" s.toBase58.quoted
  | wallet content => callLiteral "Wallet" (Text.ofString "private_key=" ++ literal content)
  | path t => callLiteral "PosixPath" t.quoted
  | callback => "<function>"
  | again container => omission container

/-- The literals of the elements of a list. -/
def literals : List Value → List Text
  | [] => []
  | v :: vs => literal v :: literals vs

/-- The literals of the entries of a map. -/
def entryLiterals : List (Value × Value) → List Text
  | [] => []
  | (k, v) :: es => (literal k ++ Text.ofString ": " ++ literal v) :: entryLiterals es

end

/-- A value as plain text: texts, keys and paths as they are, all else by its literal. -/
def plain : Value → Text
  | text t => t
  | publicKey k => k.toBase58
  | privateKey k => k.toBase58
  | signature s => s.toBase58
  | path t => t
  | v => literal v

end Value
end LedgerKeys
