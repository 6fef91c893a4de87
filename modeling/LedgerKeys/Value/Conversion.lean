/-
# Converting values

What a value is worth where bytes, a length, a sequence or a truth value is wanted. A list of small
whole numbers counts as the bytes with these numbers, and a whole number as that many zero bytes.
A text is not bytes in any encoding, but a path is, because the system knows it as bytes.
-/
import LedgerKeys.Failure.Basic
import LedgerKeys.Files.Name

namespace LedgerKeys
namespace Value

-- The powers of the core library are meant, also where there are others in sight.
attribute [local instance (high)] instPowNat

/-! ## 1. Bytes -/

/-- The byte that a value stands for in a list. -/
def toByte (v : Value) : Except Failure UInt8 :=
  match v.wholeNumber? with
  | none => .error .wrongType
  | some n => if 0 ≤ n ∧ n < 256 then .ok (UInt8.ofNat n.toNat) else .error .byteRange

/-- Numbers from here on do not fit a word of 64 bits with a sign. -/
def wordLimit : Nat := 2 ^ (63 : Nat)

/-- Counts from here on do not fit a word together with what a byte string needs besides. -/
def countLimit : Nat := wordLimit - 33

/-- Counts from here on exceed the memory. How much there is differs from host to host; a fixed
number stands for it. -/
def memoryLimit : Nat := 2 ^ (32 : Nat)

/-- As many zero bytes as a number says. -/
def zerosOf (n : Int) : Except Failure Bytes :=
  if n < -wordLimit ∨ (countLimit : Int) ≤ n then .error .countTooLarge
  else if n < 0 then .error .negativeCount
  else if memoryLimit ≤ n.toNat then .error .outOfMemory
  else .ok (Bytes.zeros n.toNat)

/-- The bytes of a path. -/
def pathBytes (t : Text) : Except Failure Bytes :=
  match FileName.fault? t with
  | some fault => .error (.encoding fault)
  | none => .ok (FileName.ofText t)

/-- The bytes that a value stands for. -/
def toBytes : Value → Except Failure Bytes
  | bytes bs | buffer bs => .ok bs
  | publicKey k => .ok k.data
  | privateKey k => .ok k.data
  | signature s => .ok s.data
  | list vs | tuple vs | keyList vs => vs.mapM toByte
  | map es => es.mapM fun e => toByte e.1
  | bool b => zerosOf (if b then 1 else 0)
  | int n => zerosOf n
  | path t => pathBytes t
  | null | real _ | text _ | wallet _ | callback | again _ => .error .wrongType

/-! ## 2. Sequences -/

/-- The number of elements. -/
def length : Value → Except Failure Nat
  | text t => .ok t.length
  | bytes bs | buffer bs => .ok bs.length
  | list vs | tuple vs | keyList vs => .ok vs.length
  | map es => .ok es.length
  | _ => .error .wrongType

/-- The elements in order: of a text its characters, of a byte string its numbers, of a map its
keys. -/
def elements : Value → Except Failure (List Value)
  | text t => .ok (t.map fun c => text [c])
  | bytes bs | buffer bs => .ok (bs.map fun b => int b.toNat)
  | list vs | tuple vs | keyList vs => .ok vs
  | map es => .ok (es.map (·.1))
  | _ => .error .wrongType

/-- A part of a text, byte string or list, cut out by the same rule for all of them. -/
def cut (part : {α : Type} → List α → List α) : Value → Except Failure Value
  | text t => .ok (text (part t))
  | bytes bs => .ok (bytes (part bs))
  | buffer bs => .ok (buffer (part bs))
  | list vs | keyList vs => .ok (list (part vs))
  | tuple vs => .ok (tuple (part vs))
  | _ => .error .wrongType

/-! ## 3. Truth -/

/-- Whether the value counts as true: zero, nothing and what is empty do not. -/
def isTrue : Value → Bool
  | null => false
  | bool b => b
  | int n => n ≠ 0
  | real x => !x.isZero
  | text t => !t.isEmpty
  | bytes bs | buffer bs => !bs.isEmpty
  | list vs | tuple vs | keyList vs => !vs.isEmpty
  | map es => !es.isEmpty
  | publicKey _ | privateKey _ | signature _ | wallet _ | path _ | callback
  | again _ => true

/-! ## 4. Keys and wallets -/

/-- The public key that a value is. -/
def asPublicKey : Value → Except Failure PublicKey
  | publicKey k => .ok k
  | _ => .error .noAttribute

/-- The private key that a value is. -/
def asPrivateKey : Value → Except Failure PrivateKey
  | privateKey k => .ok k
  | _ => .error .noAttribute

/-- The signature that a value is. -/
def asSignature : Value → Except Failure Signature
  | signature s => .ok s
  | _ => .error .noAttribute

/-- What a wallet was made from. -/
def walletContent : Value → Except Failure Value
  | wallet content => .ok content
  | _ => .error .noAttribute

/-- The public key of a private key. A wallet has one too, but as a part that cannot be called. -/
def publicKeyOf : Value → Except Failure PublicKey
  | privateKey k => .ok k.publicKey
  | wallet content => do
    let _ ← publicKeyOf content
    .error .wrongType
  | _ => .error .noAttribute

/-- The public key of a wallet. -/
def walletPublicKey (v : Value) : Except Failure PublicKey := v.walletContent >>= publicKeyOf

/-- The elements of a list of keys. -/
def asKeyList : Value → Except Failure (List Value)
  | keyList vs => .ok vs
  | _ => .error .noAttribute

end Value
end LedgerKeys
