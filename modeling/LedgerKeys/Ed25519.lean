/-
# Ed25519 signatures

A seed of 32 bytes is hashed to a clamped scalar and a nonce key. The public key is the multiple of
the base point by the scalar. A signature is the compressed nonce point `R` and a scalar `S` with
`S B = R + k A`, where `k` is hashed from `R`, the public key and the message.

Two verifiers are in use. Both want `S` below the group order and compare `S B - k A` with the
bytes of `R`. The strict one refuses in addition public keys that are not canonical or of small
order, and nonce points of small order.
-/
import LedgerKeys.Curve.Compressed
import LedgerKeys.Hash.Sha512

namespace LedgerKeys
namespace Ed25519

open Curve

-- The powers of the core library are meant, also where there are others in sight.
attribute [local instance (high)] instPowNat

/-- The order of the base point. -/
def order : Nat := 2 ^ (252 : Nat) + 27742317777372353535851937790883648493

/-- The 64 bytes of a hash as a number. -/
def hashNumber (bs : Bytes) : Nat := Bytes.toNatLE (sha512 bs)

/-! ## 1. Keys -/

/-- The number with the low three bits cleared, bit 254 set and all above it cleared. -/
def clamp (n : Nat) : Nat := 2 ^ (254 : Nat) + n % 2 ^ (254 : Nat) / 8 * 8

/-- The secret scalar of a seed. -/
def scalar (seed : Bytes) : Nat := clamp (Bytes.toNatLE ((sha512 seed).take 32))

/-- The key that makes the nonces of a seed. -/
def nonceKey (seed : Bytes) : Bytes := (sha512 seed).drop 32

/-- The public key of a seed. -/
def publicKey (seed : Bytes) : Bytes := (Point.base.mul (scalar seed)).compress

@[simp] theorem length_publicKey (seed : Bytes) : (publicKey seed).length = 32 :=
  length_compress _

/-! ## 2. Signing -/

/-- The nonce of a message. -/
def nonce (seed message : Bytes) : Nat := hashNumber (nonceKey seed ++ message) % order

/-- The number that binds a nonce point to a key and a message. -/
def challenge (noncePoint key message : Bytes) : Nat :=
  hashNumber (noncePoint ++ key ++ message) % order

/-- The signature of a message under a seed. -/
def sign (seed message : Bytes) : Bytes :=
  let r := nonce seed message
  let noncePoint := (Point.base.mul r).compress
  let k := challenge noncePoint (publicKey seed) message
  noncePoint ++ Bytes.ofNatLE 32 ((r + k * scalar seed) % order)

@[simp] theorem length_sign (seed message : Bytes) : (sign seed message).length = 64 := by
  simp [sign]

/-! ## 3. Verifying -/

/-- Whether a signature satisfies the equation, for a key of 32 and a signature of 64 bytes. -/
def satisfiesEquation (key message signature : Bytes) : Bool :=
  let noncePoint := signature.take 32
  let s := Bytes.toNatLE (signature.drop 32)
  match decompress? key with
  | none => false
  | some A =>
    s < order &&
      ((Point.base.mul s).add (A.neg.mul (challenge noncePoint key message))).compress == noncePoint

/-- Whether bytes stand for a point of small order. -/
def isSmallOrder (bs : Bytes) : Bool :=
  match decompress? bs with
  | none => false
  | some P => decide P.HasSmallOrder

/-- The lenient verifier: the equation alone. -/
def verifyLenient (key message signature : Bytes) : Bool := satisfiesEquation key message signature

/-- The strict verifier: canonical keys, and no points of small order. -/
def verifyStrict (key message signature : Bytes) : Bool :=
  isCanonical key && !isSmallOrder key && !isSmallOrder (signature.take 32) &&
    satisfiesEquation key message signature

end Ed25519
end LedgerKeys
