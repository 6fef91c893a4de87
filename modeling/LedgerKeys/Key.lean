/-
# Keys and signatures

A public key is any 32 bytes: a point of the curve, an address derived for a program, or another
identifier. A private key is 64 bytes, a seed followed by the public key that belongs to it; that
the halves belong together is not checked. A signature is 64 bytes. The text of each is its base58
form.
-/
import LedgerKeys.Base58
import LedgerKeys.Ed25519
import LedgerKeys.Hash.Sha256

namespace LedgerKeys

/-! ## 1. Public keys -/

/-- An address of 32 bytes. -/
structure PublicKey where
  data : Bytes
  length_data : data.length = 32
  deriving DecidableEq

namespace PublicKey

/-- A key is its bytes. -/
theorem eq_iff_data {k k' : PublicKey} : k = k' ↔ k.data = k'.data := by
  cases k
  cases k'
  rw [PublicKey.mk.injEq]

/-- The key with these bytes, if there are 32 of them. -/
def ofBytes? (bs : Bytes) : Option PublicKey :=
  if h : bs.length = 32 then some ⟨bs, h⟩ else none

/-- The key with these bytes, cut or filled up with zeros to 32. -/
def fit (bs : Bytes) : PublicKey :=
  ⟨bs.take 32 ++ Bytes.zeros (32 - bs.length), by simp; omega⟩

/-- The address that a hash makes. -/
def ofDigest (message : Bytes) : PublicKey := ⟨sha256 message, length_sha256 message⟩

/-- The key of zeros. -/
def zero : PublicKey := ⟨Bytes.zeros 32, Bytes.length_zeros 32⟩

/-- Whether all bytes are zero. -/
def isZero (k : PublicKey) : Bool := k = zero

/-- The base58 text of the key. -/
def toBase58 (k : PublicKey) : Text := Base58.encode k.data

end PublicKey

/-! ## 2. Signatures -/

/-- A signature of 64 bytes. -/
structure Signature where
  data : Bytes
  length_data : data.length = 64
  deriving DecidableEq

namespace Signature

/-- The signature with these bytes, if there are 64 of them. -/
def ofBytes? (bs : Bytes) : Option Signature :=
  if h : bs.length = 64 then some ⟨bs, h⟩ else none

/-- The base58 text of the signature. -/
def toBase58 (s : Signature) : Text := Base58.encode s.data

end Signature

/-! ## 3. Private keys -/

/-- A seed of 32 bytes and a public key of 32 bytes. -/
structure PrivateKey where
  data : Bytes
  length_data : data.length = 64
  deriving DecidableEq

namespace PrivateKey

/-- The key with these bytes, if there are 64 of them. -/
def ofBytes? (bs : Bytes) : Option PrivateKey :=
  if h : bs.length = 64 then some ⟨bs, h⟩ else none

/-- The half that signs. -/
def seed (k : PrivateKey) : Bytes := k.data.take 32

/-- The public half, as it is stored. -/
def publicKey (k : PrivateKey) : PublicKey :=
  ⟨k.data.drop 32, by rw [List.length_drop, k.length_data]⟩

/-- The key of a seed: the seed with its own public key. -/
def ofSeed (seed : Bytes) (h : seed.length = 32) : PrivateKey :=
  ⟨seed ++ Ed25519.publicKey seed, by rw [List.length_append, h, Ed25519.length_publicKey]⟩

/-- The signature of a message. -/
def sign (k : PrivateKey) (message : Bytes) : Signature :=
  ⟨Ed25519.sign k.seed message, Ed25519.length_sign k.seed message⟩

/-- The base58 text of the key. -/
def toBase58 (k : PrivateKey) : Text := Base58.encode k.data

end PrivateKey

end LedgerKeys
