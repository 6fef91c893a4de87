/-
# Signing with values

The signature scheme on values as callers hand them over. Each operation first looks at lengths,
then chooses a backend, and converts what it was given last. Verifying answers no for everything
that is not a valid signature, a value out of the range of bytes included; only values of a wrong
kind are refused.
-/
import LedgerKeys.Backend
import LedgerKeys.Key.Reading

namespace LedgerKeys
namespace Signing

/-- Refuses a value of another length than is wanted. -/
def wantLength (what : Measured) (v : Value) : Except Failure Unit := do
  let n ← v.length
  if n = what.expected then pure () else .error (.length what n)

/-! ## 1. Keys -/

/-- The seed that a backend takes a value for: a byte string, and for the strict backend a fixed
one. -/
def seedFor : Backend → Value → Except Failure Bytes
  | _, .bytes bs => .ok bs
  | .lenient, .buffer bs => .ok bs
  | _, _ => .error .wrongType

/-- The public key of a seed. -/
def publicKeyOfSeed (env : Environment) (seed : Value) : Effect Bytes := do
  Effect.ofExcept (wantLength .seed seed)
  let b ← env.backend
  let bs ← Effect.ofExcept (seedFor b seed)
  pure (Ed25519.publicKey bs)

/-- The public half of a secret key, as it is stored. -/
def publicKeyOfSecret (secret : Value) : Except Failure Bytes := do
  wantLength .secretKey secret
  let half ← secret.cut (·.drop 32)
  half.toBytes

/-- Whether a failure means that there is no entropy. -/
def isEntropyFailure (f : Failure) : Bool := f.isA .system || f.isA .notImplemented

/-- What a source answers that is asked for a seed. It is asked once, and its answer must have 32
elements. -/
def freshSeed (source : EntropySource) : Effect Value := do
  let answer ← Effect.rescue isEntropyFailure .entropyUnavailable (Effect.askEntropy source 32)
  match answer with
  | .null => throw (.entropyLength 0)
  | answer => do
    let n ← Effect.ofExcept answer.length
    if n ≠ 32 then throw (.entropyLength n)
    pure answer

/-- A fresh secret key: the bytes of a seed and their public key. The seed is converted for each of
them. -/
def freshSecret (env : Environment) (source : EntropySource) : Effect Bytes := do
  let seed ← freshSeed source
  let half ← Effect.ofExcept seed.toBytes
  let bs ← Effect.ofExcept seed.toBytes
  let key ← publicKeyOfSeed env (.bytes bs)
  pure (half ++ key)

/-! ## 2. Signatures -/

/-- The signature of a message under a secret key. -/
def sign (env : Environment) (secret message : Value) : Effect Bytes := do
  Effect.ofExcept (wantLength .secretKey secret)
  let _ ← env.backend
  Effect.ofExcept do
    let half ← secret.cut (·.take 32)
    let seed ← half.toBytes
    let bs ← message.toBytes
    pure (Ed25519.sign seed bs)

/-- What a backend finds, converting in the order in which it takes the values. -/
def verdict (b : Backend) (key message signature : Value) : Except Failure Bool :=
  match b with
  | .strict => do
    let k ← key.toBytes
    let m ← message.toBytes
    let s ← signature.toBytes
    pure (b.verifies k m s)
  | .lenient => do
    let k ← key.toBytes
    let s ← signature.toBytes
    let m ← message.toBytes
    pure (b.verifies k m s)

/-- Values out of range count as a signature that is not valid. -/
def invalidIfOutOfRange : Except Failure Bool → Except Failure Bool
  | .error f => if f.isA .wrongValue then .ok false else .error f
  | r => r

/-- Whether a signature of a message is valid. -/
def verify (env : Environment) (key message signature : Value) : Effect Bool := do
  let b ← env.backend
  Effect.ofExcept do
    if (← key.length) ≠ 32 then pure false
    else if (← signature.length) ≠ 64 then pure false
    else invalidIfOutOfRange (verdict b key message signature)

/-! ## 3. Keys -/

/-- A fresh private key. Only its public half is reported. -/
def generate (env : Environment) (source : EntropySource) : Effect PrivateKey := do
  let bs ← freshSecret env source
  let k ← Effect.ofExcept (ofLength .privateKey PrivateKey.ofBytes? bs)
  Effect.report (.generated k.publicKey)
  pure k

/-- The signature of a message under a private key. -/
def signWith (env : Environment) (k : PrivateKey) (message : Value) : Effect Signature := do
  let bs ← sign env (.bytes k.data) message
  Effect.ofExcept (ofLength .signature Signature.ofBytes? bs)

/-- Whether a signature of a message is valid under a key. -/
def verifyWith (env : Environment) (s : Signature) (key message : Value) : Effect Bool := do
  let k ← Effect.ofExcept key.toBytes
  verify env (.bytes k) message (.bytes s.data)

end Signing
end LedgerKeys
