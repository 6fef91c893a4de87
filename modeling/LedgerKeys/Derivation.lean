/-
# Derived addresses

A seeded address is the hash of a base key, a seed and an owner. A program derived address is the
hash of up to sixteen seeds, a program and a marker, and is an address only if it is off the curve,
so that no private key belongs to it.

The search adds one more seed, a bump of one byte, and tries the bumps from 255 down to 1; the
first one whose hash is off the curve is the canonical one. An attempt that fails with one of the
library's own failures counts as not found, any other failure ends the search.
-/
import LedgerKeys.Host
import LedgerKeys.Program

namespace LedgerKeys
namespace Derivation

/-! ## 1. Seeds -/

/-- The most bytes of a seed. -/
def maxSeedLength : Nat := 32

/-- The most seeds of an address. -/
def maxSeeds : Nat := 16

/-- The bump that the search begins with. -/
def maxBump : Nat := 255

/-- The bytes behind seeds and program. -/
def marker : Bytes := "ProgramDerivedAddress".toList.map fun c => UInt8.ofNat c.toNat

/-- The bytes of a seed: of a text its UTF-8 bytes. Numbers are refused, although as many zeros
could be meant. -/
def seedBytes : Value → Except Failure Bytes
  | .text t =>
    match Utf8.encode t with
    | .ok bs => .ok bs
    | .error fault => .error (.encoding fault)
  | v => if v.wholeNumber?.isSome then .error (.seedKind v.kindName) else v.toBytes

/-- The bytes of a seed that is not too long. -/
def shortSeed (seed : Value) : Except Failure Bytes := do
  let bs ← seedBytes seed
  if maxSeedLength < bs.length then .error (.seedTooLong bs.length) else pure bs

/-! ## 2. What is hashed -/

/-- What is hashed to a seeded address. -/
def seededPreimage (base seed owner : Bytes) : Bytes := base ++ seed ++ owner

/-- What is hashed to a program derived address. -/
def programPreimage (seeds : List Bytes) (program : Bytes) : Bytes :=
  seeds.flatten ++ program ++ marker

/-! ## 3. Addresses -/

/-- The address of a seed under a base key and an owner. It may be on the curve. -/
def createWithSeed (base seed owner : Value) : Except Failure PublicKey := do
  let s ← shortSeed seed
  let b ← base.toBytes
  let o ← owner.toBytes
  pure (PublicKey.ofDigest (seededPreimage b s o))

/-- What is hashed for a list of seeds and a program, if they pass every check but the last. -/
def checkedPreimage (seeds program : Value) : Except Failure Bytes := do
  let n ← seeds.length
  if maxSeeds < n then .error (.tooManySeeds n)
  let bs ← (← seeds.elements).mapM shortSeed
  match ← Program.reserved? program with
  | some owner => .error (.illegalOwner owner)
  | none => programPreimage bs <$> program.toBytes

/-- The address of seeds under a program. The curve check is asked only when all else is right. -/
def createProgramAddress (check : CurveCheck) (seeds program : Value) : Effect PublicKey := do
  let preimage ← Effect.ofExcept (checkedPreimage seeds program)
  if ← Effect.askCurve check (sha256 preimage) then throw .onCurve
  pure (PublicKey.ofDigest preimage)

/-- The check of the curve itself. -/
def curveCheck : CurveCheck := fun _ digest => .ok (Curve.isOnCurve digest)

/-- Whether the bytes that a value stands for are on the curve; only 32 of them can be. -/
def isOnCurve (v : Value) : Except Failure Bool := do
  if (← v.length) ≠ 32 then pure false else Curve.isOnCurve <$> v.toBytes

/-! ## 4. The search -/

/-- The first success of the attempts with `bump + 1` and the bumps below it down to one. -/
def searchFrom (attempt : Nat → Effect PublicKey) : Nat → Effect (PublicKey × Nat)
  | 0 => tryCatch ((·, 1) <$> attempt 1) fun f =>
      throw (if f.isA .own then .addressNotFound f else f)
  | bump + 1 => tryCatch ((·, bump + 2) <$> attempt (bump + 2)) fun f =>
      if f.isA .own then searchFrom attempt bump else throw f

/-- The seed of one byte that a bump is. -/
def bumpSeed (bump : Nat) : Value := .bytes [UInt8.ofNat bump]

/-- The address of seeds under a program with the canonical bump, and the bump. -/
def findProgramAddress (check : CurveCheck) (seeds program : Value) : Effect (PublicKey × Nat) := do
  let base ← Effect.ofExcept seeds.elements
  let (address, bump) ← searchFrom
    (fun bump => createProgramAddress check (.list (base ++ [bumpSeed bump])) program) (maxBump - 1)
  Effect.report (.foundAddress address bump (maxBump - bump + 1))
  pure (address, bump)

/-! ## 5. Conventional addresses -/

/-- The token account of a wallet for a mint. -/
def findAssociatedTokenAddress (wallet mint : Value) : Effect (PublicKey × Nat) := do
  let w ← Effect.ofExcept wallet.toBytes
  let m ← Effect.ofExcept mint.toBytes
  findProgramAddress curveCheck (.list [.bytes w, .bytes Program.token.data, .bytes m])
    (.publicKey Program.associatedToken)

/-- The metadata account of a mint. -/
def findTokenMetadataAddress (mint : Value) : Effect (PublicKey × Nat) := do
  let m ← Effect.ofExcept mint.toBytes
  let label : Bytes := "metadata".toList.map fun c => UInt8.ofNat c.toNat
  findProgramAddress curveCheck (.list [.bytes label, .bytes Program.tokenMetadata.data, .bytes m])
    (.publicKey Program.tokenMetadata)

/-! ## 6. Trusted input -/

/-- Whether a failure is one of the library's own. -/
def isOwn (f : Failure) : Bool := f.isA .own

/-- A seeded address of input that is known to be right. -/
def mustCreateWithSeed (base seed owner : Value) : Except Failure PublicKey :=
  rescue isOwn (.trusted "create_with_seed") (createWithSeed base seed owner)

/-- A program derived address of input that is known to be right. -/
def mustCreateProgramAddress (seeds program : Value) : Effect PublicKey :=
  Effect.rescue isOwn (.trusted "create_program_address")
    (createProgramAddress curveCheck seeds program)

/-- A search with input that is known to be right. -/
def mustFindProgramAddress (seeds program : Value) : Effect (PublicKey × Nat) :=
  Effect.rescue isOwn (.trusted "find_program_address")
    (findProgramAddress curveCheck seeds program)

end Derivation
end LedgerKeys
