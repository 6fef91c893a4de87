/-
# Backends

Keys and signatures are computed by one of two backends. They compute the same keys and the same
signatures, and differ in what they verify and in which values they take for a seed. The
environment says which one is preferred and which ones are missing; the strict one is the default.
-/
import LedgerKeys.Host

namespace LedgerKeys

/-- A provider of the signature scheme. -/
inductive Backend where
  | strict
  | lenient
  deriving DecidableEq

namespace Backend

/-- The name by which a backend is preferred. -/
def name : Backend → String
  | strict => "nacl"
  | lenient => "cryptography"

/-- Both backends, the default one first. -/
def all : List Backend := [strict, lenient]

/-- The backend of a name. -/
def ofName? (t : Text) : Option Backend := all.find? fun b => Text.ofString b.name = t

/-- Whether the backend finds a signature valid, for a key of 32 and a signature of 64 bytes. -/
def verifies : Backend → (key message signature : Bytes) → Bool
  | strict => Ed25519.verifyStrict
  | lenient => Ed25519.verifyLenient

end Backend

/-- What the surroundings say about backends. An empty preference counts as none. -/
structure Environment where
  preferred : Option Text := none
  missing : List Backend := []

namespace Environment

/-- The first backend that is not missing. -/
def available (env : Environment) : Effect Backend :=
  match Backend.all.find? fun b => !env.missing.contains b with
  | some b => pure b
  | none => throw .backendMissing

/-- The backend to use: the preferred one or, with a warning, another one. -/
def backend (env : Environment) : Effect Backend :=
  match env.preferred with
  | none | some [] => env.available
  | some name =>
    match Backend.ofName? name with
    | none => throw (.backendUnknown name)
    | some b =>
      if env.missing.contains b then do
        Effect.report (.backendAbsent name)
        env.available
      else pure b

end Environment
end LedgerKeys
