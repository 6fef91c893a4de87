/-
# Log records

What the library reports while it works. A record is kept as the event itself; its text shows the
public half of a key and never the private one.
-/
import LedgerKeys.Key
import LedgerKeys.Text.Quoted

namespace LedgerKeys

/-- An event that is reported. -/
inductive Event where
  | generated (key : PublicKey)
  | foundAddress (address : PublicKey) (bump attempts : Nat)
  | wroteKey (path : Text) (key : PublicKey)
  | readKey (path : Text) (key : PublicKey)
  | backendAbsent (name : Text)
  deriving DecidableEq

/-- The line of an event: level, part of the library and text. -/
def Event.line : Event → Text
  | generated key => Text.ofString "DEBUG solkeys.keys: Generated keypair " ++ key.toBase58
  | foundAddress address bump attempts =>
    Text.ofString "DEBUG solkeys.derive: Found program address " ++ address.toBase58 ++
      Text.ofString " with bump " ++ Text.ofNat bump ++ Text.ofString " after " ++
      Text.ofNat attempts ++ Text.ofString " attempts"
  | wroteKey path key =>
    Text.ofString "DEBUG solkeys.keygen: Wrote keygen file " ++ path ++ Text.ofString " for " ++
      key.toBase58
  | readKey path key =>
    Text.ofString "DEBUG solkeys.keygen: Read keygen file " ++ path ++ Text.ofString " for " ++
      key.toBase58
  | backendAbsent name =>
    Text.ofString "WARNING solkeys.signature: Ed25519 backend " ++ name.quoted ++
      Text.ofString " is not installed, falling back"

end LedgerKeys
