/-
# Well-known programs

The addresses of the programs and system variables that every client knows, and the reserved ones
among them. A reserved program owns no derived addresses; the upgradeable loader and the token
programs are not reserved.
-/
import LedgerKeys.Key.Reading
import LedgerKeys.Value.Equality

namespace LedgerKeys
namespace Program

/-! ## 1. Addresses -/

/-- The address of a base58 text, zero if it is none. -/
def address (text : String) : PublicKey :=
  match PublicKey.ofLiteral (.text text) with
  | .ok k => k
  | .error _ => .zero

def system : PublicKey := address "11111111111111111111111111111111"
def config : PublicKey := address "Config1111111111111111111111111111111111111"
def stake : PublicKey := address "Stake11111111111111111111111111111111111111"
def vote : PublicKey := address "Vote111111111111111111111111111111111111111"
def feature : PublicKey := address "Feature111111111111111111111111111111111111"
def secp256k1 : PublicKey := address "KeccakSecp256k11111111111111111111111111111"
def loaderDeprecated : PublicKey := address "BPFLoader1111111111111111111111111111111111"
def loader : PublicKey := address "BPFLoader2111111111111111111111111111111111"
def loaderUpgradeable : PublicKey := address "BPFLoaderUpgradeab1e11111111111111111111111"
def token : PublicKey := address "TokenkegQfeZyiNwAJbNbGKPFXCWuBvf9Ss623VQ5DA"
def associatedToken : PublicKey := address "ATokenGPvbdGVxr1b2hvZbsiqW5xWH25efTNsLJA8knL"
def tokenMetadata : PublicKey := address "metaqbxxUerdq28cj1RbAWkYQm3ybzjb6a8bt518x1s"
def clock : PublicKey := address "SysvarC1ock11111111111111111111111111111111"
def epochSchedule : PublicKey := address "SysvarEpochSchedu1e111111111111111111111111"
def fees : PublicKey := address "SysvarFees111111111111111111111111111111111"
def instructions : PublicKey := address "Sysvar1nstructions1111111111111111111111111"
def recentBlockhashes : PublicKey := address "SysvarRecentB1ockHashes11111111111111111111"
def rent : PublicKey := address "SysvarRent111111111111111111111111111111111"
def rewards : PublicKey := address "SysvarRewards111111111111111111111111111111"
def slotHashes : PublicKey := address "SysvarS1otHashes111111111111111111111111111"
def slotHistory : PublicKey := address "SysvarS1otHistory11111111111111111111111111"
def stakeHistory : PublicKey := address "SysvarStakeHistory1111111111111111111111111"

/-- All well-known addresses by their names. -/
def named : List (String × PublicKey) := [
  ("SYSTEM_PROGRAM_ID", system),
  ("CONFIG_PROGRAM_ID", config),
  ("STAKE_PROGRAM_ID", stake),
  ("VOTE_PROGRAM_ID", vote),
  ("FEATURE_PROGRAM_ID", feature),
  ("SECP256K1_PROGRAM_ID", secp256k1),
  ("BPF_LOADER_DEPRECATED_PROGRAM_ID", loaderDeprecated),
  ("BPF_LOADER_PROGRAM_ID", loader),
  ("BPF_LOADER_UPGRADEABLE_PROGRAM_ID", loaderUpgradeable),
  ("TOKEN_PROGRAM_ID", token),
  ("ASSOCIATED_TOKEN_PROGRAM_ID", associatedToken),
  ("TOKEN_METADATA_PROGRAM_ID", tokenMetadata),
  ("SYSVAR_CLOCK_PUBKEY", clock),
  ("SYSVAR_EPOCH_SCHEDULE_PUBKEY", epochSchedule),
  ("SYSVAR_FEES_PUBKEY", fees),
  ("SYSVAR_INSTRUCTIONS_PUBKEY", instructions),
  ("SYSVAR_RECENT_BLOCKHASHES_PUBKEY", recentBlockhashes),
  ("SYSVAR_RENT_PUBKEY", rent),
  ("SYSVAR_REWARDS_PUBKEY", rewards),
  ("SYSVAR_SLOT_HASHES_PUBKEY", slotHashes),
  ("SYSVAR_SLOT_HISTORY_PUBKEY", slotHistory),
  ("SYSVAR_STAKE_HISTORY_PUBKEY", stakeHistory)]

/-! ## 2. Reserved addresses -/

/-- The reserved addresses. -/
def reserved : List PublicKey := [
  loader, loaderDeprecated, feature, config, stake, vote, secp256k1, system, clock, epochSchedule,
  fees, instructions, recentBlockhashes, rent, rewards, slotHashes, slotHistory, stakeHistory]

/-- Whether an address is reserved. -/
def isReserved (k : PublicKey) : Bool := reserved.contains k

/-- The reserved address that a value is, if it is one. A value that can change cannot be looked
up. -/
def reserved? (v : Value) : Except Failure (Option PublicKey) :=
  if !v.isFixed then .error .wrongType
  else match v with
    | .publicKey k => .ok (if isReserved k then some k else none)
    | _ => .ok none

/-- Whether the first byte string comes before the second one or is the same. -/
def bytesLe : Bytes → Bytes → Bool
  | [], _ => true
  | _ :: _, [] => false
  | a :: s, b :: t => a < b || (a == b && bytesLe s t)

/-- The reserved addresses in the order of their bytes. -/
def reservedInOrder : List PublicKey := reserved.mergeSort fun a b => bytesLe a.data b.data

end Program
end LedgerKeys
