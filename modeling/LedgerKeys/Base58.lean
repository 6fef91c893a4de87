/-
# Base58

A byte string is a number in base 256 behind a run of zero bytes. Its base58 text is the same
number in base 58, behind as many ones as there are zero bytes, so the run survives and no two
byte strings share a text. The alphabet leaves out `0`, `O`, `I` and `l`.
-/
import LedgerKeys.Bytes
import LedgerKeys.Text.Basic

namespace LedgerKeys
namespace Base58

/-! ## 1. The alphabet -/

/-- The 58 characters, by their values. -/
def alphabet : Text :=
  Text.ofString "123456789ABCDEFGHJKLMNPQRSTUVWXYZabcdefghijkmnopqrstuvwxyz"

/-- The character of value zero. -/
def one : CodePoint := 0x31

/-- The value of a character of the alphabet. -/
def value? (c : CodePoint) : Option Nat := alphabet.idxOf? c

/-- The character of a value below 58. -/
def character (value : Nat) : CodePoint := alphabet.getD value one

/-- The values of the characters of a text, or the first character outside the alphabet. -/
def values : Text → Except CodePoint (List Nat)
  | [] => .ok []
  | c :: rest =>
    match value? c with
    | some v => (v :: ·) <$> values rest
    | none => .error c

/-! ## 2. Encoding and decoding -/

/-- The base58 text of a byte string. -/
def encode (bs : Bytes) : Text :=
  List.replicate (bs.takeWhile (· == 0)).length one ++
    ((digits 58 bs.toNat).reverse.map character)

/-- The bytes of a base58 text, or its first character outside the alphabet. -/
def decode (t : Text) : Except CodePoint Bytes := do
  let vs ← values t
  pure (Bytes.zeros (vs.takeWhile (· == 0)).length ++ Bytes.ofNat (ofDigits 58 vs.reverse))

end Base58
end LedgerKeys
