/-
# ASCII and what it cannot write

Base58 text is read through its ASCII bytes. A text with other characters is refused, and the
refusal names the first run of such characters: one of them by its escape, several by the range
of their positions. The same shape of refusal serves the UTF-8 writer, whose bad characters are
the surrogates.
-/
import LedgerKeys.Text.Quoted

namespace LedgerKeys

/-- Why a text has no bytes in an encoding: the run of bad characters from `start` on. -/
structure EncodeFault where
  encoding : String
  start : Nat
  run : Text
  reason : String

namespace EncodeFault

/-- The first character that satisfies `bad`, with the characters behind it that satisfy `more`, if
there is one. -/
def find? (encoding reason : String) (bad more : CodePoint → Bool) (t : Text) :
    Option EncodeFault :=
  let good := t.takeWhile fun c => !bad c
  match t.dropWhile fun c => !bad c with
  | [] => none
  | c :: rest => some ⟨encoding, good.length, c :: rest.takeWhile more, reason⟩

/-- What is wrong, in which characters, and where they stand. -/
def message (f : EncodeFault) : Text :=
  let place : Text :=
    match f.run with
    | [c] => " codec can't encode character '" ++ c.numericEscape ++ "' in position " ++
        Text.ofNat f.start
    | run => " codec can't encode characters in position " ++ Text.ofNat f.start ++ "-" ++
        Text.ofNat (f.start + run.length - 1)
  "'" ++ Text.ofString f.encoding ++ "'" ++ place ++ ": " ++ Text.ofString f.reason

end EncodeFault

namespace Ascii

/-- The ASCII bytes of a text. -/
def encode (t : Text) : Except EncodeFault Bytes :=
  let bad (c : CodePoint) : Bool := !c.isAscii
  match EncodeFault.find? "ascii" "ordinal not in range(128)" bad bad t with
  | some fault => .error fault
  | none => .ok (t.map fun c => UInt8.ofNat c.val)

/-- The text with these bytes as code points. -/
def decode (bs : Bytes) : Text := bs.map CodePoint.ofByte

end Ascii

end LedgerKeys
