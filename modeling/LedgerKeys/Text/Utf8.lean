/-
# UTF-8

`encodePoint` spells one code point in one to four bytes. Two readings of UTF-8 are needed. Seed
texts are written strictly, so a lone surrogate is refused. JSON bytes are read leniently: a
surrogate spelled out in three bytes is a code point like any other. Everything else that is not
the spelling of a code point is refused, with the bytes that went wrong:

* a byte that starts nothing is reported alone;
* a wrong byte inside a spelling is reported by the bytes before it, from the lead byte on;
* a spelling that the end cuts short is reported whole.
-/
import LedgerKeys.Text.Ascii

namespace LedgerKeys

/-- Why bytes have no text in an encoding: the undecodable bytes, which begin at `start`. -/
structure DecodeFault where
  encoding : String
  start : Nat
  bytes : Bytes
  reason : String

/-- What is wrong, in which bytes, and where they stand. -/
def DecodeFault.message (f : DecodeFault) : Text :=
  let place : Text :=
    match f.bytes with
    | [b] => " codec can't decode byte 0x" ++ Text.hex 2 b.toNat ++ " in position " ++
        Text.ofNat f.start
    | bytes => " codec can't decode bytes in position " ++ Text.ofNat f.start ++ "-" ++
        Text.ofNat (f.start + bytes.length - 1)
  "'" ++ Text.ofString f.encoding ++ "'" ++ place ++ ": " ++ Text.ofString f.reason

namespace Utf8

/-! ## 1. Writing -/

/-- The bytes of one code point. -/
def encodePoint (c : CodePoint) : Bytes :=
  let n := c.val
  if n < 0x80 then [UInt8.ofNat n]
  else if n < 0x800 then [UInt8.ofNat (0xC0 + n / 0x40), UInt8.ofNat (0x80 + n % 0x40)]
  else if n < 0x10000 then
    [UInt8.ofNat (0xE0 + n / 0x1000), UInt8.ofNat (0x80 + n / 0x40 % 0x40),
      UInt8.ofNat (0x80 + n % 0x40)]
  else
    [UInt8.ofNat (0xF0 + n / 0x40000), UInt8.ofNat (0x80 + n / 0x1000 % 0x40),
      UInt8.ofNat (0x80 + n / 0x40 % 0x40), UInt8.ofNat (0x80 + n % 0x40)]

/-- The bytes of a text, each surrogate in three bytes. -/
def encodeAll (t : Text) : Bytes := t.flatMap encodePoint

/-- The bytes of a text without surrogates. -/
def encode (t : Text) : Except EncodeFault Bytes :=
  let bad := CodePoint.isSurrogate
  match EncodeFault.find? "utf-8" "surrogates not allowed" bad bad t with
  | some fault => .error fault
  | none => .ok (encodeAll t)

/-! ## 2. Reading -/

/-- A byte that can only stand after a lead byte. -/
def isContinuation (b : UInt8) : Bool := 0x80 ≤ b && b ≤ 0xBF

/-- How many continuation bytes follow a lead byte, if it is one. -/
def continuations? (lead : UInt8) : Option Nat :=
  if 0xC2 ≤ lead ∧ lead ≤ 0xDF then some 1
  else if 0xE0 ≤ lead ∧ lead ≤ 0xEF then some 2
  else if 0xF0 ≤ lead ∧ lead ≤ 0xF4 then some 3
  else none

/-- Whether `second` may follow `lead`: a continuation byte that makes the spelling neither longer
than needed nor larger than the last code point. -/
def mayFollow (lead second : UInt8) : Bool :=
  isContinuation second &&
    !(lead == 0xE0 && second < 0xA0) && !(lead == 0xF0 && second < 0x90) &&
    !(lead == 0xF4 && 0x90 ≤ second)

/-- Whether the two bytes begin the spelling of a surrogate. -/
def beginsSurrogate (lead second : UInt8) : Bool := lead == 0xED && 0xA0 ≤ second

/-- The code point with number `n`; only used below the bound. -/
def point (n : Nat) : CodePoint := Fin.ofNat 0x110000 n

/-- The low six bits of a continuation byte. -/
def payload (b : UInt8) : Nat := b.toNat % 0x40

/-- A fault of this encoding. -/
def fault (start : Nat) (bytes : Bytes) (reason : String) : DecodeFault :=
  ⟨"utf-8", start, bytes, reason⟩

/-- The bytes stop in the middle of a spelling. -/
def cutShort (start : Nat) (bytes : Bytes) : DecodeFault :=
  fault start bytes "unexpected end of data"

/-- The byte after these cannot stand there. -/
def brokenOff (start : Nat) (bytes : Bytes) : DecodeFault :=
  fault start bytes "invalid continuation byte"

/-- The text of `bs`, whose first byte is at position `pos`. -/
def decodeFrom (pos : Nat) : Bytes → Except DecodeFault Text
  | [] => .ok []
  | a :: rest =>
    if a < 0x80 then (CodePoint.ofByte a :: ·) <$> decodeFrom (pos + 1) rest
    else match continuations? a, rest with
      | none, _ => .error (fault pos [a] "invalid start byte")
      | some _, [] => .error (cutShort pos [a])
      | some more, b :: rest =>
        if !mayFollow a b then .error (brokenOff pos [a])
        else if more = 1 then
          (point (a.toNat % 0x20 * 0x40 + payload b) :: ·) <$> decodeFrom (pos + 2) rest
        else match rest with
          | [] => .error (if beginsSurrogate a b then brokenOff pos [a] else cutShort pos [a, b])
          | c :: rest =>
            if !isContinuation c then
              .error (brokenOff pos (if beginsSurrogate a b then [a] else [a, b]))
            else if more = 2 then
              (point (a.toNat % 0x10 * 0x1000 + payload b * 0x40 + payload c) :: ·) <$>
                decodeFrom (pos + 3) rest
            else match rest with
              | [] => .error (cutShort pos [a, b, c])
              | d :: rest =>
                if !isContinuation d then .error (brokenOff pos [a, b, c])
                else
                  (point (a.toNat % 0x08 * 0x40000 + payload b * 0x1000 + payload c * 0x40 +
                    payload d) :: ·) <$> decodeFrom (pos + 4) rest

/-- The text that bytes spell, surrogates allowed. -/
def decode (bs : Bytes) : Except DecodeFault Text := decodeFrom 0 bs

end Utf8

end LedgerKeys
