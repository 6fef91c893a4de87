/-
# UTF-16

A code point up to `FFFF` is one unit of two bytes, a larger one a pair of surrogate units. The
reader joins a high surrogate with a low one that follows it and lets every other surrogate pass
as a code point, so the only bytes it refuses are an odd one at the end.
-/
import LedgerKeys.Text.Utf8

namespace LedgerKeys

/-- Which byte of a number comes first. -/
inductive ByteOrder where
  | big
  | little
  deriving DecidableEq

/-- How encoding names end in this byte order. -/
def ByteOrder.suffix : ByteOrder → String
  | .big => "be"
  | .little => "le"

namespace Utf16

/-! ## 1. Units -/

/-- The two bytes of a unit. -/
def encodeUnit (order : ByteOrder) (u : Nat) : Bytes :=
  match order with
  | .big => [UInt8.ofNat (u / 256), UInt8.ofNat u]
  | .little => [UInt8.ofNat u, UInt8.ofNat (u / 256)]

/-- The unit that two bytes spell. -/
def unit (order : ByteOrder) (a b : UInt8) : CodePoint :=
  match order with
  | .big => ⟨a.toNat * 256 + b.toNat, by have := a.toNat_lt; have := b.toNat_lt; omega⟩
  | .little => ⟨b.toNat * 256 + a.toNat, by have := a.toNat_lt; have := b.toNat_lt; omega⟩

/-! ## 2. Writing -/

/-- The bytes of one code point. -/
def encodePoint (order : ByteOrder) (c : CodePoint) : Bytes :=
  if c.val < 0x10000 then encodeUnit order c.val
  else
    encodeUnit order (0xD800 + (c.val - 0x10000) / 0x400) ++
      encodeUnit order (0xDC00 + (c.val - 0x10000) % 0x400)

/-- The bytes of a text. -/
def encodeAll (order : ByteOrder) (t : Text) : Bytes := t.flatMap (encodePoint order)

/-! ## 3. Reading -/

/-- The units that bytes spell, the first byte being at position `pos`. -/
def unitsFrom (order : ByteOrder) (pos : Nat) : Bytes → Except DecodeFault Text
  | [] => .ok []
  | [a] => .error ⟨"utf-16-" ++ order.suffix, pos, [a], "truncated data"⟩
  | a :: b :: rest => (unit order a b :: ·) <$> unitsFrom order (pos + 2) rest

/-- The text with every surrogate pair joined. -/
def joinPairs : Text → Text
  | high :: low :: rest =>
    if high.isHighSurrogate ∧ low.isLowSurrogate then
      CodePoint.joinSurrogates high low :: joinPairs rest
    else high :: joinPairs (low :: rest)
  | t => t

/-- The text of bytes that begin at position `pos`. -/
def decodeFrom (order : ByteOrder) (pos : Nat) (bs : Bytes) : Except DecodeFault Text :=
  joinPairs <$> unitsFrom order pos bs

end Utf16

end LedgerKeys
