/-
# UTF-32

Every code point is one unit of four bytes. The reader lets surrogates pass and refuses a unit
beyond the last code point, as well as one to three bytes left over at the end.
-/
import LedgerKeys.Text.Utf16

namespace LedgerKeys
namespace Utf32

/-- The bytes of one code point. -/
def encodePoint (order : ByteOrder) (c : CodePoint) : Bytes :=
  let little := Bytes.ofNatLE 4 c.val
  match order with
  | .big => little.reverse
  | .little => little

/-- The bytes of a text. -/
def encodeAll (order : ByteOrder) (t : Text) : Bytes := t.flatMap (encodePoint order)

/-- The number that four bytes spell. -/
def unit (order : ByteOrder) (a b c d : UInt8) : Nat :=
  match order with
  | .big => Bytes.toNatLE [d, c, b, a]
  | .little => Bytes.toNatLE [a, b, c, d]

/-- The text of bytes that begin at position `pos`. -/
def decodeFrom (order : ByteOrder) (pos : Nat) : Bytes → Except DecodeFault Text
  | [] => .ok []
  | a :: b :: c :: d :: rest =>
    if h : unit order a b c d < 0x110000 then
      (⟨unit order a b c d, h⟩ :: ·) <$> decodeFrom order (pos + 4) rest
    else
      .error ⟨"utf-32-" ++ order.suffix, pos, [a, b, c, d], "code point not in range(0x110000)"⟩
  | rest => .error ⟨"utf-32-" ++ order.suffix, pos, rest, "truncated data"⟩

end Utf32
end LedgerKeys
