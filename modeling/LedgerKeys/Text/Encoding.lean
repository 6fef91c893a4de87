/-
# Which encoding bytes are in

JSON may come as bytes in any of five encodings, with or without a byte order mark. `detect`
finds the encoding: a mark decides if there is one, and otherwise the places of the zero bytes
among the first four do, because a JSON document begins with a character of ASCII.

Positions in a refusal count the mark in the wide encodings and leave it out in UTF-8.
-/
import LedgerKeys.Text.Utf32

namespace LedgerKeys

/-- An encoding of text in bytes. -/
inductive Encoding where
  | utf8
  | utf16 (order : ByteOrder)
  | utf32 (order : ByteOrder)
  deriving DecidableEq

namespace Encoding

/-- The code point that marks the byte order at the start of a text. -/
def byteOrderMark : CodePoint := 0xFEFF

/-- The bytes of a text, surrogates included. -/
def encode : Encoding → Text → Bytes
  | utf8, t => Utf8.encodeAll t
  | utf16 order, t => Utf16.encodeAll order t
  | utf32 order, t => Utf32.encodeAll order t

/-- The bytes of the mark. -/
def mark : Encoding → Bytes
  | utf8 => [0xEF, 0xBB, 0xBF]
  | utf16 .big => [0xFE, 0xFF]
  | utf16 .little => [0xFF, 0xFE]
  | utf32 .big => [0, 0, 0xFE, 0xFF]
  | utf32 .little => [0xFF, 0xFE, 0, 0]

/-- All encodings, those with the longer marks first. -/
def all : List Encoding :=
  [utf32 .big, utf32 .little, utf16 .big, utf16 .little, utf8]

/-- The encoding whose mark the bytes begin with. -/
def ofMark? (bs : Bytes) : Option Encoding := all.find? fun e => e.mark.isPrefixOf bs

/-- The encoding of bytes without a mark, told by their zeros. -/
def ofZeros : Bytes → Encoding
  | 0 :: 0 :: _ :: _ :: _ => utf32 .big
  | 0 :: _ :: _ :: _ :: _ => utf16 .big
  | _ :: 0 :: 0 :: 0 :: _ => utf32 .little
  | _ :: 0 :: _ :: _ :: _ => utf16 .little
  | [0, _] => utf16 .big
  | [_, 0] => utf16 .little
  | _ => utf8

/-- The text of bytes that stand at position `pos`. -/
def decodeFrom : Encoding → Nat → Bytes → Except DecodeFault Text
  | utf8, _, bs => Utf8.decode bs
  | utf16 order, pos, bs => Utf16.decodeFrom order pos bs
  | utf32 order, pos, bs => Utf32.decodeFrom order pos bs

/-- The text of bytes in the encoding that they show. -/
def detectAndDecode (bs : Bytes) : Except DecodeFault Text :=
  match ofMark? bs with
  | some e => e.decodeFrom e.mark.length (bs.drop e.mark.length)
  | none => (ofZeros bs).decodeFrom 0 bs

end Encoding

end LedgerKeys
