/-
# Quoted text and quoted bytes

Error messages show the text or byte string they complain about between quotes, so that blanks,
control characters and quotes in it stay visible. The quotes are single ones, unless the content
holds a single quote and no double quote. A backslash and the chosen quote are escaped, tab, line
feed and carriage return have escapes of their own, and every other character that is not
printable is written by its number in two, four or eight hexadecimal digits. A byte string is
shown the same way behind a `b`, each byte that is not printable ASCII by its number.
-/
import LedgerKeys.Text.Printable
import LedgerKeys.Bytes

namespace LedgerKeys

/-- The escape of a code point by its number: two, four or eight digits as needed. -/
def CodePoint.numericEscape (c : CodePoint) : Text :=
  if c.val ≤ 0xFF then "\\x" ++ Text.hex 2 c.val
  else if c.val ≤ 0xFFFF then "\\u" ++ Text.hex 4 c.val
  else "\\U" ++ Text.hex 8 c.val

namespace Text

/-- Which quote encloses a text: the double one only around single quotes without double ones. -/
def quoteFor (t : Text) : CodePoint :=
  if t.contains 0x27 && !t.contains 0x22 then 0x22 else 0x27

/-- How one code point stands between quotes. -/
def quotedPoint (quote c : CodePoint) : Text :=
  if c = quote ∨ c = 0x5C then [0x5C, c]
  else if c = 0x09 then "\\t"
  else if c = 0x0A then "\\n"
  else if c = 0x0D then "\\r"
  else if c.isPrintable then [c]
  else c.numericEscape

/-- The text between quotes. -/
def quoted (t : Text) : Text :=
  let quote := quoteFor t
  quote :: t.flatMap (quotedPoint quote) ++ [quote]

end Text

namespace Bytes

/-- How one byte stands between quotes: only ASCII is printable here. -/
def quotedByte (quote : CodePoint) (b : UInt8) : Text :=
  let c := CodePoint.ofByte b
  if c.isAscii then Text.quotedPoint quote c else c.numericEscape

/-- The byte string between quotes, behind a `b`. -/
def quoted (bs : Bytes) : Text :=
  let quote := Text.quoteFor (bs.map CodePoint.ofByte)
  "b" ++ quote :: bs.flatMap (quotedByte quote) ++ [quote]

end Bytes

end LedgerKeys
