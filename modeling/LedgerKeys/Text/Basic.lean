/-
# Text as code points

A text is a list of code points, and a code point is any number below `0x110000`, a lone
surrogate included: such texts reach the library through escapes in JSON and through byte strings
that spell surrogates out, so `String`, which cannot hold them, is only used for the fixed wording
of the library itself. `Text.ofString` brings that wording in.
-/

namespace LedgerKeys

/-- A Unicode code point, surrogates included. -/
abbrev CodePoint := Fin 0x110000

-- The zero of the core library is meant, also where there are others in sight.
attribute [local instance (high)] Zero.ofOfNat0

instance CodePoint.neZeroCount : NeZero (0x110000 : Nat) := ⟨by decide⟩

/-- A sequence of code points. -/
abbrev Text := List CodePoint

namespace CodePoint

/-- The code point of a character. -/
def ofChar (c : Char) : CodePoint :=
  ⟨c.toNat, by
    have h := c.valid
    simp only [UInt32.isValidChar, Nat.isValidChar] at h
    show c.val.toNat < _
    omega⟩

/-- The first half of a surrogate pair. -/
def isHighSurrogate (c : CodePoint) : Bool := 0xD800 ≤ c.val && c.val ≤ 0xDBFF

/-- The second half of a surrogate pair. -/
def isLowSurrogate (c : CodePoint) : Bool := 0xDC00 ≤ c.val && c.val ≤ 0xDFFF

/-- Either half of a surrogate pair. -/
def isSurrogate (c : CodePoint) : Bool := 0xD800 ≤ c.val && c.val ≤ 0xDFFF

/-- Whether the code point is one of the 128 of ASCII. -/
def isAscii (c : CodePoint) : Bool := c.val < 0x80

/-- The code point that a surrogate pair stands for. -/
def joinSurrogates (high low : CodePoint) : CodePoint :=
  ⟨0x10000 + (high.val % 0x400) * 0x400 + low.val % 0x400, by omega⟩

/-- The value of a hexadecimal digit in either case. -/
def hexValue? (c : CodePoint) : Option Nat :=
  if 0x30 ≤ c.val ∧ c.val ≤ 0x39 then some (c.val - 0x30)
  else if 0x41 ≤ c.val ∧ c.val ≤ 0x46 then some (c.val - 0x41 + 10)
  else if 0x61 ≤ c.val ∧ c.val ≤ 0x66 then some (c.val - 0x61 + 10)
  else none

/-- The value of a decimal digit of ASCII. -/
def digitValue? (c : CodePoint) : Option Nat :=
  if 0x30 ≤ c.val ∧ c.val ≤ 0x39 then some (c.val - 0x30) else none

/-- The code point with a byte's number. -/
def ofByte (b : UInt8) : CodePoint :=
  ⟨b.toNat, by have := b.toNat_lt; omega⟩

end CodePoint

namespace Text

/-- The code points of a string. -/
def ofString (s : String) : Text := s.toList.map CodePoint.ofChar

instance : Coe String Text := ⟨ofString⟩

/-- The text of decimal or hexadecimal digit characters. -/
def ofChars (cs : List Char) : Text := cs.map CodePoint.ofChar

/-- A natural number in decimal. -/
def ofNat (n : Nat) : Text := ofChars (Nat.toDigits 10 n)

/-- An integer in decimal, with a minus sign if it is negative. -/
def ofInt : Int → Text
  | .ofNat n => ofNat n
  | .negSucc n => CodePoint.ofChar '-' :: ofNat (n + 1)

/-- The low `width` hexadecimal digits of `n`, in lower case, most significant first. -/
def hex : Nat → Nat → Text
  | 0, _ => []
  | width + 1, n => hex width (n / 16) ++ [CodePoint.ofChar (Nat.digitChar (n % 16))]

/-- Whether the text begins with `start`. -/
def startsWith (t start : Text) : Bool := start.isPrefixOf t

/-- The texts joined by a separator. -/
def join (separator : Text) : List Text → Text
  | [] => []
  | [t] => t
  | t :: ts => t ++ separator ++ join separator ts

/-- One text per code point. -/
def singletons (t : Text) : List Text := t.map ([·])

end Text

end LedgerKeys
