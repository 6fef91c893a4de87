/-
# Names of files

The system knows names as bytes and callers know them as texts. A text is written in UTF-8, and a
surrogate between `DC80` and `DCFF` stands for the single byte whose last two digits it has; every
other surrogate cannot be written. Read back, each byte that is not part of a well-formed spelling
becomes the surrogate that stands for it, so every name has a text, and two texts may name the same
file.
-/
import LedgerKeys.Text.Utf8

namespace LedgerKeys

/-- A name as the system knows it. -/
abbrev FileName := Bytes

namespace FileName

/-- A surrogate that stands for a byte. -/
def isEscape (c : CodePoint) : Bool := 0xDC80 ≤ c.val && c.val ≤ 0xDCFF

/-- The surrogate that stands for a byte from `80` on. -/
def escape (b : UInt8) : CodePoint := ⟨0xDC00 + b.toNat, by have := b.toNat_lt; omega⟩

/-- Why a text cannot be written: its first surrogate that stands for no byte, and the surrogates
right behind it. -/
def fault? (t : Text) : Option EncodeFault :=
  EncodeFault.find? "utf-8" "surrogates not allowed" (fun c => c.isSurrogate && !isEscape c)
    CodePoint.isSurrogate t

/-- The bytes of a code point in a name. -/
def encodePoint (c : CodePoint) : Bytes :=
  if isEscape c then [UInt8.ofNat c.val] else Utf8.encodePoint c

/-- The name that a text without faults stands for. -/
def ofText (t : Text) : FileName := t.flatMap encodePoint

/-- The text of a well-formed spelling, with the bytes of a spelled surrogate one by one. -/
def shown (t : Text) : Text :=
  t.flatMap fun c => if c.isSurrogate then (Utf8.encodePoint c).map escape else [c]

/-- The text of a name. The fuel bounds the number of its faults. -/
def textUpTo : Nat → FileName → Text
  | 0, _ => []
  | fuel + 1, bs =>
    match Utf8.decode bs with
    | .ok t => shown t
    | .error fault =>
      let good := (Utf8.decode (bs.take fault.start)).toOption.getD []
      shown good ++ fault.bytes.map escape ++
        textUpTo fuel (bs.drop (fault.start + fault.bytes.length))

/-- The text of a name. -/
def toText (name : FileName) : Text := textUpTo (name.length + 1) name

end FileName
end LedgerKeys
