/-
# Blanks at the end of a text

The base58 reader ignores blanks after a text. Which characters are blank depends on what it is
given: in a text they are the 25 white-space characters of Unicode together with the four
information separators, in a byte string the six of ASCII.
-/
import LedgerKeys.Text.Basic
import LedgerKeys.Bytes

namespace LedgerKeys

/-- White space of Unicode, and the information separators `1c` to `1f`. -/
def CodePoint.isBlank (c : CodePoint) : Bool :=
  (0x09 ≤ c.val && c.val ≤ 0x0D) || (0x1C ≤ c.val && c.val ≤ 0x20) || c.val == 0x85 ||
    c.val == 0xA0 || c.val == 0x1680 || (0x2000 ≤ c.val && c.val ≤ 0x200A) || c.val == 0x2028 ||
    c.val == 0x2029 || c.val == 0x202F || c.val == 0x205F || c.val == 0x3000

/-- White space of ASCII: tab, line feed, vertical tab, form feed, carriage return and space. -/
def isBlankByte (b : UInt8) : Bool := (9 ≤ b && b ≤ 13) || b == 32

/-- The list without the elements at its end that satisfy `blank`. -/
def dropTrailing {α : Type} (blank : α → Bool) (xs : List α) : List α :=
  (xs.reverse.dropWhile blank).reverse

/-- The text without the blanks at its end. -/
def Text.trimEnd (t : Text) : Text := dropTrailing CodePoint.isBlank t

/-- The byte string without the blanks at its end. -/
def Bytes.trimEnd (bs : Bytes) : Bytes := dropTrailing isBlankByte bs

section Laws

variable {α : Type} (blank : α → Bool)

/-- A list that ends in an element that is not blank stays as it is. -/
theorem dropTrailing_concat_of_not {x : α} (xs : List α) (h : blank x = false) :
    dropTrailing blank (xs ++ [x]) = xs ++ [x] := by
  simp [dropTrailing, h]

/-- A list without blanks stays as it is. -/
theorem dropTrailing_eq_self {xs : List α} (h : ∀ x ∈ xs, blank x = false) :
    dropTrailing blank xs = xs := by
  rcases List.eq_nil_or_concat xs with rfl | ⟨ys, y, rfl⟩
  · rfl
  · rw [List.concat_eq_append]
    exact dropTrailing_concat_of_not blank ys (h y (by simp))

end Laws

end LedgerKeys
