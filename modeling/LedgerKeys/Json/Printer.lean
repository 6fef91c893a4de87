/-
# Writing JSON

The written form is ASCII on one line: a comma and a space between elements, a colon and a space
behind a member's name. In a string the quote, the backslash and five control characters have
escapes of their own; every other character that is not printable ASCII is written by its UTF-16
units.
-/
import LedgerKeys.Json.Basic

namespace LedgerKeys
namespace Json

/-! ## 1. Strings -/

/-- The numeric escape of a UTF-16 unit. -/
def unitEscape (u : Nat) : Text := "\\u" ++ Text.hex 4 u

/-- How a code point stands in a string. -/
def escapePoint (c : CodePoint) : Text :=
  if c = 0x22 then "\\\""
  else if c = 0x5C then "\\\\"
  else if c = 0x0A then "\\n"
  else if c = 0x0D then "\\r"
  else if c = 0x09 then "\\t"
  else if c = 0x0C then "\\f"
  else if c = 0x08 then "\\b"
  else if 0x20 ≤ c.val ∧ c.val ≤ 0x7E then [c]
  else if c.val < 0x10000 then unitEscape c.val
  else
    unitEscape (0xD800 + (c.val - 0x10000) / 0x400) ++
      unitEscape (0xDC00 + (c.val - 0x10000) % 0x400)

/-- A string between its quotes. -/
def printText (t : Text) : Text := [0x22] ++ t.flatMap escapePoint ++ [0x22]

/-! ## 2. Values -/

/-- A real number; infinities and what is not a number have words. -/
def printReal : Binary64 → Text
  | .nan => "NaN"
  | .infinite negative => if negative then "-Infinity" else "Infinity"
  | x => x.text

mutual

/-- The written form of a value. -/
def print : Json → Text
  | null => "null"
  | bool true => "true"
  | bool false => "false"
  | int n => Text.ofInt n
  | real x => printReal x
  | str t => printText t
  | arr vs => [0x5B] ++ Text.join ", " (printAll vs) ++ [0x5D]
  | obj ms => [0x7B] ++ Text.join ", " (printMembers ms) ++ [0x7D]

/-- The written forms of the elements of an array. -/
def printAll : List Json → List Text
  | [] => []
  | v :: vs => print v :: printAll vs

/-- The written forms of the members of an object. -/
def printMembers : List (Text × Json) → List Text
  | [] => []
  | (k, v) :: ms => (printText k ++ Text.ofString ": " ++ print v) :: printMembers ms

end

end Json
end LedgerKeys
