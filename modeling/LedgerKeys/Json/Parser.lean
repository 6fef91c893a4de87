/-
# Reading JSON

A cursor moves over the text; each reader returns a value and the cursor behind it, or the flaw it
met and where. Nesting is limited: a value is read with a budget of levels, and an array or object
inside takes one of them. An integer may have at most 4300 digits; a real may have any number.

A string is read in two steps. `readString` undoes the escapes and remembers which code points
came from a numeric one; `joinEscapes` then joins the surrogate pairs among these. A surrogate
that has no partner, or that stands in the text as it is, stays.
-/
import LedgerKeys.Json.Basic

namespace LedgerKeys
namespace Json

/-! ## 1. Flaws -/

/-- What is wrong with a text. -/
inductive Flaw where
  | value
  | propertyName
  | colon
  | comma
  | unterminated
  | control
  | escape
  | numericEscape
  | trailing
  | byteOrderMark
  deriving DecidableEq

/-- The wording of a flaw. -/
def Flaw.message : Flaw → String
  | .value => "Expecting value"
  | .propertyName => "Expecting property name enclosed in double quotes"
  | .colon => "Expecting ':' delimiter"
  | .comma => "Expecting ',' delimiter"
  | .unterminated => "Unterminated string starting at"
  | .control => "Invalid control character at"
  | .escape => "Invalid \\escape"
  | .numericEscape => "Invalid \\uXXXX escape"
  | .trailing => "Extra data"
  | .byteOrderMark => "Unexpected UTF-8 BOM (decode using utf-8-sig)"

/-- A place in a text: the line and the column count from one, the offset from zero. -/
structure Place where
  line : Nat
  column : Nat
  offset : Nat
  deriving DecidableEq

/-- The place of an offset in a text. -/
def Place.ofOffset (t : Text) (offset : Nat) : Place :=
  let before := t.take offset
  ⟨before.count 0x0A + 1, (before.reverse.takeWhile (· != 0x0A)).length + 1, offset⟩

/-- Why a text is not read; a flaw comes with its offset. -/
inductive Refusal where
  | flaw (what : Flaw) (offset : Nat)
  | tooDeep
  | tooManyDigits (count : Nat)
  deriving DecidableEq

/-- The most digits of an integer, unless the host sets another number. -/
def digitLimit : Nat := 4300

/-- The most arrays and objects that may stand inside each other. For the host that is a matter of
the stack that is left to the reader; a fixed number stands for it here, which is that of a reader
called from a nearly empty stack. -/
def nestingLimit : Nat := 990

/-! ## 2. Cursors -/

/-- The rest of a text and the offset at which it begins. -/
structure Cursor where
  rest : Text
  offset : Nat

/-- White space between tokens. -/
def isBlank (c : CodePoint) : Bool := c == 0x20 || c == 0x09 || c == 0x0A || c == 0x0D

/-- A decimal digit. -/
def isDigit (c : CodePoint) : Bool := c.digitValue?.isSome

namespace Cursor

/-- The cursor `n` code points further. -/
def advance (n : Nat) (c : Cursor) : Cursor := ⟨c.rest.drop n, c.offset + n⟩

/-- The longest run of code points with a property, and the cursor behind it. -/
def span (p : CodePoint → Bool) (c : Cursor) : Text × Cursor :=
  let run := c.rest.takeWhile p
  (run, ⟨c.rest.dropWhile p, c.offset + run.length⟩)

/-- The cursor behind white space. -/
def skipBlanks (c : Cursor) : Cursor := (c.span isBlank).2

/-- The refusal at this place. -/
def refuse {α : Type} (c : Cursor) (what : Flaw) : Except Refusal α := .error (.flaw what c.offset)

end Cursor

/-! ## 3. Strings -/

/-- A code point of a string and whether a numeric escape stands for it. -/
structure Piece where
  point : CodePoint
  escaped : Bool

/-- The text of the pieces: escapes of a high and then a low surrogate make one code point. -/
def joinEscapes : List Piece → Text
  | high :: low :: rest =>
    if high.escaped ∧ high.point.isHighSurrogate ∧ low.escaped ∧ low.point.isLowSurrogate then
      CodePoint.joinSurrogates high.point low.point :: joinEscapes rest
    else high.point :: joinEscapes (low :: rest)
  | [last] => [last.point]
  | [] => []

/-- What a letter after a backslash stands for. -/
def shortEscape? (c : CodePoint) : Option CodePoint :=
  if c = 0x22 ∨ c = 0x5C ∨ c = 0x2F then some c
  else if c = 0x62 then some 0x08
  else if c = 0x66 then some 0x0C
  else if c = 0x6E then some 0x0A
  else if c = 0x72 then some 0x0D
  else if c = 0x74 then some 0x09
  else none

/-- The code point of four hexadecimal digits. -/
def hexPoint? (a b c d : CodePoint) : Option CodePoint :=
  match a.hexValue?, b.hexValue?, c.hexValue?, d.hexValue? with
  | some a, some b, some c, some d =>
    some (Fin.ofNat 0x110000 (((a * 16 + b) * 16 + c) * 16 + d))
  | _, _, _, _ => none

/-- Puts a piece in front of what was read. -/
def prepend (p : Piece) (r : List Piece × Cursor) : List Piece × Cursor := (p :: r.1, r.2)

/-- The pieces of a string up to its closing quote; `start` is the offset of the opening one. -/
def readString (start offset : Nat) : Text → Except Refusal (List Piece × Cursor)
  | [] => .error (.flaw .unterminated start)
  | c :: rest =>
    if c = 0x22 then .ok ([], ⟨rest, offset + 1⟩)
    else if c.val < 0x20 then .error (.flaw .control offset)
    else if c ≠ 0x5C then prepend ⟨c, false⟩ <$> readString start (offset + 1) rest
    else match rest with
      | [] => .error (.flaw .unterminated start)
      | e :: rest =>
        if e = 0x75 then
          match rest with
          | h1 :: h2 :: h3 :: h4 :: next :: rest =>
            match hexPoint? h1 h2 h3 h4 with
            | some point =>
              prepend ⟨point, true⟩ <$> readString start (offset + 6) (next :: rest)
            | none => .error (.flaw .numericEscape (offset + 1))
          | _ => .error (.flaw .numericEscape (offset + 1))
        else
          match shortEscape? e with
          | some point => prepend ⟨point, false⟩ <$> readString start (offset + 2) rest
          | none => .error (.flaw .escape offset)

/-- The string behind an opening quote at the cursor. -/
def readText (c : Cursor) : Except Refusal (Text × Cursor) := do
  let (pieces, c) ← readString c.offset (c.offset + 1) (c.rest.drop 1)
  pure (joinEscapes pieces, c)

/-! ## 4. Numbers -/

/-- The number that decimal digits stand for. -/
def numberOf (digits : Text) : Nat :=
  digits.foldl (fun n c => n * 10 + c.digitValue?.getD 0) 0

/-- The digits of the whole part: a zero alone, or any that do not begin with zero. -/
def readWhole (c : Cursor) : Text × Cursor :=
  match c.rest with
  | 0x30 :: rest => ([0x30], ⟨rest, c.offset + 1⟩)
  | _ => c.span isDigit

/-- The digits behind a point. Without any, the point is not part of the number. -/
def readFraction (c : Cursor) : Text × Cursor :=
  match c.rest with
  | 0x2E :: _ =>
    let (digits, behind) := (c.advance 1).span isDigit
    if digits.isEmpty then ([], c) else (digits, behind)
  | _ => ([], c)

/-- The exponent, if there is a complete one. -/
def readExponent (c : Cursor) : Option Int × Cursor :=
  match c.rest with
  | e :: rest =>
    if e = 0x65 ∨ e = 0x45 then
      let negative := rest.head? == some 0x2D
      let signed := negative || rest.head? == some 0x2B
      let (digits, behind) := (c.advance (if signed then 2 else 1)).span isDigit
      if digits.isEmpty then (none, c)
      else
        let size : Int := numberOf digits
        (some (if negative then -size else size), behind)
    else (none, c)
  | [] => (none, c)

/-- The number at the cursor; a point or an exponent makes it real. -/
def readNumber (c : Cursor) : Except Refusal (Json × Cursor) :=
  let negative := c.rest.head? == some 0x2D
  let (whole, c1) := readWhole (if negative then c.advance 1 else c)
  let (fraction, c2) := readFraction c1
  let (exponent, c3) := readExponent c2
  if whole.isEmpty then c.refuse .value
  else if fraction.isEmpty ∧ exponent.isNone then
    if digitLimit < whole.length then .error (.tooManyDigits whole.length)
    else
      let size : Int := numberOf whole
      .ok (int (if negative then -size else size), c3)
  else
    let digits := numberOf (whole ++ fraction)
    .ok (real (Binary64.ofDecimal negative digits (exponent.getD 0 - fraction.length)), c3)

/-! ## 5. Values -/

/-- The values that are written as words. -/
def words : List (String × Json) :=
  [("null", null), ("true", bool true), ("false", bool false), ("NaN", real .nan),
    ("Infinity", real (.infinite false)), ("-Infinity", real (.infinite true))]

/-- The word or number at the cursor. -/
def readAtom (c : Cursor) : Except Refusal (Json × Cursor) :=
  match words.find? fun w => c.rest.startsWith w.1 with
  | some (word, value) => .ok (value, c.advance word.length)
  | none => readNumber c

/-- A reader of values. -/
abbrev Reader := Cursor → Except Refusal (Json × Cursor)

/-- The elements of an array up to its end. The fuel bounds their number. -/
def readElements (value : Reader) : Nat → Cursor → Except Refusal (List Json × Cursor)
  | 0, c => c.refuse .value
  | fuel + 1, c => do
    let (v, c) ← value c
    let c := c.skipBlanks
    match c.rest with
    | 0x5D :: rest => pure ([v], ⟨rest, c.offset + 1⟩)
    | 0x2C :: rest =>
      let (vs, c) ← readElements value fuel (Cursor.mk rest (c.offset + 1)).skipBlanks
      pure (v :: vs, c)
    | _ => c.refuse .comma

/-- The members of an object up to its end. The fuel bounds their number. -/
def readMembers (value : Reader) : Nat → Cursor → Except Refusal (List (Text × Json) × Cursor)
  | 0, c => c.refuse .propertyName
  | fuel + 1, c => do
    if c.rest.head? ≠ some 0x22 then c.refuse .propertyName
    let (key, c) ← readText c
    let c := c.skipBlanks
    if c.rest.head? ≠ some 0x3A then c.refuse .colon
    let (v, c) ← value (c.advance 1).skipBlanks
    let c := c.skipBlanks
    match c.rest with
    | 0x7D :: rest => pure ([(key, v)], ⟨rest, c.offset + 1⟩)
    | 0x2C :: rest =>
      let (ms, c) ← readMembers value fuel (Cursor.mk rest (c.offset + 1)).skipBlanks
      pure ((key, v) :: ms, c)
    | _ => c.refuse .comma

/-- The array behind its opening bracket. -/
def readArray (value : Reader) (c : Cursor) : Except Refusal (Json × Cursor) :=
  let c := c.skipBlanks
  match c.rest with
  | 0x5D :: rest => .ok (arr [], ⟨rest, c.offset + 1⟩)
  | _ => do
    let (vs, c) ← readElements value (c.rest.length + 1) c
    pure (arr vs, c)

/-- The object behind its opening brace. -/
def readObject (value : Reader) (c : Cursor) : Except Refusal (Json × Cursor) :=
  let c := c.skipBlanks
  match c.rest with
  | 0x7D :: rest => .ok (obj [], ⟨rest, c.offset + 1⟩)
  | _ => do
    let (ms, c) ← readMembers value (c.rest.length + 1) c
    pure (obj (membersOf ms), c)

/-- The value at the cursor, with `inner` to read what arrays and objects hold. -/
def readWith (inner : Reader) (nested : Bool) (c : Cursor) : Except Refusal (Json × Cursor) :=
  match c.rest with
  | 0x22 :: _ => do
    let (t, c) ← readText c
    pure (str t, c)
  | 0x5B :: _ => if nested then readArray inner (c.advance 1) else .error .tooDeep
  | 0x7B :: _ => if nested then readObject inner (c.advance 1) else .error .tooDeep
  | _ => readAtom c

/-- The value at the cursor, with at most `levels` arrays and objects inside each other. -/
def readValue : Nat → Reader
  | 0 => readWith (fun c => c.refuse .value) false
  | levels + 1 => readWith (readValue levels) true

/-- The value of a whole text. -/
def parse (t : Text) : Except Refusal Json := do
  let (v, c) ← readValue nestingLimit (Cursor.mk t 0).skipBlanks
  let c := c.skipBlanks
  if c.rest.isEmpty then pure v else c.refuse .trailing

end Json
end LedgerKeys
