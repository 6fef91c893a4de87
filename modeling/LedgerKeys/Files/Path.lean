/-
# Paths

A path is a list of names. Empty names and single dots are dropped when it is read from a text;
double dots stay, because what they lead to depends on the files.
-/
import LedgerKeys.Files.Name

namespace LedgerKeys

/-- A path, relative to the working directory unless it begins at the root. -/
structure FilePath where
  rooted : Bool
  names : List Text
  deriving DecidableEq

namespace FilePath

/-- The character between names. -/
def slash : CodePoint := 0x2F

/-- The parts of a text between slashes. -/
def split : Text → List Text
  | [] => [[]]
  | c :: rest =>
    if c = slash then [] :: split rest
    else match split rest with
      | [] => [[c]]
      | first :: more => (c :: first) :: more

/-- The path that a text spells. -/
def ofText (t : Text) : FilePath :=
  ⟨t.head? = some slash, (split t).filter fun name => name ≠ [] ∧ name ≠ [0x2E]⟩

/-- The text of a path. -/
def toText (p : FilePath) : Text :=
  if p.rooted then slash :: Text.join [slash] p.names
  else if p.names.isEmpty then "."
  else Text.join [slash] p.names

/-- The names as the system knows them. -/
def fileNames (p : FilePath) : List FileName := p.names.map FileName.ofText

/-- The path without its last name. -/
def parent (p : FilePath) : FilePath := ⟨p.rooted, p.names.dropLast⟩

end FilePath
end LedgerKeys
