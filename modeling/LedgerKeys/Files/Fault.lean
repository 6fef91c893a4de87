/-
# Faults of the file system

Each way in which a look at a path or a change below it can go wrong, with the number and the
wording that the system gives to it.
-/
import LedgerKeys.Failure.Kind

namespace LedgerKeys

/-- Why a path cannot be used. -/
inductive FileFault where
  | missing
  | occupied
  | notDirectory
  | isDirectory
  | nameTooLong
  deriving DecidableEq

namespace FileFault

/-- The error number. -/
def number : FileFault → Nat
  | missing => 2
  | occupied => 17
  | notDirectory => 20
  | isDirectory => 21
  | nameTooLong => 36

/-- The wording that goes with the number. -/
def wording : FileFault → String
  | missing => "No such file or directory"
  | occupied => "File exists"
  | notDirectory => "Not a directory"
  | isDirectory => "Is a directory"
  | nameTooLong => "File name too long"

/-- The kind of failure. -/
def kind (f : FileFault) : FailureKind := FailureKind.ofErrorNumber f.number

end FileFault
end LedgerKeys
