/-
# Kinds of failure

Every failure is of a kind, and the kinds form a family tree: whoever expects a kind also expects
the kinds below it. The library's own kinds descend from one of their own and, besides, most of
them from the general kind that comes nearest. The failures of the file system are told apart by
their error numbers. The kinds of other libraries have one of these above them.
-/

namespace LedgerKeys

/-- A kind of failure. -/
inductive FailureKind where
  /- The library's own. -/
  | own
  | format
  | fileDecode
  | seedTooLong
  | tooManySeeds
  | illegalOwner
  | invalidSeeds
  | addressNotFound
  | randomSource
  /- Wrong arguments. -/
  | wrongType
  | wrongValue
  | unicode
  | unicodeEncode
  | unicodeDecode
  | unicodeTranslate
  | jsonDecode
  | noAttribute
  /- Arithmetic and look-up. -/
  | arithmetic
  | overflow
  | division
  | floating
  | lookUp
  | index
  | key
  /- The machine and its files. -/
  | system
  | fileMissing
  | fileExists
  | isDirectory
  | notDirectory
  | permission
  | blocking
  | child
  | connection
  | brokenPipe
  | connectionAborted
  | connectionRefused
  | connectionReset
  | interrupted
  | processMissing
  | timeout
  | memory
  /- The rest. -/
  | runtime
  | notImplemented
  | recursion
  | missingModule
  | moduleNotFound
  | undefined
  | unbound
  | assertion
  | buffer
  | endOfInput
  | reference
  | internal
  | stopped
  | any
  | root
  /- A kind of another library, right below one of these. -/
  | other (name : String) (parent : FailureKind)
  deriving DecidableEq

namespace FailureKind

/-- The name of the kind. -/
def name : FailureKind → String
  | own => "SolkeysError"
  | format => "FormatError"
  | fileDecode => "FileDecodeError"
  | seedTooLong => "SeedTooLongError"
  | tooManySeeds => "TooManySeedsError"
  | illegalOwner => "IllegalOwnerError"
  | invalidSeeds => "InvalidSeedsError"
  | addressNotFound => "ProgramAddressNotFoundError"
  | randomSource => "RandomSourceError"
  | wrongType => "TypeError"
  | wrongValue => "ValueError"
  | unicode => "UnicodeError"
  | unicodeEncode => "UnicodeEncodeError"
  | unicodeDecode => "UnicodeDecodeError"
  | unicodeTranslate => "UnicodeTranslateError"
  | jsonDecode => "JSONDecodeError"
  | noAttribute => "AttributeError"
  | arithmetic => "ArithmeticError"
  | overflow => "OverflowError"
  | division => "ZeroDivisionError"
  | floating => "FloatingPointError"
  | lookUp => "LookupError"
  | index => "IndexError"
  | key => "KeyError"
  | system => "OSError"
  | fileMissing => "FileNotFoundError"
  | fileExists => "FileExistsError"
  | isDirectory => "IsADirectoryError"
  | notDirectory => "NotADirectoryError"
  | permission => "PermissionError"
  | blocking => "BlockingIOError"
  | child => "ChildProcessError"
  | connection => "ConnectionError"
  | brokenPipe => "BrokenPipeError"
  | connectionAborted => "ConnectionAbortedError"
  | connectionRefused => "ConnectionRefusedError"
  | connectionReset => "ConnectionResetError"
  | interrupted => "InterruptedError"
  | processMissing => "ProcessLookupError"
  | timeout => "TimeoutError"
  | memory => "MemoryError"
  | runtime => "RuntimeError"
  | notImplemented => "NotImplementedError"
  | recursion => "RecursionError"
  | missingModule => "ImportError"
  | moduleNotFound => "ModuleNotFoundError"
  | undefined => "NameError"
  | unbound => "UnboundLocalError"
  | assertion => "AssertionError"
  | buffer => "BufferError"
  | endOfInput => "EOFError"
  | reference => "ReferenceError"
  | internal => "SystemError"
  | stopped => "StopIteration"
  | any => "Exception"
  | root => "BaseException"
  | other name _ => name

/-- All kinds that have a place of their own in the family. -/
def all : List FailureKind :=
  [.own, .format, .fileDecode, .seedTooLong, .tooManySeeds, .illegalOwner, .invalidSeeds,
    .addressNotFound, .randomSource, .wrongType, .wrongValue, .unicode, .unicodeEncode,
    .unicodeDecode, .unicodeTranslate, .jsonDecode, .noAttribute, .arithmetic, .overflow,
    .division, .floating, .lookUp, .index, .key, .system, .fileMissing, .fileExists, .isDirectory,
    .notDirectory, .permission, .blocking, .child, .connection, .brokenPipe, .connectionAborted,
    .connectionRefused, .connectionReset, .interrupted, .processMissing, .timeout, .memory,
    .runtime, .notImplemented, .recursion, .missingModule, .moduleNotFound, .undefined, .unbound,
    .assertion, .buffer, .endOfInput, .reference, .internal, .stopped, .any, .root]

/-- The kind of a name. Two names of old mean the general kind of the file system; of a name that
is not known here nothing is taken for granted but that it stands for a failure. -/
def ofName (name : String) : FailureKind :=
  if name == "IOError" || name == "EnvironmentError" then system
  else (all.find? fun k => k.name == name).getD (other name any)

/-- The kinds above a kind, the nearest first. -/
def above : FailureKind → List FailureKind
  | root => []
  | any => [root]
  | format | fileDecode | seedTooLong | tooManySeeds | illegalOwner | invalidSeeds =>
    [own, wrongValue, any, root]
  | addressNotFound => [own, any, root]
  | randomSource => [own, system, any, root]
  | unicode | jsonDecode => [wrongValue, any, root]
  | unicodeEncode | unicodeDecode | unicodeTranslate => [unicode, wrongValue, any, root]
  | overflow | division | floating => [arithmetic, any, root]
  | index | key => [lookUp, any, root]
  | fileMissing | fileExists | isDirectory | notDirectory | permission | blocking | child
  | connection | interrupted | processMissing | timeout => [system, any, root]
  | brokenPipe | connectionAborted | connectionRefused | connectionReset =>
    [connection, system, any, root]
  | notImplemented | recursion => [runtime, any, root]
  | moduleNotFound => [missingModule, any, root]
  | unbound => [undefined, any, root]
  | other _ parent => parent :: parent.above
  | _ => [any, root]

/-- Whether a kind is another one or stands below it. -/
def isA (k other : FailureKind) : Bool := k = other || k.above.contains other

/-- The kind of file system failure with an error number. -/
def ofErrorNumber : Int → FailureKind
  | 1 | 13 => permission
  | 2 => fileMissing
  | 3 => processMissing
  | 4 => interrupted
  | 10 => child
  | 11 | 114 | 115 => blocking
  | 17 => fileExists
  | 20 => notDirectory
  | 21 => isDirectory
  | 32 | 108 => brokenPipe
  | 103 => connectionAborted
  | 104 => connectionReset
  | 110 => timeout
  | 111 => connectionRefused
  | _ => system

end FailureKind
end LedgerKeys
