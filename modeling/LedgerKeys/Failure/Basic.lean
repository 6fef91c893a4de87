/-
# Failures

A failure is the cause of an operation's refusal, with the data that the cause is about. Its kind
and its wording are functions of it. A failure may have another one as its cause: a key text that
is refused carries what the base58 reader found wrong, a search that finds nothing carries the
failure of its last attempt.
-/
import LedgerKeys.Files.Fault
import LedgerKeys.Json.Parser
import LedgerKeys.Text.Encoding
import LedgerKeys.Value.Literal

namespace LedgerKeys

-- The powers of the core library are meant, also where there are others in sight.
attribute [local instance (high)] instPowNat

/-- What has to have a certain length. -/
inductive Measured where
  | publicKey
  | signature
  | privateKey
  | secretKey
  | seed
  deriving DecidableEq

namespace Measured

/-- The length in bytes that is wanted. -/
def expected : Measured → Nat
  | publicKey | seed => 32
  | signature | privateKey | secretKey => 64

/-- The name that stands before the word length. -/
def name : Measured → String
  | publicKey => ""
  | signature => "signature "
  | privateKey => "private key "
  | secretKey => "secret key "
  | seed => "seed "

end Measured

/-- Why an operation is refused. -/
inductive Failure where
  /- Texts and lengths of keys. -/
  | length (what : Measured) (got : Nat)
  | base58 (source : Value) (cause : Failure)
  | publicKeyJson (cause : Failure)
  | publicKeyNotText (found : Json)
  | publicKeyText (source : Text) (cause : Failure)
  | privateKeyJson (cause : Failure)
  | privateKeyNotText
  | publicKeyLiteral (source : Value) (cause : Failure)
  | privateKeyLiteral (cause : Failure)
  /- Key files. -/
  | keygenJson (cause : Failure)
  | keygenNotArray
  | keygenElement (found : Json)
  | keygenCount (got : Nat)
  | keygenMissing (path : Text)
  | file (fault : FileFault) (path : Text)
  | nullInPath
  /- Addresses. -/
  | seedTooLong (got : Nat)
  | tooManySeeds (got : Nat)
  | illegalOwner (owner : PublicKey)
  | onCurve
  | addressNotFound (last : Failure)
  | trusted (operation : String) (cause : Failure)
  /- Entropy and backends. -/
  | entropyUnavailable (cause : Failure)
  | entropyLength (got : Nat)
  | backendUnknown (name : Text)
  | backendMissing
  /- Texts in bytes and JSON. -/
  | character (c : CodePoint)
  | encoding (fault : EncodeFault)
  | decoding (fault : DecodeFault)
  | json (what : Json.Flaw) (place : Json.Place)
  | jsonDigits (count : Nat)
  | notSerializable (kind : String)
  | circular
  | memberKind (kind : String)
  /- Values of the wrong kind or size. -/
  | seedKind (kind : String)
  | keyDataKind (kind : String)
  | wrongType
  | noAttribute
  | byteRange
  | noByte
  | negativeCount
  | countTooLarge
  | outOfMemory
  /- Lists and other sequences. -/
  | notInList (element : Value)
  | notInTuple
  | removeAbsent
  | partAbsent
  | sectionAbsent
  | byteAbsent
  | keyAbsent (key : Value)
  | noSuchIndex
  /- Nesting. -/
  | tooDeep
  /- What a callback or a device raises. -/
  | raised (kind : FailureKind) (text : Text)
  deriving Inhabited

namespace Failure

/-! ## 1. Kind and cause -/

/-- The kind of a failure. -/
def kind : Failure → FailureKind
  | length .. | base58 .. | publicKeyJson _ | publicKeyNotText _ | publicKeyText ..
  | privateKeyJson _ | privateKeyNotText => .format
  | keygenJson _ | keygenNotArray | keygenElement _ | keygenCount _ => .fileDecode
  | publicKeyLiteral .. | privateKeyLiteral _ | trusted .. => .runtime
  | keygenMissing _ => .fileMissing
  | file fault _ => fault.kind
  | seedTooLong _ => .seedTooLong
  | tooManySeeds _ => .tooManySeeds
  | illegalOwner _ => .illegalOwner
  | onCurve => .invalidSeeds
  | addressNotFound _ => .addressNotFound
  | entropyUnavailable _ | entropyLength _ => .randomSource
  | backendMissing => .missingModule
  | encoding _ => .unicodeEncode
  | decoding _ => .unicodeDecode
  | json .. => .jsonDecode
  | tooDeep => .recursion
  | character _ | jsonDigits _ | nullInPath | backendUnknown _ | byteRange | noByte
  | negativeCount | notInList _ | notInTuple | removeAbsent | partAbsent | sectionAbsent
  | byteAbsent | circular => .wrongValue
  | notSerializable _ | memberKind _ | seedKind _ | keyDataKind _ | wrongType => .wrongType
  | noAttribute => .noAttribute
  | keyAbsent _ => .key
  | countTooLarge => .overflow
  | outOfMemory => .memory
  | noSuchIndex => .index
  | raised kind _ => kind

/-- Whether the failure is of a kind or of one below it. -/
def isA (f : Failure) (kind : FailureKind) : Bool := f.kind.isA kind

/-- The failure that led to this one. -/
def cause? : Failure → Option Failure
  | base58 _ cause | publicKeyJson cause | publicKeyText _ cause | privateKeyJson cause
  | publicKeyLiteral _ cause | privateKeyLiteral cause | keygenJson cause | addressNotFound cause
  | trusted _ cause | entropyUnavailable cause => some cause
  | _ => none

/-! ## 2. Wording -/

/-- A wording with a number behind it. -/
def counted (wording : String) (n : Nat) : Text := Text.ofString wording ++ Text.ofNat n

/-- The wording of a failure; empty where only the kind is told. -/
def message : Failure → Text
  | length what got =>
    Text.ofString "invalid " ++ Text.ofString what.name ++
      counted "length, expected " what.expected ++ counted ", got " got
  | base58 source cause =>
    Text.ofString "invalid base58 string " ++ source.literal ++ Text.ofString ": " ++ cause.message
  | publicKeyJson cause => Text.ofString "invalid public key JSON: " ++ cause.message
  | publicKeyNotText found =>
    Text.ofString "invalid public key " ++ (Value.ofJson found).literal ++
      Text.ofString ": expected a JSON string"
  | publicKeyText source cause =>
    Text.ofString "invalid public key " ++ source.quoted ++ Text.ofString ": " ++ cause.message
  | privateKeyJson cause => Text.ofString "invalid private key JSON: " ++ cause.message
  | privateKeyNotText => "invalid private key: expected a JSON string"
  | publicKeyLiteral source _ => Text.ofString "invalid public key literal " ++ source.literal
  | privateKeyLiteral _ => "invalid private key literal"
  | keygenJson cause => Text.ofString "decode keygen file: " ++ cause.message
  | keygenNotArray => "decode keygen file: expected a JSON array"
  | keygenElement found =>
    Text.ofString "decode keygen file: " ++ (Value.ofJson found).literal ++
      Text.ofString " is not a byte value"
  | keygenCount got => counted "decode keygen file: expected 64 values, got " got
  | keygenMissing path => Text.ofString "Keygen file not found: " ++ path
  | file fault path =>
    counted "[Errno " fault.number ++ Text.ofString "] " ++ Text.ofString fault.wording ++
      Text.ofString ": " ++ path.quoted
  | nullInPath => "embedded null byte"
  | seedTooLong got => counted "max seed length exceeded: " got ++ Text.ofString " > 32"
  | tooManySeeds got => counted "max seeds exceeded: " got ++ Text.ofString " > 16"
  | illegalOwner owner =>
    Text.ofString "illegal owner: " ++ owner.toBase58 ++ Text.ofString " is a native program"
  | onCurve => "invalid seeds; address must fall off the curve"
  | addressNotFound last =>
    Text.ofString "unable to find a valid program address: " ++ last.message
  | trusted operation cause =>
    Text.ofString operation ++ Text.ofString " failed on trusted input: " ++ cause.message
  | entropyUnavailable cause =>
    Text.ofString "secure random source unavailable: " ++ cause.message
  | entropyLength got =>
    counted "secure random source returned " got ++ Text.ofString " bytes, expected 32"
  | backendUnknown name =>
    Text.ofString "SOLKEYS_ED25519_BACKEND must be one of ['cryptography', 'nacl'], got " ++
      name.quoted
  | backendMissing =>
    "Ed25519 signatures require 'PyNaCl' or 'cryptography'. Install with: pip install PyNaCl"
  | character c => Text.ofString "Invalid character " ++ Text.quoted [c]
  | encoding fault => fault.message
  | decoding fault => fault.message
  | json what place =>
    Text.ofString what.message ++ counted ": line " place.line ++
      counted " column " place.column ++ counted " (char " place.offset ++ Text.ofString ")"
  | jsonDigits count =>
    Text.ofString "Exceeds the limit (4300 digits) for integer string conversion: value has " ++
      counted "" count ++
      Text.ofString " digits; use sys.set_int_max_str_digits() to increase the limit"
  | notSerializable kind =>
    Text.ofString "Object of type " ++ Text.ofString kind ++
      Text.ofString " is not JSON serializable"
  | circular => "Circular reference detected"
  | memberKind kind =>
    Text.ofString "keys must be str, int, float, bool or None, not " ++ Text.ofString kind
  | seedKind kind => Text.ofString "seed must be bytes-like, not " ++ Text.ofString kind
  | keyDataKind kind => Text.ofString "key data must be bytes-like, not " ++ Text.ofString kind
  | byteRange => "bytes must be in range(0, 256)"
  | noByte => "byte must be in range(0, 256)"
  | negativeCount => "negative count"
  | notInList element => element.literal ++ Text.ofString " is not in list"
  | notInTuple => "tuple.index(x): x not in tuple"
  | removeAbsent => "list.remove(x): x not in list"
  | partAbsent => "substring not found"
  | sectionAbsent => "subsection not found"
  | byteAbsent => "value not found in bytearray"
  | keyAbsent key => key.literal
  | raised _ text => text
  | wrongType | noAttribute | countTooLarge | outOfMemory | noSuchIndex | tooDeep => []

/-- The beginnings of the wordings that are told of values of a wrong kind. -/
def ownWordings : List String :=
  ["seed must be", "key data must be", "Object of type", "keys must be"]

/-- The wording as far as it is told: of some kinds only the kind is. -/
def shownMessage? (f : Failure) : Option Text :=
  match f.kind with
  | .noAttribute | .overflow | .index | .recursion => none
  | .wrongType =>
    if ownWordings.any fun w => f.message.startsWith w then some f.message else none
  | _ => some f.message

/-! ## 3. What callbacks raise -/

/-- The text of arguments: nothing, the one argument, or all of them between brackets. -/
def argumentText : List Value → Text
  | [] => []
  | [a] => a.plain
  | more => (Value.tuple more).literal

/-- An argument that is given and is not nothing. -/
def given? : List Value → Option Value
  | [] => none
  | .null :: _ => none
  | v :: _ => some v

/-- The failure of the file system with a number, a text and, if there are more arguments, the
path it is about and a second one. For a blocking failure a number in the place of the path counts
what was written and is not shown. -/
def raiseSystem (kind : FailureKind) (number text : Value) (more : List Value) : Failure :=
  let actual :=
    match kind, number.wholeNumber? with
    | .system, some n => FailureKind.ofErrorNumber n
    | kind, _ => kind
  let start := Text.ofString "[Errno " ++ number.plain ++ Text.ofString "] " ++ text.plain
  match given? more with
  | none => raised actual start
  | some subject =>
    match actual, subject with
    | .blocking, .real _ => wrongType
    | .blocking, .bool _ => raised actual start
    | .blocking, .int n =>
      if -2 ^ (63 : Nat) ≤ n ∧ n < 2 ^ (63 : Nat) then raised actual start
      else raised .wrongValue "cannot fit 'int' into an index-sized integer"
    | _, _ =>
      let second := match given? (more.drop 2) with
        | none => []
        | some other => Text.ofString " -> " ++ other.literal
      raised actual (start ++ Text.ofString ": " ++ subject.literal ++ second)

/-- The text about the part of a text or of bytes that cannot be turned into the other: the one
element of it as it is shown, or the places of several. -/
def partText (what : String) (element? : Int → Option Text) (start stop : Int) (reason : Text) :
    Text :=
  let part := match if stop = start + 1 then element? start else none with
    | some shown => " " ++ shown ++ " in position " ++ Text.ofInt start
    | none => "s in position " ++ Text.ofInt start ++ "-" ++ Text.ofInt (stop - 1)
  Text.ofString what ++ part ++ ": " ++ reason

/-- The character at a place, as failures show it. -/
def shownCharacter (t : Text) (place : Int) : Option Text :=
  if place < 0 then none
  else t[place.toNat]?.map fun c => "'" ++ c.numericEscape ++ "'"

/-- The byte at a place, as failures show it. -/
def shownByte (bs : Bytes) (place : Int) : Option Text :=
  if place < 0 then none
  else bs[place.toNat]?.map fun b => "0x" ++ Text.hex 2 b.toNat

/-- The failure of reading or writing text, which is raised with all its particulars only. -/
def raiseUnicode (kind : FailureKind) (arguments : List Value) : Failure :=
  let raise (intro : Text) (what : String) (element? : Int → Option Text) (start stop : Value)
      (reason : Text) : Failure :=
    match start.wholeNumber?, stop.wholeNumber? with
    | some i, some j => raised kind (intro ++ partText what element? i j reason)
    | _, _ => wrongType
  let codec (name : Text) : Text := "'" ++ name ++ "' codec "
  match kind, arguments with
  | .unicodeEncode, [.text name, .text t, start, stop, .text reason] =>
    raise (codec name) "can't encode character" (shownCharacter t) start stop reason
  | .unicodeDecode, [.text name, source, start, stop, .text reason] =>
    match source.byteString? with
    | some bs => raise (codec name) "can't decode byte" (shownByte bs) start stop reason
    | none => wrongType
  | .unicodeTranslate, [.text t, start, stop, .text reason] =>
    raise [] "can't translate character" (shownCharacter t) start stop reason
  | _, _ => wrongType

/-- The failure of reading JSON, which is raised with a text, the document and a place in it. A
place that is negative counts from the end. -/
def raiseJson : List Value → Failure
  | [what, .text t, place] =>
    match place.wholeNumber? with
    | none => wrongType
    | some i =>
      let before := t.take (if i < 0 then i + t.length else i).toNat
      let lastBreak : Int := before.length - (before.reverse.takeWhile (· != 0x0A)).length - 1
      raised .jsonDecode <| what.plain ++ counted ": line " (before.count 0x0A + 1) ++
        " column " ++ Text.ofInt (i - lastBreak) ++ " (char " ++ Text.ofInt i ++ ")"
  | [_, .bytes _, _] | [_, .buffer _, _] | [_, .list _, _] | [_, .tuple _, _]
  | [_, .keyList _, _] => wrongType
  | [_, _, _] => noAttribute
  | _ => wrongType

/-- The failure that a callback raises with a kind and arguments. -/
def raise (kind : FailureKind) (arguments : List Value) : Failure :=
  match kind, arguments with
  | .key, [a] => raised kind a.literal
  | .unicodeEncode, _ | .unicodeDecode, _ | .unicodeTranslate, _ => raiseUnicode kind arguments
  | .jsonDecode, _ => raiseJson arguments
  | kind, number :: text :: more =>
    if kind.isA .system ∧ more.length ≤ 3 then raiseSystem kind number text more
    else raised kind (argumentText arguments)
  | kind, arguments => raised kind (argumentText arguments)

end Failure
end LedgerKeys
