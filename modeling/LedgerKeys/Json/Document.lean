/-
# JSON documents

A document is handed over as a text or as the bytes of a text in any of the encodings of JSON. A
text that begins with a byte order mark is refused, as a mark belongs to bytes only.
-/
import LedgerKeys.Failure.Basic

namespace LedgerKeys
namespace Json

/-- The failure of a refusal in a text. -/
def Refusal.failure (t : Text) : Refusal → Failure
  | .flaw what offset => .json what (Place.ofOffset t offset)
  | .tooDeep => .tooDeep
  | .tooManyDigits count => .jsonDigits count

/-- The value of a text. -/
def ofText (t : Text) : Except Failure Json :=
  match parse t with
  | .ok v => .ok v
  | .error r => .error (r.failure t)

/-- The value of the text that bytes spell. -/
def ofBytes (bs : Bytes) : Except Failure Json :=
  match Encoding.detectAndDecode bs with
  | .ok t => ofText t
  | .error fault => .error (.decoding fault)

/-- The value of a document. -/
def ofDocument : Value → Except Failure Json
  | .text t =>
    if t.head? = some Encoding.byteOrderMark then
      .error ((Refusal.flaw .byteOrderMark 0).failure t)
    else ofText t
  | .bytes bs | .buffer bs => ofBytes bs
  | _ => .error .wrongType

/-- Whether a failure says that a document is not JSON. Nesting that is too deep and integers
that are too long are failures of another sort. -/
def isMalformed (f : Failure) : Bool := f.isA .jsonDecode || f.isA .unicodeDecode

end Json
end LedgerKeys
