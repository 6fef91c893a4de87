/-
# The SHA-2 family

Two hash functions of one construction. The message is padded with a one bit, zeros and its own
length in bits to whole blocks of sixteen words. Each block is stretched to as many words as there
are rounds, and each round mixes one of them and a constant into a state of eight words; the state
after the last block is the digest.

A member of the family is given by its word, its constants and four mixing functions.
-/
import LedgerKeys.Bytes

namespace LedgerKeys
namespace Sha2

/-! ## 1. Members of the family -/

/-- The eight words of the state. -/
structure State (W : Type) where
  a : W
  b : W
  c : W
  d : W
  e : W
  f : W
  g : W
  h : W

/-- A hash function of the family on words of `size` bytes. -/
structure Variant (W : Type) where
  size : Nat
  toNat : W → Nat
  ofNat : Nat → W
  start : State W
  constants : List W
  stateLow : W → W
  stateHigh : W → W
  scheduleFar : W → W
  scheduleNear : W → W

/-! ## 2. Words and bytes -/

/-- The bytes of a word, most significant first. -/
def Variant.wordBytes {W : Type} (v : Variant W) (w : W) : Bytes :=
  (Bytes.ofNatLE v.size (v.toNat w)).reverse

/-- The first `count` words of a byte string. -/
def Variant.words {W : Type} (v : Variant W) : Nat → Bytes → List W
  | 0, _ => []
  | count + 1, bs =>
    v.ofNat (Bytes.toNatLE (bs.take v.size).reverse) :: v.words count (bs.drop v.size)

/-- The state as bytes. -/
def Variant.stateBytes {W : Type} (v : Variant W) (s : State W) : Bytes :=
  [s.a, s.b, s.c, s.d, s.e, s.f, s.g, s.h].flatMap v.wordBytes

theorem length_stateBytes {W : Type} (v : Variant W) (s : State W) :
    (v.stateBytes s).length = 8 * v.size := by
  simp only [Variant.stateBytes, Variant.wordBytes, List.flatMap_cons, List.flatMap_nil,
    List.length_append, List.length_reverse, Bytes.length_ofNatLE, List.length_nil]
  omega

/-! ## 3. Rounds -/

section Rounds

variable {W : Type} [Add W] [XorOp W] [AndOp W] [Complement W] [Inhabited W]

/-- The sum of two states, word by word. -/
def State.add (s t : State W) : State W :=
  ⟨s.a + t.a, s.b + t.b, s.c + t.c, s.d + t.d, s.e + t.e, s.f + t.f, s.g + t.g, s.h + t.h⟩

/-- One round: a constant and a word of the message are mixed into the state. -/
def Variant.round (v : Variant W) (s : State W) (kw : W × W) : State W :=
  let choice := (s.e &&& s.f) ^^^ (~~~s.e &&& s.g)
  let majority := (s.a &&& s.b) ^^^ (s.a &&& s.c) ^^^ (s.b &&& s.c)
  let t := s.h + v.stateHigh s.e + choice + kw.1 + kw.2
  ⟨t + (v.stateLow s.a + majority), s.a, s.b, s.c, s.d + t, s.e, s.f, s.g⟩

/-- The word that continues a schedule, which is given backwards: it is made of the words 2, 7,
15 and 16 places before it. -/
def Variant.nextWord (v : Variant W) (back : List W) : W :=
  v.scheduleNear (back.getD 1 default) + back.getD 6 default +
    v.scheduleFar (back.getD 14 default) + back.getD 15 default

/-- `n` more words of a schedule that is given backwards. -/
def Variant.extend (v : Variant W) : Nat → List W → List W
  | 0, back => back
  | n + 1, back => v.extend n (v.nextWord back :: back)

/-- The words of a block, one for each round. -/
def Variant.schedule (v : Variant W) (block : Bytes) : List W :=
  (v.extend (v.constants.length - 16) (v.words 16 block).reverse).reverse

/-- The state after one more block. -/
def Variant.compress (v : Variant W) (s : State W) (block : Bytes) : State W :=
  s.add ((v.constants.zip (v.schedule block)).foldl v.round s)

/-! ## 4. Messages -/

/-- The bytes of a block. -/
def Variant.blockSize (v : Variant W) : Nat := 16 * v.size

/-- The zeros between the one bit and the length, which takes two words. -/
def Variant.fill (v : Variant W) (length : Nat) : Nat :=
  (2 * v.blockSize - (length + 1 + 2 * v.size) % v.blockSize) % v.blockSize

/-- The message with its padding. -/
def Variant.padded (v : Variant W) (message : Bytes) : Bytes :=
  message ++ 0x80 :: Bytes.zeros (v.fill message.length) ++
    (Bytes.ofNatLE (2 * v.size) (message.length * 8)).reverse

/-- The state after the first `count` blocks of `bs`. -/
def Variant.absorb (v : Variant W) : Nat → State W → Bytes → State W
  | 0, s, _ => s
  | count + 1, s, bs =>
    v.absorb count (v.compress s (bs.take v.blockSize)) (bs.drop v.blockSize)

/-- The digest of a message. -/
def Variant.digest (v : Variant W) (message : Bytes) : Bytes :=
  let bs := v.padded message
  v.stateBytes (v.absorb (bs.length / v.blockSize) v.start bs)

@[simp] theorem length_digest (v : Variant W) (message : Bytes) :
    (v.digest message).length = 8 * v.size := length_stateBytes v _

end Rounds

end Sha2
end LedgerKeys
