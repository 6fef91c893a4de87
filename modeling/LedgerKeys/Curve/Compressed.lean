/-
# Compressed points

A point is written in 32 bytes: the ordinate in the low 255 bits, least significant byte first,
and the parity of the abscissa in the top bit. Reading is lenient: an ordinate that is not below
the prime is reduced, and an abscissa of zero is accepted with either parity bit. Bytes from which
no point can be read are off the curve, and only such bytes are program derived addresses.
-/
import LedgerKeys.Curve.Point

namespace LedgerKeys
namespace Curve

-- The powers of the core library are meant, also where there are others in sight.
attribute [local instance (high)] instPowNat

/-- The 32 bytes of a point. -/
def Point.compress (P : Point) : Bytes :=
  Bytes.ofNatLE 32 (P.y.val + 2 ^ (255 : Nat) * (P.x.val % 2))

@[simp] theorem length_compress (P : Point) : P.compress.length = 32 :=
  Bytes.length_ofNatLE 32 _

/-- The number in the low 255 bits. -/
def ordinate (bs : Bytes) : Nat := Bytes.toNatLE bs % 2 ^ (255 : Nat)

/-- The top bit of 32 bytes. -/
def parity (bs : Bytes) : Nat := Bytes.toNatLE bs / 2 ^ (255 : Nat) % 2

/-- Whether the ordinate is written as the number below the prime. -/
def isCanonical (bs : Bytes) : Bool := ordinate bs < prime

/-- The point that 32 bytes stand for, if the curve has a point with their ordinate. -/
def decompress? (bs : Bytes) : Option Point :=
  let y := Field.ofNat (ordinate bs)
  let y2 := y * y
  (Field.rootOfRatio? (y2 - 1) (d * y2 + 1)).map fun x =>
    ⟨if parity bs = 1 then -x else x, y⟩

/-- Whether the bytes are 32 and a point can be read from them. -/
def isOnCurve (bs : Bytes) : Bool := bs.length == 32 && (decompress? bs).isSome

end Curve
end LedgerKeys
