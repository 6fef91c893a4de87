/-
# Points of the curve

The curve is `-x² + y² = 1 + d x² y²`. Its addition law has no exceptions, so one formula adds and
doubles. Sums are computed in projective coordinates, which need no division, and a multiple is
taken along the bits of its factor.
-/
import LedgerKeys.Curve.Field

namespace LedgerKeys
namespace Curve

/-- The coefficient of the curve, `-121665 / 121666`. -/
def d : Field :=
  Field.ofNat 37095705934669439343138083508754565189542113879843219016388785533085940283555

/-! ## 1. Affine points -/

/-- A pair of coordinates. -/
structure Point where
  x : Field
  y : Field
  deriving DecidableEq

/-- Whether the pair satisfies the equation of the curve. -/
def Point.OnCurve (P : Point) : Prop :=
  -(P.x * P.x) + P.y * P.y = 1 + d * (P.x * P.x) * (P.y * P.y)

instance (P : Point) : Decidable P.OnCurve := inferInstanceAs (Decidable (_ = _))

/-- The neutral element of addition. -/
def Point.zero : Point := ⟨0, 1⟩

/-- The opposite point. -/
def Point.neg (P : Point) : Point := ⟨-P.x, P.y⟩

/-- The point that generates the subgroup of signatures. -/
def Point.base : Point :=
  ⟨Field.ofNat 15112221349535400772501151409588531511454012693041857206046113283949847762202,
    Field.ofNat 46316835694926478169428394003475163141307993866256225615783033603165251855960⟩

/-! ## 2. Projective points -/

/-- The point `(x / z, y / z)`. -/
structure Projective where
  x : Field
  y : Field
  z : Field

namespace Projective

/-- A point with denominator one. -/
def ofPoint (P : Point) : Projective := ⟨P.x, P.y, 1⟩

/-- The pair of coordinates of a point. -/
def toPoint (P : Projective) : Point :=
  let inverse := P.z.inverse
  ⟨P.x * inverse, P.y * inverse⟩

/-- The sum of two points. -/
def add (P Q : Projective) : Projective :=
  let z := P.z * Q.z
  let zz := z * z
  let xx := P.x * Q.x
  let yy := P.y * Q.y
  let e := d * xx * yy
  let f := zz - e
  let g := zz + e
  ⟨z * f * ((P.x + P.y) * (Q.x + Q.y) - xx - yy), z * g * (yy + xx), f * g⟩

/-- The multiple of a point with the factor of these bits. -/
def mulBits (factor : List Bool) (P : Projective) : Projective :=
  factor.foldl (fun acc b => if b then (acc.add acc).add P else acc.add acc) (ofPoint .zero)

end Projective

/-! ## 3. Sums and multiples of points -/

/-- The sum of two points of the curve. -/
def Point.add (P Q : Point) : Point := ((Projective.ofPoint P).add (.ofPoint Q)).toPoint

/-- The multiple of a point of the curve with a factor below `2 ^ 256`. -/
def Point.mul (factor : Nat) (P : Point) : Point :=
  ((Projective.ofPoint P).mulBits (bits 256 factor)).toPoint

/-- Whether the point has an order that divides the cofactor, eight. -/
def Point.HasSmallOrder (P : Point) : Prop := Point.mul 8 P = .zero

instance (P : Point) : Decidable P.HasSmallOrder := inferInstanceAs (Decidable (_ = _))

end Curve
end LedgerKeys
