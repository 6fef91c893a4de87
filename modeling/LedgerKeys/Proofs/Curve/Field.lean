/-
# The field of the curve is a field

The numbers modulo the prime with `Field.inverse` are a field in the library's sense, so that the
equations of the curve can be reasoned about with the usual tactics. That rests on two facts: the
modulus is prime, and `Field.power` is the power. The rest are the facts about squares on which
reading a point rests: which fractions have a root (`rootOfRatio?_isSome_iff`), and that the
coefficient of the curve has none.
-/
import Mathlib.Algebra.Field.Basic
import Mathlib.Data.ZMod.Defs
import Mathlib.FieldTheory.Finite.Basic
import Mathlib.Tactic.LinearCombination
import Mathlib.Tactic.Ring
import LedgerKeys.Curve.Point
import LedgerKeys.Proofs.Curve.Prime

namespace LedgerKeys

/-! ## 1. Powers of numbers modulo a prime -/

section Powers

open scoped Fin.CommRing

variable {n : ℕ} [NeZero n]

theorem val_pow (x : Fin n) (e : ℕ) : (x ^ e).val = x.val ^ e % n := by
  induction e with
  | zero => simp
  | succ e ih => rw [pow_succ, pow_succ, Fin.val_mul, ih, Nat.mod_mul_mod]

/-- The little theorem of Fermat, on numbers below the modulus. -/
theorem pow_pred_eq_one (hn : n.Prime) {x : Fin n} (hx : x ≠ 0) : x ^ (n - 1) = 1 := by
  have hval : x.val ≠ 0 := fun h => hx (Fin.ext h)
  have hcop : x.val.Coprime n :=
    (Nat.coprime_of_lt_prime hval x.isLt hn).symm
  have hmod : x.val ^ (n - 1) % n = 1 % n := by
    rw [← Nat.totient_prime hn]
    exact Nat.ModEq.pow_totient hcop
  apply Fin.ext
  rw [val_pow, hmod, Fin.val_one']

namespace Curve

/-- `Field.power` is the power. -/
theorem Field.power_eq_pow (x : Curve.Field) {e : ℕ} (he : e < 2 ^ 255) : x.power e = x ^ e := by
  have hstep : ∀ (k : ℕ) (b : Bool) (r : Curve.Field), r = x ^ k →
      (if b then r * r * x else r * r) = x ^ (2 * k + b.toNat) := by
    intro k b r hr
    cases b with
    | false => simp [hr, two_mul, pow_add]
    | true => simp [hr, two_mul, pow_add]
  have h := foldl_bits (fun r k => r = x ^ k) hstep e 255 0 (pow_zero x).symm
  rw [Nat.mod_eq_of_lt he, Nat.zero_mul, Nat.zero_add] at h
  exact h

theorem Field.mul_inverse {x : Curve.Field} (hx : x ≠ 0) : x * x.inverse = 1 := by
  rw [Field.inverse, Field.power_eq_pow x (by decide), ← pow_succ',
    show prime - 2 + 1 = prime - 1 by decide]
  exact pow_pred_eq_one prime_isPrime hx

theorem Field.inverse_zero : (0 : Curve.Field).inverse = 0 := by
  rw [Field.inverse, Field.power_eq_pow 0 (by decide)]
  exact zero_pow (by decide)

end Curve

end Powers

/-! ## 2. The field -/

instance : Inv Curve.Field := ⟨Curve.Field.inverse⟩

open scoped Fin.CommRing in
/-- The numbers modulo the prime, with the inverse of `Field.inverse`. -/
instance : Field Curve.Field where
  __ := Fin.instCommRing Curve.prime
  -- The quotient is written out: numbers below a bound come with a division that rounds.
  div x y := x * y⁻¹
  div_eq_mul_inv _ _ := rfl
  zpow
    | .ofNat e, x => x ^ e
    | .negSucc e, x => (x ^ (e + 1))⁻¹
  zpow_zero' := pow_zero
  zpow_succ' e x := pow_succ x e
  zpow_neg' _ _ := rfl
  exists_pair_ne := ⟨0, 1, by decide⟩
  mul_inv_cancel _ hx := Curve.Field.mul_inverse hx
  inv_zero := Curve.Field.inverse_zero
  nnqsmul := _
  nnqsmul_def _ _ := rfl
  qsmul := _
  qsmul_def _ _ := rfl

namespace Curve

theorem Field.pow_prime_pred {x : Curve.Field} (hx : x ≠ 0) : x ^ (prime - 1) = 1 :=
  pow_pred_eq_one prime_isPrime hx

/-! ## 3. Squares -/

theorem rootOfMinusOne_mul_self : rootOfMinusOne * rootOfMinusOne = -1 := by decide +kernel

/-- The coefficient of the curve is no square. -/
theorem coefficient_ne_mul_self (x : Curve.Field) : x * x ≠ d := by
  have heuler : d ^ ((prime - 1) / 2) = -1 := by
    rw [← Field.power_eq_pow d (by decide)]
    decide +kernel
  intro h
  by_cases hx : x = 0
  · rw [hx, mul_zero] at h
    exact absurd h (by decide)
  · rw [← h, ← pow_two, ← pow_mul, show 2 * ((prime - 1) / 2) = prime - 1 by decide,
      Field.pow_prime_pred hx] at heuler
    exact absurd heuler (by decide)

/-! ## 4. Parity -/

theorem Field.val_neg_of_ne_zero {x : Curve.Field} (hx : x ≠ 0) : (-x).val = prime - x.val := by
  have hval : x.val ≠ 0 := fun h => hx (Fin.ext h)
  have hlt := x.isLt
  rw [Fin.val_neg', Nat.mod_eq_of_lt (by omega)]

/-- A number and its negative have different parities, as the prime is odd. -/
theorem Field.val_neg_mod_two {x : Curve.Field} (hx : x ≠ 0) :
    (-x).val % 2 = 1 - x.val % 2 := by
  have hlt := x.isLt
  have hodd : prime % 2 = 1 := by decide
  rw [Field.val_neg_of_ne_zero hx]
  omega

/-- A number is known by its square and its parity. -/
theorem Field.eq_of_mul_self_of_parity {x y : Curve.Field} (hsquare : x * x = y * y)
    (hparity : x.val % 2 = y.val % 2) : x = y := by
  rcases mul_self_eq_mul_self_iff.mp hsquare with h | h
  · exact h
  · by_cases hy : y = 0
    · rw [h, hy, neg_zero]
    · rw [h, Field.val_neg_mod_two hy] at hparity
      omega

theorem Field.even_mul_self (x : Curve.Field) : x.even * x.even = x * x := by
  unfold Field.even
  split
  · rfl
  · exact neg_mul_neg x x

theorem Field.val_even_mod_two (x : Curve.Field) : x.even.val % 2 = 0 := by
  unfold Field.even
  split
  · assumption
  · rename_i hodd
    have hx : x ≠ 0 := by
      rintro rfl
      exact hodd rfl
    rw [Field.val_neg_mod_two hx]
    omega

/-! ## 5. Roots of fractions -/

/-- The candidate for a root of `u / v`. -/
def candidate (u v : Curve.Field) : Curve.Field := u * v ^ 3 * (u * v ^ 7) ^ ((prime - 5) / 8)

theorem rootOfRatio?_eq (u v : Curve.Field) :
    Field.rootOfRatio? u v =
      if v * (candidate u v * candidate u v) = u then some (candidate u v).even
      else if v * (candidate u v * candidate u v) = -u then
        some (candidate u v * rootOfMinusOne).even
      else none := by
  have hcandidate : u * (v * v * v) *
      (u * (v * v * v) * (v * v * v) * v).power ((prime - 5) / 8) = candidate u v := by
    rw [Field.power_eq_pow _ (by decide), candidate,
      show u * (v * v * v) * (v * v * v) * v = u * v ^ 7 by ring,
      show v * v * v = v ^ 3 by ring]
  rw [← hcandidate]
  rfl

/-- The candidate is right up to a power of `u v⁷`. -/
theorem mul_candidate_mul_self (u v : Curve.Field) :
    v * (candidate u v * candidate u v) = u * (u * v ^ 7) ^ (2 * ((prime - 5) / 8) + 1) := by
  rw [candidate]
  generalize (prime - 5) / 8 = e
  ring

/-- If the fraction has a root, the power is one or minus one. -/
theorem mul_candidate_of_root (v x : Curve.Field) :
    v * (candidate (v * (x * x)) v * candidate (v * (x * x)) v) = v * (x * x) ∨
      v * (candidate (v * (x * x)) v * candidate (v * (x * x)) v) = -(v * (x * x)) := by
  rw [mul_candidate_mul_self]
  -- The power is one or minus one only for numbers other than zero; zero is its own root.
  by_cases hzero : v ^ 4 * x = 0
  · left
    rcases mul_eq_zero.mp hzero with hv | hx
    · rw [pow_eq_zero_iff (by decide)] at hv
      rw [hv, zero_mul, zero_mul]
    · rw [hx, zero_mul, mul_zero, zero_mul]
  · have hsquare : (v * (x * x) * v ^ 7) ^ (2 * ((prime - 5) / 8) + 1) =
        (v ^ 4 * x) ^ (2 * (2 * ((prime - 5) / 8) + 1)) := by
      rw [pow_mul]
      congr 1
      ring
    have hone : (v ^ 4 * x) ^ (2 * (2 * ((prime - 5) / 8) + 1)) *
        (v ^ 4 * x) ^ (2 * (2 * ((prime - 5) / 8) + 1)) = 1 := by
      rw [← pow_add, ← Field.pow_prime_pred hzero]
      congr 1
    rw [hsquare]
    rcases mul_self_eq_one_iff.mp hone with h | h
    · left
      rw [h, mul_one]
    · right
      rw [h, mul_neg_one]

/-- What is found is a root, the even one. -/
theorem rootOfRatio?_eq_some {u v x : Curve.Field} (h : Field.rootOfRatio? u v = some x) :
    v * (x * x) = u ∧ x.val % 2 = 0 := by
  rw [rootOfRatio?_eq] at h
  split at h
  · rename_i hcheck
    rw [← Option.some.inj h]
    exact ⟨by rw [Field.even_mul_self, hcheck], Field.val_even_mod_two _⟩
  · split at h
    · rename_i hneg
      rw [← Option.some.inj h]
      refine ⟨?_, Field.val_even_mod_two _⟩
      rw [Field.even_mul_self]
      linear_combination v * candidate u v * candidate u v * rootOfMinusOne_mul_self - hneg
    · cases h

/-- **A root is found exactly if there is one.** -/
theorem rootOfRatio?_isSome_iff {u v : Curve.Field} :
    (Field.rootOfRatio? u v).isSome ↔ ∃ x, v * (x * x) = u := by
  constructor
  · intro h
    obtain ⟨x, hx⟩ := Option.isSome_iff_exists.mp h
    exact ⟨x, (rootOfRatio?_eq_some hx).1⟩
  · rintro ⟨x, rfl⟩
    rw [rootOfRatio?_eq]
    rcases mul_candidate_of_root v x with h | h
    · rw [if_pos h]
      rfl
    · rw [if_pos h]
      split <;> rfl

end Curve
end LedgerKeys
