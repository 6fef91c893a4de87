/-
# The order of the base point

The base point has the order that the signatures reduce their scalars by (`addOrderOf_base`): that
multiple of it is the neutral element, as computing it shows, and the order is prime, so no smaller
multiple is. So a multiple of the base point knows its factor modulo the order and nothing else
(`nsmul_base_eq_zero_iff`), and since eight has no factor in common with the order, it is of small
order only if it is neutral (`eight_nsmul_nsmul_base`).
-/
import Mathlib.GroupTheory.OrderOfElement
import LedgerKeys.Ed25519
import LedgerKeys.Proofs.Curve.Group

namespace LedgerKeys
namespace Ed25519

open Curve

/-! ## 1. The order is prime -/

/-- The primes in the chain of the order that are found by division. -/
def primesOfOrder : List ℕ :=
  [2, 3, 5, 7, 11, 23, 41, 43, 73, 269, 307, 1361, 2851, 5879, 30703, 82163, 132667, 137849, 531581,
    1224481, 58964693]

theorem prime_of_mem_primesOfOrder : ∀ q ∈ primesOfOrder, q.Prime := by
  simp only [primesOfOrder, List.forall_mem_cons]
  norm_num

/-- From primes of nine digits to the order. -/
def chainOfOrder : List LucasStep :=
  [⟨3044861653679985063343, 5, [2, 3, 11, 30703, 82163, 132667, 137849]⟩,
    ⟨198211423230930754013084525763697, 5, [2, 2, 2, 2, 3, 23, 58964693, 3044861653679985063343]⟩,
    ⟨1257559732178653, 2, [2, 2, 3, 7, 23, 531581, 1224481]⟩,
    ⟨4434155615661930479, 17, [2, 41, 43, 1257559732178653]⟩,
    ⟨172054593956031949258510691, 2, [2, 5, 1361, 2851, 4434155615661930479]⟩,
    ⟨292386187, 2, [2, 3, 3, 3, 3, 307, 5879]⟩,
    ⟨213441916511, 13, [2, 5, 73, 292386187]⟩,
    ⟨19757330305831588566944191468367130476339, 2,
      [2, 269, 213441916511, 172054593956031949258510691]⟩,
    ⟨276602624281642239937218680557139826668747, 2,
      [2, 7, 19757330305831588566944191468367130476339]⟩,
    ⟨order, 2,
      [2, 2, 3, 11, 198211423230930754013084525763697,
        276602624281642239937218680557139826668747]⟩]

/-- **The order is prime.** -/
theorem order_isPrime : Nat.Prime order :=
  LucasStep.prime_of_allSucceed chainOfOrder prime_of_mem_primesOfOrder (by decide +kernel)
    order (by decide +kernel)

/-! ## 2. The base point -/

/-- The point that generates the subgroup of signatures. -/
def base : CurvePoint := ⟨Point.base, Point.base_onCurve⟩

theorem mul_base {n : ℕ} (hn : n < 2 ^ 256) : Point.base.mul n = (n • base).point :=
  base.mul_eq_nsmul hn

theorem order_nsmul_base : order • base = 0 := by
  have h : Point.base.mul order = Point.zero := by decide +kernel
  rw [mul_base (by decide)] at h
  exact CurvePoint.ext h

theorem base_ne_zero : base ≠ 0 := by
  intro h
  have hpoint : Point.base = Point.zero := congrArg CurvePoint.point h
  exact absurd hpoint (by decide +kernel)

/-- **The order of the base point.** -/
theorem addOrderOf_base : addOrderOf base = order :=
  haveI : Fact (Nat.Prime order) := ⟨order_isPrime⟩
  addOrderOf_eq_prime order_nsmul_base base_ne_zero

theorem nsmul_base_eq_zero_iff {n : ℕ} : n • base = 0 ↔ order ∣ n := by
  rw [← addOrderOf_dvd_iff_nsmul_eq_zero, addOrderOf_base]

/-- Factors may be reduced by the order. -/
theorem mod_order_nsmul_base (n : ℕ) : (n % order) • base = n • base := by
  rw [← addOrderOf_base, mod_addOrderOf_nsmul]

/-! ## 3. Small orders -/

/-- A multiple of the base point is of small order only if it is neutral. -/
theorem eight_nsmul_nsmul_base {n : ℕ} : 8 • n • base = 0 ↔ order ∣ n := by
  have hcoprime : Nat.Coprime order 8 := by decide +kernel
  rw [← mul_nsmul', nsmul_base_eq_zero_iff]
  exact hcoprime.dvd_mul_left

end Ed25519
end LedgerKeys
