/-
# The modulus of the field is prime

By Lucas's test: a number is prime if some residue has the order `n - 1`, and that can be seen from
the primes in `n - 1` (`prime_of_order`). The largest prime in `prime - 1` is too large to be found
prime by division, and so are some of those that come after it; each of them is taken down in the
same way. A chain of such steps is data (`LucasStep`) that is checked by computing, with powers
taken along the bits of the exponent.

The order of the base point is found prime with the same steps, and multiples of points are taken
along bits like powers, so what such a walk computes is said here once (`foldl_bits`).
-/
import Mathlib.Data.List.Prime
import Mathlib.NumberTheory.LucasPrimality
import Mathlib.Tactic.NormNum.Prime
import Mathlib.Tactic.Ring
import LedgerKeys.Curve.Field

namespace LedgerKeys
namespace Curve

/-! ## 1. Along the bits of a number -/

theorem mod_two_pow_succ (n width : ℕ) :
    n % 2 ^ (width + 1) = (n.testBit width).toNat * 2 ^ width + n % 2 ^ width := by
  rw [Nat.testBit_eq_decide_div_mod_eq, Nat.pow_succ, Nat.mod_mul]
  rcases Nat.mod_two_eq_zero_or_one (n / 2 ^ width) with h | h
  · simp [h]
  · simp [h, Nat.add_comm]

/-- Going along the bits of a number from the most significant one, when each step doubles what
the state stands for and adds the bit, leads to a state that stands for the number. -/
theorem foldl_bits {α : Type} {step : α → Bool → α} (StandsFor : α → ℕ → Prop)
    (hstep : ∀ k b s, StandsFor s k → StandsFor (step s b) (2 * k + b.toNat)) (n : ℕ) :
    ∀ (width k : ℕ) {s : α}, StandsFor s k →
      StandsFor ((bits width n).foldl step s) (k * 2 ^ width + n % 2 ^ width) := by
  intro width
  induction width with
  | zero =>
    intro k s hs
    simpa [bits, Nat.mod_one] using hs
  | succ width ih =>
    intro k s hs
    rw [bits, List.foldl_cons, mod_two_pow_succ,
      show k * 2 ^ (width + 1) + ((n.testBit width).toNat * 2 ^ width + n % 2 ^ width) =
        (2 * k + (n.testBit width).toNat) * 2 ^ width + n % 2 ^ width by ring]
    exact ih _ (hstep k _ s hs)

/-! ## 2. Lucas's test -/

/-- A number is prime if a residue has the order `n - 1`: its power with that exponent is one, and
no power with a prime left out of the exponent is. -/
theorem prime_of_order {n : ℕ} (a : ZMod n) {qs : List ℕ} (hprod : qs.prod = n - 1)
    (hprime : ∀ q ∈ qs, q.Prime) (hone : a ^ (n - 1) = 1)
    (hne : ∀ q ∈ qs, a ^ ((n - 1) / q) ≠ 1) : n.Prime := by
  refine lucas_primality n a hone fun q hq hdvd => ?_
  rw [← hprod] at hdvd
  obtain ⟨r, hr, hqr⟩ := (Prime.dvd_prod_iff hq.prime).mp hdvd
  obtain rfl : q = r := (Nat.prime_dvd_prime_iff_eq hq (hprime r hr)).mp hqr
  exact hne q hr

/-- The power of `a` modulo `n`. -/
def powerMod (n a e : ℕ) : ℕ :=
  (bits (e.log2 + 1) e).foldl (fun r b => if b then r * r * a % n else r * r % n) (1 % n)

theorem cast_powerMod (n a e : ℕ) : (powerMod n a e : ZMod n) = (a : ZMod n) ^ e := by
  have hstep : ∀ (k : ℕ) (b : Bool) (r : ℕ), (r : ZMod n) = (a : ZMod n) ^ k →
      ((if b then r * r * a % n else r * r % n : ℕ) : ZMod n) =
        (a : ZMod n) ^ (2 * k + b.toNat) := by
    intro k b r hr
    cases b with
    | false => simp [hr, two_mul, pow_add]
    | true => simp [hr, two_mul, pow_add]
  have h := foldl_bits (fun (r k : ℕ) => (r : ZMod n) = (a : ZMod n) ^ k) hstep e
    (e.log2 + 1) 0 (s := 1 % n) (by simp)
  rw [Nat.mod_eq_of_lt Nat.lt_log2_self, Nat.zero_mul, Nat.zero_add] at h
  exact h

/-- A number that Lucas's test is to find prime, a residue of the order `number - 1`, and the primes
in `number - 1`, each as often as it divides. -/
structure LucasStep where
  number : ℕ
  residue : ℕ
  primes : List ℕ

/-- Whether the test succeeds, for primes among those that are known. -/
def LucasStep.succeeds (known : List ℕ) (s : LucasStep) : Bool :=
  let power (e : ℕ) := powerMod s.number s.residue e % s.number
  s.primes.all (· ∈ known) && s.primes.prod == s.number - 1 &&
    power (s.number - 1) == 1 % s.number &&
    s.primes.all fun q => power ((s.number - 1) / q) != 1 % s.number

/-- Whether the tests of a chain succeed, each with the numbers of those before it. -/
def LucasStep.allSucceed : List ℕ → List LucasStep → Bool
  | _, [] => true
  | known, s :: steps => s.succeeds known && allSucceed (s.number :: known) steps

theorem LucasStep.prime_number {known : List ℕ} (hknown : ∀ q ∈ known, q.Prime) {s : LucasStep}
    (h : s.succeeds known = true) : s.number.Prime := by
  simp only [succeeds, Bool.and_eq_true, decide_eq_true_eq, List.all_eq_true, beq_iff_eq,
    bne_iff_ne, ne_eq] at h
  obtain ⟨⟨⟨hprimes, hprod⟩, hone⟩, hne⟩ := h
  have hpower : ∀ e, (s.residue : ZMod s.number) ^ e = 1 ↔
      powerMod s.number s.residue e % s.number = 1 % s.number := by
    intro e
    rw [← cast_powerMod, ← Nat.cast_one (R := ZMod s.number), ZMod.natCast_eq_natCast_iff']
  exact prime_of_order (s.residue : ZMod s.number) hprod (fun q hq => hknown q (hprimes q hq))
    ((hpower _).mpr hone) fun q hq h => hne q hq ((hpower _).mp h)

/-- A chain of tests that succeed gives primes. -/
theorem LucasStep.prime_of_allSucceed :
    ∀ {known : List ℕ} (steps : List LucasStep), (∀ q ∈ known, q.Prime) →
      allSucceed known steps = true → ∀ p ∈ steps.map number, p.Prime := by
  intro known steps
  induction steps generalizing known with
  | nil =>
    intro _ _ p hp
    cases hp
  | cons s steps ih =>
    intro hknown h p hp
    rw [allSucceed, Bool.and_eq_true] at h
    have hs : s.number.Prime := prime_number hknown h.1
    rcases List.mem_cons.mp hp with rfl | hp
    · exact hs
    · exact ih (List.forall_mem_cons.mpr ⟨hs, hknown⟩) h.2 p hp

/-! ## 3. The modulus -/

/-- The primes in the chain of the modulus that are found by division. -/
def primesOfModulus : List ℕ :=
  [2, 3, 5, 7, 13, 19, 31, 47, 107, 127, 223, 353, 2437, 4153, 57467, 65147, 75707, 132049, 430751,
    569003, 1923133, 8574133]

theorem prime_of_mem_primesOfModulus : ∀ q ∈ primesOfModulus, q.Prime := by
  simp only [primesOfModulus, List.forall_mem_cons]
  norm_num

/-- From primes of ten digits to the modulus. -/
def chainOfModulus : List LucasStep :=
  [⟨2773320623, 5, [2, 2437, 569003]⟩,
    ⟨72106336199, 7, [2, 13, 2773320623]⟩,
    ⟨1919519569386763, 2, [2, 3, 7, 19, 47, 47, 127, 8574133]⟩,
    ⟨31757755568855353, 10, [2, 2, 2, 3, 31, 107, 223, 4153, 430751]⟩,
    ⟨75445702479781427272750846543864801, 7,
      [2, 2, 2, 2, 2, 3, 3, 5, 5, 75707, 72106336199, 1919519569386763]⟩,
    ⟨74058212732561358302231226437062788676166966415465897661863160754340907, 2,
      [2, 3, 353, 57467, 132049, 1923133, 31757755568855353,
        75445702479781427272750846543864801]⟩,
    ⟨prime, 2,
      [2, 2, 3, 65147, 74058212732561358302231226437062788676166966415465897661863160754340907]⟩]

/-- **The modulus of the field is prime.** -/
theorem prime_isPrime : Nat.Prime prime :=
  LucasStep.prime_of_allSucceed chainOfModulus prime_of_mem_primesOfModulus (by decide +kernel)
    prime (by decide +kernel)

end Curve
end LedgerKeys
