/-
# Digit strings in another base

A digit string, most significant digit first, is a number behind a run of zeros. The numeral of the
number alone has lost the run, and it is all that is lost: it is the string without the zeros
(`digits_ofDigits_reverse`). So `rebase`, which writes the number in another base behind a run of
the same length, can be undone by going back to the base where one came from (`rebase_rebase`).

A byte string and its base58 text are such a pair. Nothing here depends on the two bases.
-/
import Mathlib.Data.List.TakeWhile
import Mathlib.Data.Nat.Digits.Lemmas
import LedgerKeys.Bytes

namespace LedgerKeys

/-! ## 1. Numerals -/

theorem ofDigits_eq (base : ℕ) (ds : List ℕ) : ofDigits base ds = Nat.ofDigits base ds := by
  induction ds with
  | nil => rfl
  | cons d ds ih => rw [ofDigits, ih, Nat.ofDigits_cons]

theorem digitsUpTo_eq {base : ℕ} (hb : 2 ≤ base) :
    ∀ {fuel n : ℕ}, n < 2 ^ fuel → digitsUpTo base fuel n = Nat.digits base n
  | 0, n, hn => by
    obtain rfl : n = 0 := by simpa using hn
    simp [digitsUpTo]
  | fuel + 1, n, hn => by
    by_cases h0 : n = 0
    · simp [digitsUpTo, h0]
    · have hlt : n / base < 2 ^ fuel :=
        lt_of_le_of_lt (Nat.div_le_div_left hb two_pos) (by omega)
      rw [digitsUpTo, if_neg h0, digitsUpTo_eq hb hlt, Nat.digits_def' hb (Nat.pos_of_ne_zero h0)]

/-- The numeral of a number, by the name under which its laws are known. -/
theorem digits_eq {base : ℕ} (hb : 2 ≤ base) (n : ℕ) : digits base n = Nat.digits base n :=
  digitsUpTo_eq hb Nat.lt_log2_self

namespace Rebase

variable {b b' : ℕ} {ds : List ℕ}

/-! ## 2. The run of zeros -/

/-- How many zeros a string starts with. -/
def zeroRun (ds : List ℕ) : ℕ := (ds.takeWhile (· == 0)).length

/-- What comes behind the zeros. -/
def significant (ds : List ℕ) : List ℕ := ds.dropWhile (· == 0)

theorem replicate_append_significant (ds : List ℕ) :
    List.replicate (zeroRun ds) 0 ++ significant ds = ds := by
  have hzeros : ds.takeWhile (· == 0) = List.replicate (zeroRun ds) 0 :=
    List.eq_replicate_of_mem fun d hd => by simpa using List.mem_takeWhile_imp hd
  rw [← hzeros, significant, List.takeWhile_append_dropWhile]

theorem zeroRun_replicate_append {n : ℕ} (h : ∀ d ∈ ds.head?, d ≠ 0) :
    zeroRun (List.replicate n 0 ++ ds) = n := by
  have hhead : ds.takeWhile (· == 0) = [] := by
    cases ds with
    | nil => rfl
    | cons d ds => exact List.takeWhile_cons_of_neg (by simpa using h d rfl)
  rw [zeroRun, List.takeWhile_append_of_pos (by simp), hhead, List.append_nil,
    List.length_replicate]

/-- **The numeral of a string's number is the string without its zeros.** -/
theorem digits_ofDigits_reverse (hb : 2 ≤ b) (hds : ∀ d ∈ ds, d < b) :
    digits b (ofDigits b ds.reverse) = (significant ds).reverse := by
  have hvalue : Nat.ofDigits b ds.reverse = Nat.ofDigits b (significant ds).reverse := by
    conv_lhs => rw [← replicate_append_significant ds]
    rw [List.reverse_append, List.reverse_replicate, Nat.ofDigits_append_replicate_zero]
  rw [digits_eq hb, ofDigits_eq, hvalue]
  refine Nat.digits_ofDigits b hb _ (fun d hd => ?_) fun hne => ?_
  · exact hds d ((List.dropWhile_sublist _).mem (List.mem_reverse.mp hd))
  · have hne' : significant ds ≠ [] := by simpa using hne
    rw [List.getLast_reverse]
    exact beq_eq_false_iff_ne.mp (List.head_dropWhile_not (fun d : ℕ => d == 0) hne')

/-- A numeral does not start with a zero. -/
theorem ne_zero_of_mem_head?_reverse_digits (hb : 2 ≤ b) (n : ℕ) :
    ∀ d ∈ (digits b n).reverse.head?, d ≠ 0 := by
  intro d hd
  rw [digits_eq hb, List.head?_reverse] at hd
  have hn : n ≠ 0 := by
    rintro rfl
    simp at hd
  rw [List.getLast?_eq_getLast_of_ne_nil (Nat.digits_ne_nil_iff_ne_zero.mpr hn)] at hd
  rw [← Option.some.inj hd]
  exact Nat.getLast_digit_ne_zero b hn

/-! ## 3. Another base -/

/-- The string of the same number in base `b'`, behind as many zeros. -/
def rebase (b b' : ℕ) (ds : List ℕ) : List ℕ :=
  List.replicate (zeroRun ds) 0 ++ (digits b' (ofDigits b ds.reverse)).reverse

theorem rebase_lt (hb' : 2 ≤ b') (ds : List ℕ) : ∀ d ∈ rebase b b' ds, d < b' := by
  intro d hd
  rcases List.mem_append.mp hd with hd | hd
  · rw [List.eq_of_mem_replicate hd]
    omega
  · exact digits_lt (by omega) _ d (List.mem_reverse.mp hd)

theorem zeroRun_rebase (hb' : 2 ≤ b') (ds : List ℕ) :
    zeroRun (rebase b b' ds) = zeroRun ds :=
  zeroRun_replicate_append (ne_zero_of_mem_head?_reverse_digits hb' _)

theorem ofDigits_reverse_rebase (hb' : 2 ≤ b') (ds : List ℕ) :
    ofDigits b' (rebase b b' ds).reverse = ofDigits b ds.reverse := by
  rw [rebase, List.reverse_append, List.reverse_reverse, List.reverse_replicate,
    ofDigits_eq b', Nat.ofDigits_append_replicate_zero, ← ofDigits_eq, ofDigits_digits hb']

/-- **Going to another base and back changes no string.** -/
theorem rebase_rebase (hb : 2 ≤ b) (hb' : 2 ≤ b') (hds : ∀ d ∈ ds, d < b) :
    rebase b' b (rebase b b' ds) = ds := by
  rw [rebase, zeroRun_rebase hb', ofDigits_reverse_rebase hb', digits_ofDigits_reverse hb hds,
    List.reverse_reverse, replicate_append_significant]

end Rebase
end LedgerKeys
