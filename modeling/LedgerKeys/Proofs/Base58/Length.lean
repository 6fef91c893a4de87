/-
# How long base58 text is

A digit string that goes to another base keeps its run of zeros digit by digit, and only the numeral
behind the run changes its length (`length_rebase`). To a smaller base the string does not get
shorter (`length_le_length_rebase`). It does not outgrow a width in which the smaller base counts as
far as the larger one does in the width of the string (`length_rebase_le`): a zero takes one digit
in either base, so the run can only leave room.

Base58 text of `n` bytes therefore has between `n` and `maxLength n` characters. Zeros take the
fewest and the largest bytes the most.
-/
import Mathlib.Data.Nat.Log
import LedgerKeys.Key
import LedgerKeys.Proofs.Base58.Reading

namespace LedgerKeys
namespace Rebase

variable {b b' : ℕ} {ds : List ℕ}

/-! ## 1. Lengths in two bases -/

theorem length_rebase (b b' : ℕ) (ds : List ℕ) :
    (rebase b b' ds).length = zeroRun ds + (digits b' (ofDigits b ds.reverse)).length := by
  rw [rebase, List.length_append, List.length_replicate, List.length_reverse]

/-- The same of the string itself, which is what it is in its own base. -/
theorem length_eq (hb : 2 ≤ b) (hds : ∀ d ∈ ds, d < b) :
    ds.length = zeroRun ds + (digits b (ofDigits b ds.reverse)).length := by
  have hsplit := congrArg List.length (replicate_append_significant ds)
  rw [List.length_append, List.length_replicate] at hsplit
  rw [digits_ofDigits_reverse hb hds, List.length_reverse, hsplit]

theorem length_digits_le_iff (hb : 2 ≤ b) {n k : ℕ} : (digits b n).length ≤ k ↔ n < b ^ k := by
  rw [digits_eq hb, Nat.digits_length_le_iff hb]

/-- **A string does not get shorter in a smaller base.** -/
theorem length_le_length_rebase (hb' : 2 ≤ b') (hbb : b' ≤ b) (hds : ∀ d ∈ ds, d < b) :
    ds.length ≤ (rebase b b' ds).length := by
  have hb : 2 ≤ b := hb'.trans hbb
  rw [length_eq hb hds, length_rebase, Nat.add_le_add_iff_left, length_digits_le_iff hb]
  calc ofDigits b ds.reverse
      < b' ^ (digits b' (ofDigits b ds.reverse)).length := (length_digits_le_iff hb').mp le_rfl
    _ ≤ b ^ (digits b' (ofDigits b ds.reverse)).length := Nat.pow_le_pow_left hbb _

/-- **A string fits a width in a smaller base** if all strings of its length without a zero in front
do. -/
theorem length_rebase_le (hb' : 2 ≤ b') (hbb : b' ≤ b) (hds : ∀ d ∈ ds, d < b) {k : ℕ}
    (hk : b ^ ds.length ≤ b' ^ k) : (rebase b b' ds).length ≤ k := by
  have hb : 2 ≤ b := hb'.trans hbb
  have hlen := length_eq hb hds
  rw [length_rebase]
  generalize hn : ofDigits b ds.reverse = n at hlen ⊢
  -- The zeros fit, since a width of `k` is no less than that of the string.
  have hzeros : zeroRun ds ≤ k := by
    have hpow : b' ^ ds.length ≤ b' ^ k := (Nat.pow_le_pow_left hbb _).trans hk
    have hle : ds.length ≤ k := (Nat.pow_le_pow_iff_right hb').mp hpow
    omega
  have hvalue : n < b' ^ (k - zeroRun ds) := by
    refine lt_of_lt_of_le ((length_digits_le_iff hb).mp le_rfl) ?_
    refine le_of_mul_le_mul_left ?_ (Nat.pow_pos (n := zeroRun ds) (Nat.zero_lt_of_lt hb'))
    calc b' ^ zeroRun ds * b ^ (digits b n).length
        ≤ b ^ zeroRun ds * b ^ (digits b n).length :=
          Nat.mul_le_mul_right _ (Nat.pow_le_pow_left hbb _)
      _ = b ^ ds.length := by rw [← pow_add, ← hlen]
      _ ≤ b' ^ k := hk
      _ = b' ^ zeroRun ds * b' ^ (k - zeroRun ds) := by rw [← pow_add, Nat.add_sub_cancel' hzeros]
  have hfits : (digits b' n).length ≤ k - zeroRun ds := (length_digits_le_iff hb').mpr hvalue
  omega

/-! ## 2. The shortest and the longest -/

theorem zeroRun_replicate_zero (n : ℕ) : zeroRun (List.replicate n 0) = n := by
  simp [zeroRun]

theorem length_rebase_zeros (b b' n : ℕ) : (rebase b b' (List.replicate n 0)).length = n := by
  rw [length_rebase, zeroRun_replicate_zero, List.reverse_replicate, ofDigits_eq,
    Nat.ofDigits_replicate_zero]
  rfl

theorem zeroRun_replicate_of_ne_zero {d : ℕ} (hd : d ≠ 0) (n : ℕ) :
    zeroRun (List.replicate n d) = 0 := by
  simp [zeroRun, hd]

/-- The largest digits make the number below the next power. -/
theorem ofDigits_replicate_largest (hb : 0 < b) (n : ℕ) :
    ofDigits b (List.replicate n (b - 1)) + 1 = b ^ n := by
  induction n with
  | zero => rfl
  | succ n ih =>
    rw [List.replicate_succ, ofDigits, pow_succ', ← ih, Nat.mul_add]
    omega

/-- The string of the largest digits fits only where all strings of its length do. -/
theorem length_rebase_largest_le_iff (hb : 2 ≤ b) (hb' : 2 ≤ b') {n k : ℕ} :
    (rebase b b' (List.replicate n (b - 1))).length ≤ k ↔ b ^ n ≤ b' ^ k := by
  rw [length_rebase, zeroRun_replicate_of_ne_zero (by omega), Nat.zero_add,
    List.reverse_replicate, length_digits_le_iff hb',
    ← ofDigits_replicate_largest (Nat.zero_lt_of_lt hb) n, Nat.succ_le_iff]

end Rebase

/-! ## 3. Base58 text -/

namespace Base58

open Rebase

variable {n k : ℕ}

/-- The most characters that `n` bytes take. -/
def maxLength (n : ℕ) : ℕ := Nat.clog 58 (256 ^ n)

theorem maxLength_le_iff : maxLength n ≤ k ↔ 256 ^ n ≤ 58 ^ k :=
  Nat.clog_le_iff_le_pow (by norm_num)

theorem isLeast_maxLength (n : ℕ) : IsLeast {k | 256 ^ n ≤ 58 ^ k} (maxLength n) :=
  ⟨maxLength_le_iff.mp le_rfl, fun _ hk => maxLength_le_iff.mpr hk⟩

theorem length_bytesOf (bs : Bytes) : (bytesOf bs).length = bs.length := List.length_map _

theorem length_encode (bs : Bytes) : (encode bs).length = (rebase 256 58 (bytesOf bs)).length := by
  rw [encode_eq, List.length_map]

theorem length_le_length_encode (bs : Bytes) : bs.length ≤ (encode bs).length := by
  rw [length_encode, ← length_bytesOf]
  exact length_le_length_rebase (by norm_num) (by norm_num) lt_of_mem_bytesOf

theorem length_encode_le (bs : Bytes) : (encode bs).length ≤ maxLength bs.length := by
  rw [length_encode]
  refine length_rebase_le (by norm_num) (by norm_num) lt_of_mem_bytesOf ?_
  rw [length_bytesOf]
  exact maxLength_le_iff.mp le_rfl

theorem length_encode_zeros (n : ℕ) : (encode (Bytes.zeros n)).length = n := by
  rw [length_encode, bytesOf, Bytes.zeros, List.map_replicate]
  exact length_rebase_zeros 256 58 n

theorem length_encode_largest (n : ℕ) :
    (encode (List.replicate n 0xFF)).length = maxLength n := by
  have hle : ∀ k, (encode (List.replicate n 0xFF)).length ≤ k ↔ maxLength n ≤ k := by
    intro k
    rw [length_encode, bytesOf, List.map_replicate, maxLength_le_iff]
    exact length_rebase_largest_le_iff (by norm_num) (by norm_num)
  exact le_antisymm ((hle _).mpr le_rfl) ((hle _).mp le_rfl)

/-- The text of 32 or 64 bytes, which is never empty. -/
theorem length_encode_of_length {bs : Bytes} (hlen : bs.length = n) (hn : 0 < n)
    (hk : 256 ^ n ≤ 58 ^ k) :
    n ≤ (encode bs).length ∧ (encode bs).length ≤ k ∧ encode bs ≠ [] := by
  have hmin := length_le_length_encode bs
  have hmax := (length_encode_le bs).trans (hlen ▸ maxLength_le_iff.mpr hk)
  rw [hlen] at hmin
  exact ⟨hmin, hmax, List.ne_nil_of_length_pos (hn.trans_le hmin)⟩

/-- **How long base58 text is.**  The text of `n` bytes has at least `n` characters, and at most the
least `k` for which `58 ^ k` reaches `256 ^ n`; there are bytes for either bound. So a public key
has a text of 32 to 44 characters, and a private key or a signature one of 64 to 88. -/
theorem length_encode_bounds :
    (∀ n, IsLeast {k | 256 ^ n ≤ 58 ^ k} (maxLength n)) ∧
      (∀ bs : Bytes, ∃ text, encodeValue (.bytes bs) = .ok text ∧
        bs.length ≤ text.length ∧ text.length ≤ maxLength bs.length) ∧
      (∀ n, (encode (Bytes.zeros n)).length = n ∧
        (encode (List.replicate n 0xFF)).length = maxLength n) ∧
      (∀ k : PublicKey,
        32 ≤ k.toBase58.length ∧ k.toBase58.length ≤ 44 ∧ k.toBase58 ≠ []) ∧
      (∀ k : PrivateKey,
        64 ≤ k.toBase58.length ∧ k.toBase58.length ≤ 88 ∧ k.toBase58 ≠ []) ∧
      ∀ s : Signature,
        64 ≤ s.toBase58.length ∧ s.toBase58.length ≤ 88 ∧ s.toBase58 ≠ [] := by
  have h32 : 256 ^ 32 ≤ 58 ^ 44 := by norm_num
  have h64 : 256 ^ 64 ≤ 58 ^ 88 := by norm_num
  refine ⟨isLeast_maxLength, fun bs => ?text, fun n => ?reached, fun k => ?publicKey,
    fun k => ?privateKey, fun s => ?signature⟩
  case text =>
    exact ⟨encode bs, encodeValue_bytes bs, length_le_length_encode bs, length_encode_le bs⟩
  case reached => exact ⟨length_encode_zeros n, length_encode_largest n⟩
  case publicKey => exact length_encode_of_length k.length_data (by norm_num) h32
  case privateKey => exact length_encode_of_length k.length_data (by norm_num) h64
  case signature => exact length_encode_of_length s.length_data (by norm_num) h64

end Base58
end LedgerKeys
