/-
# Byte strings and positional numerals

A byte string is a list of bytes. It is read as a number in two ways: with the most significant
byte first (hash words, base58) and with the least significant byte first (field elements and
scalars of the curve). Writing a number in a fixed width keeps its value modulo `256 ^ width`.

`digits` writes a number in any base with no leading zero; it is what base58 and decimal text
are made of, so its laws are stated here once.
-/

namespace LedgerKeys

-- The powers of the core library are meant, also where there are others in sight.
attribute [local instance (high)] instPowNat

/-- A string of bytes. -/
abbrev Bytes := List UInt8

/-! ## 1. Positional numerals -/

/-- The digits of `n`, least significant first, at most `fuel` of them. -/
def digitsUpTo (base : Nat) : Nat → Nat → List Nat
  | 0, _ => []
  | fuel + 1, n => if n = 0 then [] else n % base :: digitsUpTo base fuel (n / base)

/-- The digits of `n`, least significant first and with no zero at the end. -/
def digits (base n : Nat) : List Nat := digitsUpTo base (n.log2 + 1) n

/-- The number that `ds`, least significant first, stands for. -/
def ofDigits (base : Nat) : List Nat → Nat
  | [] => 0
  | d :: ds => d + base * ofDigits base ds

theorem ofDigits_digitsUpTo {base : Nat} (hb : 2 ≤ base) :
    ∀ (fuel n : Nat), n < 2 ^ fuel → ofDigits base (digitsUpTo base fuel n) = n := by
  intro fuel
  induction fuel with
  | zero => intro n hn; simp at hn; simp [digitsUpTo, ofDigits, hn]
  | succ fuel ih =>
    intro n hn
    unfold digitsUpTo
    split
    · simp [ofDigits, *]
    · have hlt : n / base < 2 ^ fuel := by
        have h2 : n / base ≤ n / 2 := Nat.div_le_div_left hb (by decide)
        have h3 : n / 2 < 2 ^ fuel := by
          rw [Nat.pow_succ] at hn
          omega
        omega
      simp only [ofDigits, ih _ hlt]
      exact Nat.mod_add_div n base

/-- Reading the digits back gives the number. -/
theorem ofDigits_digits {base : Nat} (hb : 2 ≤ base) (n : Nat) :
    ofDigits base (digits base n) = n :=
  ofDigits_digitsUpTo hb _ _ Nat.lt_log2_self

theorem digitsUpTo_lt {base : Nat} (hb : 0 < base) :
    ∀ (fuel n : Nat), ∀ d ∈ digitsUpTo base fuel n, d < base := by
  intro fuel
  induction fuel with
  | zero => intro n d hd; simp [digitsUpTo] at hd
  | succ fuel ih =>
    intro n d hd
    unfold digitsUpTo at hd
    split at hd
    · simp at hd
    · rcases List.mem_cons.mp hd with rfl | hd
      · exact Nat.mod_lt _ hb
      · exact ih _ _ hd

/-- Every digit is below the base. -/
theorem digits_lt {base : Nat} (hb : 0 < base) (n : Nat) : ∀ d ∈ digits base n, d < base :=
  digitsUpTo_lt hb _ _

namespace Bytes

/-! ## 2. Most significant byte first -/

/-- The number with these bytes, most significant first. -/
def toNat (bs : Bytes) : Nat := ofDigits 256 (bs.reverse.map UInt8.toNat)

/-- The shortest byte string for `n`, most significant byte first; empty for zero. -/
def ofNat (n : Nat) : Bytes := (digits 256 n).reverse.map UInt8.ofNat

/-! ## 3. Least significant byte first -/

/-- The number with these bytes, least significant first. -/
def toNatLE : Bytes → Nat
  | [] => 0
  | b :: bs => b.toNat + 256 * toNatLE bs

/-- The low `width` bytes of `n`, least significant first. -/
def ofNatLE : Nat → Nat → Bytes
  | 0, _ => []
  | width + 1, n => UInt8.ofNat n :: ofNatLE width (n / 256)

@[simp] theorem length_ofNatLE (width n : Nat) : (ofNatLE width n).length = width := by
  induction width generalizing n with
  | zero => rfl
  | succ width ih => simp [ofNatLE, ih]

/-- Writing in `width` bytes keeps the number modulo `256 ^ width`. -/
theorem toNatLE_ofNatLE (width n : Nat) : toNatLE (ofNatLE width n) = n % 256 ^ width := by
  induction width generalizing n with
  | zero => simp [ofNatLE, toNatLE, Nat.mod_one]
  | succ width ih =>
    simp only [ofNatLE, toNatLE, ih, Nat.pow_succ]
    rw [Nat.mul_comm (256 ^ width) 256, Nat.mod_mul]
    simp

theorem toNatLE_lt (bs : Bytes) : toNatLE bs < 256 ^ bs.length := by
  induction bs with
  | nil => simp [toNatLE]
  | cons b bs ih =>
    have hb : b.toNat < 256 := b.toNat_lt
    simp only [toNatLE, List.length_cons, Nat.pow_succ]
    omega

/-- A byte string is the writing of its number in its own length. -/
theorem ofNatLE_toNatLE (bs : Bytes) : ofNatLE bs.length (toNatLE bs) = bs := by
  induction bs with
  | nil => rfl
  | cons b bs ih =>
    have hb : b.toNat < 256 := b.toNat_lt
    have h1 : (b.toNat + 256 * toNatLE bs) / 256 = toNatLE bs := by omega
    have h2 : UInt8.ofNat (b.toNat + 256 * toNatLE bs) = b := by
      apply UInt8.toNat_inj.mp
      simp only [UInt8.toNat_ofNat']
      omega
    simp only [List.length_cons, toNatLE, ofNatLE, h1, h2, ih]

/-! ## 4. Zeros -/

/-- `n` zero bytes. -/
def zeros (n : Nat) : Bytes := List.replicate n 0

@[simp] theorem length_zeros (n : Nat) : (zeros n).length = n := List.length_replicate

end Bytes

end LedgerKeys
