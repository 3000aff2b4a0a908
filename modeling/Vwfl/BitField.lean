import Mathlib.Tactic

namespace BitField

/-- Masking with a run of ones keeps one digit field of a number. -/
theorem and_field (value low width : Nat) :
    value &&& (2 ^ width - 1) * 2 ^ low = value / 2 ^ low % 2 ^ width * 2 ^ low := by
  apply Nat.eq_of_testBit_eq
  intro index
  simp only [Nat.testBit_and, Nat.testBit_mul_two_pow, Nat.testBit_mod_two_pow,
    Nat.testBit_div_two_pow, Nat.testBit_two_pow_sub_one]
  by_cases h : low ≤ index
  · simp [h, Nat.sub_add_cancel h, Bool.and_comm]
  · simp [h]

/-- Combining a multiple of a power of two with a smaller remainder is
    addition. -/
theorem or_remainder {remainder width : Nat} (quotient : Nat) (h : remainder < 2 ^ width) :
    quotient * 2 ^ width ||| remainder = quotient * 2 ^ width + remainder := by
  rw [Nat.mul_comm, Nat.two_pow_add_eq_or_of_lt h]

theorem toNat_and_low (value mask : UInt64) (width : Nat) (hmask : mask.toNat = 2 ^ width - 1) :
    (value &&& mask).toNat = value.toNat % 2 ^ width := by
  rw [UInt64.toNat_and, hmask, Nat.and_two_pow_sub_one_eq_mod]

theorem toNat_and_field (value mask : UInt64) (low width : Nat)
    (hmask : mask.toNat = (2 ^ width - 1) * 2 ^ low) :
    (value &&& mask).toNat = value.toNat / 2 ^ low % 2 ^ width * 2 ^ low := by
  rw [UInt64.toNat_and, hmask, and_field]

theorem toNat_or_remainder {high low : UInt64} {quotient width : Nat}
    (hhigh : high.toNat = quotient * 2 ^ width) (hlow : low.toNat < 2 ^ width) :
    (high ||| low).toNat = high.toNat + low.toNat := by
  rw [UInt64.toNat_or, hhigh, or_remainder quotient hlow]

theorem toNat_shiftRight (value : UInt64) (shift : UInt64) (hshift : shift.toNat < 64) :
    (value >>> shift).toNat = value.toNat / 2 ^ shift.toNat := by
  rw [UInt64.toNat_shiftRight, Nat.shiftRight_eq_div_pow, Nat.mod_eq_of_lt hshift]

/-- An addition that stays below the word size is exact. -/
theorem toNat_add_of_lt {first second : UInt64} (h : first.toNat + second.toNat < 2 ^ 64) :
    (first + second).toNat = first.toNat + second.toNat := by
  rw [UInt64.toNat_add, Nat.mod_eq_of_lt h]

theorem toNat_add_ofNat {base : UInt64} {index : Nat} (h : base.toNat + index < 2 ^ 64) :
    (base + UInt64.ofNat index).toNat = base.toNat + index := by
  have hindex : (UInt64.ofNat index).toNat = index := by
    rw [UInt64.toNat_ofNat']
    omega
  rw [toNat_add_of_lt (by omega), hindex]

theorem toNat_sub_of_le {first second : UInt64} (h : second.toNat ≤ first.toNat) :
    (first - second).toNat = first.toNat - second.toNat := by
  have hfirst := first.toNat_lt
  rw [UInt64.toNat_sub]
  omega

/-- The address of an element of a table. -/
theorem toNat_add_index {base step : UInt64} {start stride index : Nat} (hbase : base.toNat = start)
    (hstep : step.toNat = stride) (h : start + index * stride < 2 ^ 64) :
    (base + UInt64.ofNat index * step).toNat = start + index * stride := by
  have hproduct : (UInt64.ofNat index * step).toNat = index * stride := by
    rw [UInt64.toNat_mul, UInt64.toNat_ofNat', hstep, Nat.mod_mul_mod]
    omega
  rw [toNat_add_of_lt (by omega), hbase, hproduct]

end BitField
