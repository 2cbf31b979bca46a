import Mathlib

/-! Rust's saturating and wrapping operations on fixed-width unsigned integers,
as a release build computes them, with the value of each as a `Nat`.

`saturating_add` stops at the type's maximum and `saturating_sub` at zero;
`overflowing_add` and `overflowing_sub` wrap and say whether they did;
`wrapping_pow` is `pow` with its multiplications taken modulo `2^64`, which is
what `u64::pow` does when overflow checks are off.
-/

set_option autoImplicit false

def UInt8.saturatingAdd (a b : UInt8) : UInt8 := UInt8.ofNat (min (a.toNat + b.toNat) (2 ^ 8 - 1))

def UInt64.saturatingAdd (a b : UInt64) : UInt64 :=
  UInt64.ofNat (min (a.toNat + b.toNat) (2 ^ 64 - 1))

def UInt64.saturatingSub (a b : UInt64) : UInt64 := UInt64.ofNat (a.toNat - b.toNat)

def UInt64.overflowingAdd (a b : UInt64) : UInt64 × Bool :=
  (a + b, decide (2 ^ 64 ≤ a.toNat + b.toNat))

def UInt64.overflowingSub (a b : UInt64) : UInt64 × Bool := (a - b, decide (a < b))

def UInt64.wrappingPow (base : UInt64) (exp : UInt32) : UInt64 :=
  UInt64.ofNat (base.toNat ^ exp.toNat)

@[simp] theorem UInt8.toNat_saturating_add (a b : UInt8) :
    (a.saturatingAdd b).toNat = min (a.toNat + b.toNat) (2 ^ 8 - 1) := by
  rw [saturatingAdd, UInt8.toNat_ofNat', Nat.mod_eq_of_lt]
  omega

@[simp] theorem UInt64.toNat_saturating_add (a b : UInt64) :
    (a.saturatingAdd b).toNat = min (a.toNat + b.toNat) (2 ^ 64 - 1) := by
  rw [saturatingAdd, UInt64.toNat_ofNat', Nat.mod_eq_of_lt]
  omega

@[simp] theorem UInt64.toNat_saturating_sub (a b : UInt64) :
    (a.saturatingSub b).toNat = a.toNat - b.toNat := by
  have below := a.toNat_lt
  rw [saturatingSub, UInt64.toNat_ofNat', Nat.mod_eq_of_lt]
  omega

@[simp] theorem UInt64.toNat_wrapping_pow (base : UInt64) (exp : UInt32) :
    (base.wrappingPow exp).toNat = base.toNat ^ exp.toNat % 2 ^ 64 :=
  UInt64.toNat_ofNat'

theorem UInt64.toNat_add_of_lt {a b : UInt64} (fits : a.toNat + b.toNat < 2 ^ 64) :
    (a + b).toNat = a.toNat + b.toNat := by
  rw [UInt64.toNat_add, Nat.mod_eq_of_lt fits]

theorem UInt64.two_pow_mod_of_lt {exp : Nat} (small : exp < 64) : 2 ^ exp % 2 ^ 64 = 2 ^ exp :=
  Nat.mod_eq_of_lt (Nat.pow_lt_pow_right (by decide) small)

theorem UInt64.two_pow_mod_of_le {exp : Nat} (large : 64 ≤ exp) : 2 ^ exp % 2 ^ 64 = 0 :=
  Nat.mod_eq_zero_of_dvd (Nat.pow_dvd_pow 2 large)
