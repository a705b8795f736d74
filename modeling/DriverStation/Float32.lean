import Mathlib.Data.Int.Log
import Mathlib.Data.Rat.Floor
import Mathlib.Tactic.Positivity
import Mathlib.Tactic.FieldSimp

/-!
# `f32` arithmetic

An `f32` is modelled by the rational it denotes, and every arithmetic operation rounds its
exact result the way IEEE 754 binary32 does: to nearest, ties to even, with 24 significant
bits and no step finer than the subnormal `2^-149`. Results of magnitude `2^128` or more
would be infinities; they lie outside the model, and the decoder's operands stay below
`2^8`. A value with at most 24 significant bits above that step is kept exactly.
-/

set_option autoImplicit false

namespace DS.Float32

def roundEven (q : ℚ) : ℤ :=
  if q - ⌊q⌋ < 1/2 then ⌊q⌋
  else if 1/2 < q - ⌊q⌋ then ⌊q⌋ + 1
  else if ⌊q⌋ % 2 = 0 then ⌊q⌋ else ⌊q⌋ + 1

/-- The exponent of the last bit an `f32` keeps for a value of magnitude `|x|`. -/
def quantum (x : ℚ) : ℤ := max (Int.log 2 |x| - 23) (-149)

def round (x : ℚ) : ℚ := roundEven (x / 2 ^ quantum x) * 2 ^ quantum x

def ofNat (n : ℕ) : ℚ := round n

def add (a b : ℚ) : ℚ := round (a + b)

def div (a b : ℚ) : ℚ := round (a / b)

@[simp] theorem roundEven_intCast (n : ℤ) : roundEven n = n := by
  simp [roundEven]

theorem quantum_le (n f : ℤ) (hn : n ≠ 0) (hb : |n| < 2 ^ 24) (hf : -149 ≤ f) :
    quantum (n * 2 ^ f) ≤ f := by
  have h2f : (0 : ℚ) < 2 ^ f := zpow_pos two_pos f
  have hpos : 0 < |(n : ℚ) * 2 ^ f| :=
    abs_pos.mpr (mul_ne_zero (by exact_mod_cast hn) h2f.ne')
  have hlt : |(n : ℚ) * 2 ^ f| < 2 ^ (24 + f) := by
    have hn' : |(n : ℚ)| < 2 ^ 24 := by exact_mod_cast hb
    rw [abs_mul, abs_of_pos h2f, zpow_add₀ two_ne_zero]
    exact mul_lt_mul_of_pos_right (by exact_mod_cast hn') h2f
  have hL := Int.zpow_log_le_self (b := 2) (by norm_num) hpos
  have hlog : Int.log 2 |(n : ℚ) * 2 ^ f| < 24 + f :=
    (zpow_lt_zpow_iff_right₀ (a := (2 : ℚ)) (by norm_num)).mp
      (lt_of_le_of_lt (by exact_mod_cast hL) hlt)
  unfold quantum
  omega

theorem round_exact (n f : ℤ) (hb : |n| < 2 ^ 24) (hf : -149 ≤ f) :
    round (n * 2 ^ f) = n * 2 ^ f := by
  rcases eq_or_ne n 0 with rfl | hn
  · simp [round, roundEven]
  unfold round
  set e := quantum ((n : ℚ) * 2 ^ f)
  obtain ⟨k, hk⟩ : ∃ k : ℕ, f = e + k :=
    ⟨(f - e).toNat, by have := quantum_le n f hn hb hf; omega⟩
  have hq : (n : ℚ) * 2 ^ f / 2 ^ e = ((n * 2 ^ k : ℤ) : ℚ) := by
    rw [hk, zpow_add₀ two_ne_zero, zpow_natCast, mul_comm ((2 : ℚ) ^ e), ← mul_assoc,
      mul_div_cancel_right₀ _ (zpow_ne_zero e two_ne_zero)]
    push_cast
    rfl
  rw [hq, roundEven_intCast, hk, zpow_add₀ two_ne_zero, zpow_natCast]
  push_cast
  ring

theorem round_nat_div_pow (m k : ℕ) (hm : m < 2 ^ 24) (hk : k ≤ 149) :
    round (m / 2 ^ k) = m / 2 ^ k := by
  have h := round_exact m (-k) (by simpa using (by exact_mod_cast hm : (m : ℤ) < 2 ^ 24))
    (by omega)
  simpa [zpow_neg, div_eq_mul_inv] using h

@[simp] theorem ofNat_exact (n : ℕ) (hn : n < 2 ^ 24) : ofNat n = n := by
  simpa using round_nat_div_pow n 0 hn (by norm_num)

end DS.Float32
