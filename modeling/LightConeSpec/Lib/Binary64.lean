import Mathlib.Algebra.Order.Field.Power
import Mathlib.Algebra.Order.Field.Rat
import Mathlib.Data.Int.Log
import Mathlib.Data.Rat.Floor
import Mathlib.Tactic.Positivity

/-!
# Rounding to 53 bits

The results of float operations as rationals: the exact result, rounded to the nearest number of 53
significant bits, the even one of two. Exponents are unbounded, so this is binary64 as long as
nothing overflows or is subnormal.
-/

namespace Binary64

/-- The nearest integer, the even one of two. -/
def roundEven (q : ℚ) : ℤ :=
  if Int.fract q < 1 / 2 ∨ Int.fract q = 1 / 2 ∧ Even ⌊q⌋ then ⌊q⌋ else ⌊q⌋ + 1

/-- What the last of the 53 bits of a number weighs. -/
def ulp (q : ℚ) : ℚ := 2 ^ (Int.log 2 |q| - 52)

def round (q : ℚ) : ℚ := roundEven (q / ulp q) * ulp q

theorem roundEven_intCast (n : ℤ) : roundEven n = n := by
  unfold roundEven
  rw [Int.fract_intCast, if_pos (.inl (by norm_num)), Int.floor_intCast]

/-- What is rounded is an integer times a power of two. -/
theorem exists_round (q : ℚ) : ∃ n k : ℤ, round q = n * 2 ^ k := ⟨_, _, rfl⟩

/-- An integer of 53 bits times a power of two is kept. -/
theorem round_eq_self {n : ℤ} (hn : |n| < 2 ^ 53) (k : ℤ) :
    round (n * 2 ^ k) = n * 2 ^ k := by
  rcases eq_or_ne n 0 with rfl | hne
  · simp [round, roundEven]
  have hcast : (n : ℚ) ≠ 0 := Int.cast_ne_zero.mpr hne
  have hlog : Int.log 2 |(n * 2 ^ k : ℚ)| < 53 + k := by
    refine (Int.lt_zpow_iff_log_lt one_lt_two (by positivity)).mp ?_
    rw [abs_mul, abs_of_pos (by positivity : (0 : ℚ) < 2 ^ k), Nat.cast_ofNat,
      zpow_add₀ two_ne_zero]
    refine mul_lt_mul_of_pos_right ?_ (by positivity)
    exact_mod_cast hn
  -- the last bit of the product weighs no more than the power
  obtain ⟨j, hj⟩ := Int.eq_ofNat_of_zero_le (show 0 ≤ 52 + k - Int.log 2 |(n * 2 ^ k : ℚ)| by omega)
  have hdiv : (n * 2 ^ k : ℚ) / ulp (n * 2 ^ k) = (n * 2 ^ j : ℤ) := by
    rw [ulp, div_eq_iff (by positivity), Int.cast_mul, Int.cast_pow, Int.cast_ofNat, mul_assoc,
      ← zpow_natCast, ← zpow_add₀ two_ne_zero]
    congr 2
    omega
  rw [round, hdiv, roundEven_intCast, ← hdiv, div_mul_cancel₀]
  exact (by unfold ulp; positivity : ulp (n * 2 ^ k) ≠ 0)

theorem round_intCast {n : ℤ} (hn : |n| < 2 ^ 53) : round n = n := by
  simpa using round_eq_self hn 0

end Binary64
