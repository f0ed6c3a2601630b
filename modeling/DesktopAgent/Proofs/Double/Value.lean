import DesktopAgent.Json.Basic
import Mathlib.Algebra.Order.Field.Power
import Mathlib.Data.Rat.Floor

/-!
The numbers that doubles stand for.

A double is a rational number exactly, and cutting off its fraction is rounding that number toward
zero.
-/

namespace DesktopAgent

/-- The integer next to a number on the side of zero. -/
def towardZero (q : ℚ) : ℤ :=
  if 0 ≤ q then ⌊q⌋ else ⌈q⌉

theorem towardZero_of_nonneg {q : ℚ} (nonneg : 0 ≤ q) : towardZero q = ⌊q⌋ :=
  if_pos nonneg

theorem towardZero_intCast (n : ℤ) : towardZero n = n := by
  unfold towardZero
  split
  · exact Int.floor_intCast n
  · exact Int.ceil_intCast n

theorem towardZero_neg (q : ℚ) : towardZero (-q) = -towardZero q := by
  unfold towardZero
  rcases lt_trichotomy q 0 with negative | rfl | positive
  · have turned : 0 ≤ -q := by linarith
    rw [if_pos turned, if_neg (not_le.mpr negative), Int.floor_neg]
  · simp
  · have turned : ¬ 0 ≤ -q := by linarith
    rw [if_neg turned, if_pos positive.le, Int.ceil_neg]

theorem towardZero_mono {p q : ℚ} (le : p ≤ q) : towardZero p ≤ towardZero q := by
  unfold towardZero
  split_ifs with below above above
  · exact Int.floor_le_floor le
  · exact absurd (below.trans le) above
  · exact (Int.ceil_nonpos.mpr (not_le.mp below).le).trans (Int.floor_nonneg.mpr above)
  · exact Int.ceil_le_ceil le

namespace Double

/-- The number that a double stands for. -/
def value (d : Double) : ℚ :=
  (if d.negative then -1 else 1) * (d.mantissa * 2 ^ d.exponent)

/-- Of the two powers of two in a fraction, one is one. -/
theorem magnitude_eq_div (d : Double) :
    (d.mantissa : ℚ) * 2 ^ d.exponent = (d.numerator : ℚ) / (d.denominator : ℚ) := by
  have powers : (2 : ℚ) ^ d.exponent = 2 ^ d.exponent.toNat / 2 ^ (-d.exponent).toNat := by
    have difference : d.exponent = (d.exponent.toNat : ℤ) - ((-d.exponent).toNat : ℤ) := by omega
    conv_lhs => rw [difference]
    rw [zpow_sub₀ two_ne_zero, zpow_natCast, zpow_natCast]
  have fraction : (d.numerator : ℚ) / (d.denominator : ℚ) =
      ((d.mantissa * 2 ^ d.exponent.toNat : ℕ) : ℚ) / ((2 ^ (-d.exponent).toNat : ℕ) : ℚ) := rfl
  rw [powers, fraction]
  push_cast
  rw [mul_div_assoc]

theorem towardZero_magnitude (d : Double) :
    towardZero ((d.mantissa : ℚ) * 2 ^ d.exponent) = ((d.numerator / d.denominator : ℕ) : ℤ) := by
  have nonneg : 0 ≤ (d.mantissa : ℚ) * 2 ^ d.exponent := by positivity
  rw [towardZero_of_nonneg nonneg, magnitude_eq_div, Rat.floor_natCast_div_natCast]
  rfl

theorem truncate_eq (d : Double) : d.truncate = towardZero d.value := by
  have magnitude := towardZero_magnitude d
  unfold truncate value
  by_cases negative : d.negative = true
  · rw [if_pos negative, if_pos negative, neg_one_mul, towardZero_neg, magnitude]
  · rw [if_neg negative, if_neg negative, one_mul, magnitude]

end Double

/-- The number that a JSON number stands for. -/
def Json.Number.value : Json.Number → ℚ
  | .integer n => n
  | .double d => d.value

end DesktopAgent
