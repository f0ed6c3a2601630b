import DesktopAgent.Double.Rounding
import Mathlib.Algebra.Order.Ring.Int
import Mathlib.Tactic.SplitIfs
import Mathlib.Tactic.Zify

/-!
Integers rounded to doubles.

An integer other than zero is rounded to a mantissa of 53 bits. So its double keeps every power of
two that the integer reaches, and what is beyond 64 bits is beyond them as a double too.
-/

namespace DesktopAgent.Double

theorem le_divideToEven (num den : Nat) : num / den ≤ divideToEven num den := by
  unfold divideToEven
  dsimp only
  split_ifs
  · exact le_rfl
  · exact Nat.le_succ _
  · exact Nat.le_add_right _ _

/-- In units so many bits below its leading one, a number has at least that leading bit. -/
theorem two_pow_le_quotient {n : Nat} (notZero : n ≠ 0) (bits : Nat) :
    2 ^ bits ≤ (inUnits n 1 (n.log2 - bits)).1 / (inUnits n 1 (n.log2 - bits)).2 := by
  have leading := Nat.log2_self_le notZero
  unfold inUnits
  simp only [Nat.pow_eq, one_mul]
  generalize up : (-((n.log2 : Int) - bits)).toNat = more
  generalize down : ((n.log2 : Int) - bits).toNat = less
  have balance : bits + less = n.log2 + more := by omega
  rw [Nat.le_div_iff_mul_le (Nat.two_pow_pos less), ← pow_add, balance, pow_add]
  exact Nat.mul_le_mul_right _ leading

/-- The units of an integer are those in which it has 53 bits. -/
theorem unitExponent_one {n : Nat} (notZero : n ≠ 0) : unitExponent n 1 = n.log2 - 52 := by
  have tooMany : 9007199254740992 ≤
      (inUnits n 1 (n.log2 - 53)).1 / (inUnits n 1 (n.log2 - 53)).2 :=
    two_pow_le_quotient notZero 53
  have noBits : Nat.log2 1 = 0 := by decide
  have normal : leastExponent ≤ (n.log2 : Int) - 52 := by
    unfold leastExponent
    omega
  unfold unitExponent
  dsimp only
  rw [noBits, Nat.cast_zero, sub_zero, if_neg (not_lt.mpr tooMany)]
  omega

theorem ofParts?_eq_some
    {negative : Bool} {mantissa : Nat} {exponent : Int} {d : Double}
    (made : ofParts? negative mantissa exponent = some d) :
    d.negative = negative ∧ d.mantissa = mantissa ∧ d.exponent = exponent := by
  unfold ofParts? at made
  split at made
  · cases made
    exact ⟨rfl, rfl, rfl⟩
  · cases made

/-- Rounding up may give a mantissa of 54 bits, which is then halved beside a greater exponent. -/
theorem parts_of_ofRatio?
    {negative : Bool} {n : Nat} {d : Double} (notZero : n ≠ 0)
    (rounds : ofRatio? negative n 1 = some d) :
    d.negative = negative ∧ 2 ^ 52 ≤ d.mantissa ∧ (n.log2 : Int) - 52 ≤ d.exponent := by
  have whole : 2 ^ 52 ≤
      divideToEven (inUnits n 1 (n.log2 - 52)).1 (inUnits n 1 (n.log2 - 52)).2 :=
    (two_pow_le_quotient notZero 52).trans (le_divideToEven _ _)
  unfold ofRatio? at rounds
  rw [if_neg notZero, unitExponent_one notZero] at rounds
  dsimp only at rounds
  split at rounds
  · obtain ⟨sign, mantissa, exponent⟩ := ofParts?_eq_some rounds
    exact ⟨sign, by omega, by omega⟩
  · obtain ⟨sign, mantissa, exponent⟩ := ofParts?_eq_some rounds
    exact ⟨sign, by omega, by omega⟩

theorem two_pow_le_of_ofRatio?
    {negative : Bool} {n k : Nat} {d : Double} (reaches : 2 ^ k ≤ n)
    (rounds : ofRatio? negative n 1 = some d) :
    d.negative = negative ∧ 2 ^ k ≤ d.numerator / d.denominator := by
  have notZero : n ≠ 0 := Nat.ne_of_gt ((Nat.two_pow_pos k).trans_le reaches)
  obtain ⟨sign, mantissa, exponent⟩ := parts_of_ofRatio? notZero rounds
  have bits : k ≤ n.log2 := (Nat.le_log2 notZero).mpr reaches
  refine ⟨sign, ?_⟩
  unfold numerator denominator
  simp only [Nat.pow_eq]
  rw [Nat.le_div_iff_mul_le (Nat.two_pow_pos _)]
  calc 2 ^ k * 2 ^ (-d.exponent).toNat = 2 ^ (k + (-d.exponent).toNat) := (pow_add 2 _ _).symm
    _ ≤ 2 ^ (52 + d.exponent.toNat) := Nat.pow_le_pow_right (by decide) (by omega)
    _ = 2 ^ 52 * 2 ^ d.exponent.toNat := pow_add 2 _ _
    _ ≤ d.mantissa * 2 ^ d.exponent.toNat := Nat.mul_le_mul_right _ mantissa

section

variable {n : Int} {k : Nat} {d : Double}

theorem le_truncate_of_ofInt? (reaches : 2 ^ k ≤ n) (rounds : ofInt? n = some d) :
    2 ^ k ≤ d.truncate := by
  have power : (0 : Int) < 2 ^ k := Int.pow_pos (by decide)
  have positive : ¬ n < 0 := by omega
  have magnitude : 2 ^ k ≤ n.natAbs := by
    zify
    exact reaches.trans (le_abs_self n)
  obtain ⟨sign, large⟩ := two_pow_le_of_ofRatio? magnitude rounds
  rw [truncate, sign, decide_eq_false positive, if_neg Bool.false_ne_true]
  exact_mod_cast large

theorem truncate_le_of_ofInt? (reaches : n ≤ -2 ^ k) (rounds : ofInt? n = some d) :
    d.truncate ≤ -2 ^ k := by
  have power : (0 : Int) < 2 ^ k := Int.pow_pos (by decide)
  have negative : n < 0 := by omega
  have magnitude : 2 ^ k ≤ n.natAbs := by
    zify
    exact (Int.le_neg_of_le_neg reaches).trans (neg_le_abs n)
  obtain ⟨sign, large⟩ := two_pow_le_of_ofRatio? magnitude rounds
  rw [truncate, sign, decide_eq_true negative, if_pos rfl]
  exact Int.neg_le_neg (by exact_mod_cast large)

end

end DesktopAgent.Double
