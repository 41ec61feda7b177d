/-
The values of 32-bit binary numbers.

A number that is finite is a multiple of the least positive one, `2 ^ (-149)`, and its bits
without the sign say which of the numbers above zero it is: numbers follow each other as
their bits do, also where the exponent changes and where it first comes in.  So comparisons
that are made on the bits compare the values.

* `steps_strictMono` — a larger magnitude stands for a larger number;
* `abs_toRat_lt_iff`, `isBelowZero_iff` — the comparisons of `Single` compare values.
-/
import Mathlib.Algebra.Order.Field.Power
import Mathlib.Data.Rat.Cast.Order
import Mathlib.Tactic.NormNum
import Mathlib.Tactic.Positivity
import PullStreams.Number.Single

namespace PullStreams.Number.Single

variable {x y : Single}

/-- The value of a finite number. -/
def toRat (x : Single) : ℚ := (if x.isSigned then -1 else 1) * (x.decode.1 * 2 ^ x.decode.2)

def IsFinite (x : Single) : Prop := x.magnitude < infinityMagnitude

instance (x : Single) : Decidable x.IsFinite := inferInstanceAs (Decidable (_ < _))

theorem isFinite_iff : x.IsFinite ↔ x.isNaN = false ∧ x.isInfinite = false := by
  simp only [IsFinite, isNaN, isInfinite, decide_eq_false_iff_not]
  omega

/-! ### Magnitudes -/

/-- How many steps of `2 ^ (-149)` the number of a magnitude is above zero. -/
def steps (magnitude : Nat) : Nat :=
  if magnitude / 0x800000 = 0 then magnitude % 0x800000
  else (magnitude % 0x800000 + 0x800000) * 2 ^ (magnitude / 0x800000 - 1)

theorem steps_strictMono : StrictMono steps := by
  refine strictMono_nat_of_lt_succ fun m => ?_
  have hnext : m % 0x800000 + 1 < 0x800000 ∧ (m + 1) / 0x800000 = m / 0x800000 ∧
        (m + 1) % 0x800000 = m % 0x800000 + 1 ∨
      m % 0x800000 = 0x7fffff ∧ (m + 1) / 0x800000 = m / 0x800000 + 1 ∧
        (m + 1) % 0x800000 = 0 := by omega
  simp only [steps]
  -- Only the mantissa changes, or the exponent is one more and the mantissa begins again.
  rcases hnext with ⟨_, hfield, hrest⟩ | ⟨hlast, hfield, hrest⟩
  · rw [hfield, hrest]
    split
    · exact Nat.lt_succ_self _
    · refine Nat.mul_lt_mul_of_pos_right ?_ (Nat.two_pow_pos _)
      omega
  · rw [hfield, hrest, hlast]
    cases hexponent : m / 0x800000 with
    | zero => decide
    | succ k =>
      have hpower := Nat.two_pow_pos k
      simp only [Nat.succ_ne_zero, if_false, Nat.add_sub_cancel, pow_succ]
      omega

theorem steps_pos_iff {magnitude : Nat} : 0 < steps magnitude ↔ 0 < magnitude :=
  steps_strictMono.lt_iff_lt (a := 0)

/-! ### Values -/

theorem toRat_eq (x : Single) :
    x.toRat = (if x.isSigned then -1 else 1) * (steps x.magnitude * 2 ^ (-149 : ℤ)) := by
  have hdecode : (x.decode.1 : ℚ) * 2 ^ x.decode.2 = steps x.magnitude * 2 ^ (-149 : ℤ) := by
    simp only [decode, steps]
    split
    · rfl
    · next hfield =>
      obtain ⟨k, hk⟩ := Nat.exists_eq_succ_of_ne_zero hfield
      have hexponent : ((k + 1 : ℕ) : ℤ) - 150 = (k : ℤ) + -149 := by omega
      simp only [hk, Nat.succ_eq_add_one, hexponent, Nat.add_sub_cancel]
      rw [zpow_add₀ two_ne_zero, zpow_natCast, ← mul_assoc]
      push_cast
      rfl
  rw [toRat, hdecode]

theorem abs_toRat (x : Single) : |x.toRat| = steps x.magnitude * 2 ^ (-149 : ℤ) := by
  have hpos : (0 : ℚ) ≤ steps x.magnitude * 2 ^ (-149 : ℤ) := by positivity
  rw [toRat_eq, abs_mul, abs_of_nonneg hpos]
  split <;> simp

/-- Magnitudes compare as the absolute values do. -/
theorem abs_toRat_lt_iff : |x.toRat| < |y.toRat| ↔ x.magnitude < y.magnitude := by
  have hpos : (0 : ℚ) < 2 ^ (-149 : ℤ) := by positivity
  rw [abs_toRat, abs_toRat, mul_lt_mul_iff_left₀ hpos, Nat.cast_lt, steps_strictMono.lt_iff_lt]

/-- What is no NaN is below zero as its value is.  Neither zero is. -/
theorem isBelowZero_iff (hx : x.isNaN = false) : x.isBelowZero = true ↔ x.toRat < 0 := by
  have hpos : (0 : ℚ) < 2 ^ (-149 : ℤ) := by positivity
  have hzero : x.isZero = false ↔ (0 : ℚ) < steps x.magnitude := by
    rw [isZero, decide_eq_false_iff_not, Nat.cast_pos, steps_pos_iff, Nat.pos_iff_ne_zero]
  rw [isBelowZero, hx, toRat_eq]
  cases x.isSigned with
  | false =>
    have hnonneg : (0 : ℚ) ≤ 1 * (steps x.magnitude * 2 ^ (-149 : ℤ)) := by positivity
    exact iff_of_false nofun (not_lt.mpr hnonneg)
  | true =>
    simp only [Bool.true_and, Bool.not_false, Bool.and_true, Bool.not_eq_true', hzero, if_true,
      neg_mul, one_mul, neg_lt_zero]
    exact (mul_pos_iff_of_pos_right hpos).symm

/-- What exceeds a bound is no NaN, and lies further from zero. -/
theorem exceeds_iff : x.exceeds y = true ↔ x.isNaN = false ∧ |y.toRat| < |x.toRat| := by
  rw [exceeds, Bool.and_eq_true, Bool.not_eq_true', decide_eq_true_iff, abs_toRat_lt_iff]

end PullStreams.Number.Single
