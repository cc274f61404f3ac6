import Mathlib.Algebra.Order.Floor.Ring
import Mathlib.Data.Int.Log
import Mathlib.Data.Rat.Floor
import Mathlib.Tactic.GCongr
import Mathlib.Tactic.Linarith

/-!
# Rounding to a binary precision

The non-negative numbers of a binary format with `bits` fraction bits and any
exponent, and rounding to the nearest of them, a tie to the even one. Each
operation of such a format is its exact result rounded, so all of them inherit
that rounding is monotone.
-/
namespace Sipmon.Lib.Rounding

/-- The nearest integer, a tie to the even one. -/
def halfEven (x : ℚ) : ℤ :=
  if x - ⌊x⌋ < 1 / 2 then ⌊x⌋
  else if 1 / 2 < x - ⌊x⌋ then ⌊x⌋ + 1
  else if 2 ∣ ⌊x⌋ then ⌊x⌋ else ⌊x⌋ + 1

theorem halfEven_bounds (x : ℚ) : ⌊x⌋ ≤ halfEven x ∧ halfEven x ≤ ⌊x⌋ + 1 := by
  unfold halfEven
  repeat' split
  all_goals omega

theorem halfEven_intCast (n : ℤ) : halfEven (n : ℚ) = n := by
  unfold halfEven
  rw [Int.floor_intCast, sub_self, if_pos (by norm_num)]

theorem halfEven_mono {x y : ℚ} (le : x ≤ y) : halfEven x ≤ halfEven y := by
  have floors := Int.floor_le_floor le
  rcases lt_or_eq_of_le floors with below | same
  · exact (halfEven_bounds x).2.trans ((Int.add_one_le_iff.mpr below).trans (halfEven_bounds y).1)
  · unfold halfEven
    rw [← same]
    have fractions : x - ⌊x⌋ ≤ y - ⌊x⌋ := by linarith
    repeat' split
    all_goals first | omega | linarith

/-- The nearest integer, a tie away from zero. -/
def halfAway (x : ℚ) : ℤ := if 0 ≤ x then ⌊x + 1 / 2⌋ else ⌈x - 1 / 2⌉

theorem halfAway_intCast (n : ℤ) : halfAway (n : ℚ) = n := by
  have half : ⌊(1 / 2 : ℚ)⌋ = 0 := by norm_num
  unfold halfAway
  split
  · rw [Int.floor_intCast_add, half, add_zero]
  · have ceil : ⌈(1 / 2 : ℚ)⌉ = 1 := by norm_num
    rw [show (n : ℚ) - 1 / 2 = ((n - 1 : ℤ) : ℚ) + 1 / 2 by push_cast; ring, Int.ceil_intCast_add, ceil]
    omega

/-- The unit in the last place of the numbers around `x`. -/
def ulp (bits : ℕ) (x : ℚ) : ℚ := 2 ^ (Int.log 2 x - bits)

/-- The nearest number of the format. -/
def nearest (bits : ℕ) (x : ℚ) : ℚ :=
  if x ≤ 0 then 0 else halfEven (x / ulp bits x) * ulp bits x

theorem ulp_pos (bits : ℕ) (x : ℚ) : 0 < ulp bits x := zpow_pos (by norm_num) _

/-- Rounding does not leave the binade. -/
theorem nearest_bounds {bits : ℕ} {x : ℚ} (positive : 0 < x) :
    2 ^ Int.log 2 x ≤ nearest bits x ∧ nearest bits x ≤ 2 ^ (Int.log 2 x + 1) := by
  have unit := ulp_pos bits x
  have low : (2 : ℚ) ^ Int.log 2 x = ((2 ^ bits : ℤ) : ℚ) * ulp bits x := by
    unfold ulp
    push_cast
    rw [← zpow_natCast, ← zpow_add₀ (by norm_num)]
    congr 1
    omega
  have high : (2 : ℚ) ^ (Int.log 2 x + 1) = ((2 ^ (bits + 1) : ℤ) : ℚ) * ulp bits x := by
    unfold ulp
    push_cast
    rw [← zpow_natCast, ← zpow_add₀ (by norm_num)]
    congr 1
    push_cast
    omega
  unfold nearest
  rw [if_neg (not_le.mpr positive), low, high]
  have from_ := Int.zpow_log_le_self (b := 2) (by decide) positive
  have to_ := (Int.lt_zpow_succ_log_self (b := 2) (by decide) x).le
  push_cast at from_ to_
  rw [low] at from_
  rw [high] at to_
  constructor
  · have scaled : ((2 ^ bits : ℤ) : ℚ) ≤ x / ulp bits x := (le_div_iff₀ unit).mpr from_
    have rounded := halfEven_mono scaled
    rw [halfEven_intCast] at rounded
    exact mul_le_mul_of_nonneg_right (by exact_mod_cast rounded) unit.le
  · have scaled : x / ulp bits x ≤ ((2 ^ (bits + 1) : ℤ) : ℚ) := (div_le_iff₀ unit).mpr to_
    have rounded := halfEven_mono scaled
    rw [halfEven_intCast] at rounded
    exact mul_le_mul_of_nonneg_right (by exact_mod_cast rounded) unit.le

theorem nearest_nonneg (bits : ℕ) (x : ℚ) : 0 ≤ nearest bits x := by
  rcases le_or_gt x 0 with negative | positive
  · exact (if_pos negative : nearest bits x = 0).ge
  · exact (zpow_nonneg (by norm_num) _ : (0 : ℚ) ≤ 2 ^ Int.log 2 x).trans (nearest_bounds positive).1

theorem nearest_mono (bits : ℕ) {x y : ℚ} (le : x ≤ y) : nearest bits x ≤ nearest bits y := by
  rcases le_or_gt x 0 with negative | positive
  · exact ((if_pos negative : nearest bits x = 0).le).trans (nearest_nonneg bits y)
  · have larger := positive.trans_le le
    rcases lt_or_eq_of_le (Int.log_mono_right (b := 2) positive le) with below | same
    · have apart : (2 : ℚ) ^ (Int.log 2 x + 1) ≤ 2 ^ Int.log 2 y :=
        zpow_le_zpow_right₀ (by norm_num) (Int.add_one_le_iff.mpr below)
      exact (nearest_bounds positive).2.trans (apart.trans (nearest_bounds larger).1)
    · have unit : ulp bits x = ulp bits y := by unfold ulp; rw [same]
      unfold nearest
      rw [if_neg (not_le.mpr positive), if_neg (not_le.mpr larger), unit]
      have scaled : x / ulp bits y ≤ y / ulp bits y := by
        gcongr
        exact (ulp_pos bits y).le
      exact mul_le_mul_of_nonneg_right (by exact_mod_cast halfEven_mono scaled) (ulp_pos bits y).le

end Sipmon.Lib.Rounding
