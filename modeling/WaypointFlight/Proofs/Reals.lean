import Mathlib
import WaypointFlight.Scalar.Tolerance
import WaypointFlight.Scalar.Turn

namespace WaypointFlight

open Scalar

namespace Reals

noncomputable def truncate (x : ℝ) : ℤ := if 0 ≤ x then ⌊x⌋ else ⌈x⌉

/-- The nearest integer, a half going away from zero. -/
noncomputable def nearest (x : ℝ) : ℤ := if 0 ≤ x then ⌊x + 1 / 2⌋ else ⌈x - 1 / 2⌉

end Reals

/-- Every real is a number, so the guards against what is not one never act. -/
noncomputable instance : Scalar ℝ where
  decideLT _ _ := inferInstance
  decideLE _ _ := inferInstance
  isNaN _ := false
  abs x := |x|
  sqrt := Real.sqrt
  rem x y := x - y * Reals.truncate (x / y)
  degreesPerRadian := 180 / Real.pi

noncomputable instance : Analytic ℝ where
  hypot x y := Real.sqrt (x * x + y * y)
  atan2 y x := Complex.arg ⟨x, y⟩
  cos := Real.cos
  tan := Real.tan
  radiansPerDegree := Real.pi / 180
  round x := Reals.nearest x
  ceil x := ⌈x⌉
  ofInt n := n
  toWord r x := r.clamp (Reals.truncate x)

namespace Scalar

variable (x y lo hi : ℝ)

@[simp]
theorem zero_literal : (0.0 : ℝ) = 0 := by norm_num

@[simp]
theorem one_literal : (1.0 : ℝ) = 1 := by norm_num

@[simp]
theorem abs_real : Scalar.abs x = |x| := rfl

@[simp]
theorem sqrt_real : Scalar.sqrt x = Real.sqrt x := rfl

@[simp]
theorem hypot_real : Analytic.hypot x y = Real.sqrt (x * x + y * y) := rfl

@[simp]
theorem safeSqrt_real : safeSqrt x = Real.sqrt x := rfl

@[simp]
theorem square_real : square x = x * x := rfl

@[simp]
theorem maxNum_real : maxNum x y = max x y := by
  rw [max_def_lt]
  rfl

@[simp]
theorem minNum_real : minNum x y = min x y := by
  rw [min_comm, min_def_lt]
  rfl

theorem isZero_real : IsZero x ↔ |x| < 1.1920928955078125e-7 := Iff.rfl

@[simp]
theorem isZero_zero : IsZero (0 : ℝ) := by norm_num [isZero_real]

theorem isPositive_real : IsPositive x ↔ 1.1920928955078125e-7 ≤ x := Iff.rfl

variable {x y lo hi}

theorem IsPositive.pos (h : IsPositive x) : 0 < x := by
  rw [isPositive_real] at h
  linarith

theorem not_isZero_of_isPositive (h : IsPositive x) : ¬ IsZero x := by
  rw [isPositive_real] at h
  rw [isZero_real, not_lt]
  exact h.trans (le_abs_self x)

theorem isPositive_of_not_isZero (hx : 0 ≤ x) (h : ¬ IsZero x) : IsPositive x := by
  rw [isZero_real, not_lt, abs_of_nonneg hx] at h
  exact h

theorem constrain_real : constrain x lo hi = if hi < x then hi else if x < lo then lo else x := rfl

theorem constrain_eq (h : lo ≤ hi) : constrain x lo hi = max lo (min hi x) := by
  rw [constrain_real]
  split_ifs with h₁ h₂
  · rw [min_eq_left h₁.le, max_eq_right h]
  · rw [min_eq_right (not_lt.mp h₁), max_eq_left h₂.le]
  · rw [min_eq_right (not_lt.mp h₁), max_eq_right (not_lt.mp h₂)]

theorem le_constrain (h : lo ≤ hi) : lo ≤ constrain x lo hi := by
  rw [constrain_eq h]
  exact le_max_left _ _

theorem constrain_le (h : lo ≤ hi) : constrain x lo hi ≤ hi := by
  rw [constrain_eq h]
  exact max_le h (min_le_left _ _)

end Scalar

end WaypointFlight
