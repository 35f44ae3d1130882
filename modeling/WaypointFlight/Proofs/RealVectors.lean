import WaypointFlight.Navigator
import WaypointFlight.Proofs.Reals

namespace WaypointFlight

open Scalar

namespace Vec3

section Components

variable {α : Type} [Scalar α] (u v : Vec3 α) (s : α)

@[simp]
theorem add_north : (u + v).north = u.north + v.north := rfl

@[simp]
theorem add_east : (u + v).east = u.east + v.east := rfl

@[simp]
theorem add_up : (u + v).up = u.up + v.up := rfl

@[simp]
theorem sub_north : (u - v).north = u.north - v.north := rfl

@[simp]
theorem sub_east : (u - v).east = u.east - v.east := rfl

@[simp]
theorem sub_up : (u - v).up = u.up - v.up := rfl

@[simp]
theorem mul_north : (v * s).north = v.north * s := rfl

@[simp]
theorem mul_east : (v * s).east = v.east * s := rfl

@[simp]
theorem mul_up : (v * s).up = v.up * s := rfl

@[simp]
theorem div_north : (v / s).north = v.north / s := rfl

@[simp]
theorem div_east : (v / s).east = v.east / s := rfl

@[simp]
theorem div_up : (v / s).up = v.up / s := rfl

end Components

variable (u v w : Vec3 ℝ) (s : ℝ)

@[simp]
theorem zero_north : (zero : Vec3 ℝ).north = 0 := by simp [zero]

@[simp]
theorem zero_east : (zero : Vec3 ℝ).east = 0 := by simp [zero]

@[simp]
theorem zero_up : (zero : Vec3 ℝ).up = 0 := by simp [zero]

@[simp]
theorem vertical_north : (vertical s).north = 0 := by simp [vertical]

@[simp]
theorem vertical_east : (vertical s).east = 0 := by simp [vertical]

@[simp]
theorem vertical_up : (vertical s).up = s := rfl

theorem sub_zero : v - .zero = v := by ext <;> simp

theorem dot_real : u.dot v = u.north * v.north + u.east * v.east + u.up * v.up := rfl

theorem norm_real : v.norm = Real.sqrt (v.dot v) := rfl

theorem dot_self_nonneg : 0 ≤ v.dot v := by
  rw [dot_real]
  have hn := mul_self_nonneg v.north
  have he := mul_self_nonneg v.east
  have hu := mul_self_nonneg v.up
  linarith

theorem norm_nonneg : 0 ≤ v.norm := Real.sqrt_nonneg _

theorem norm_mul_self : v.norm * v.norm = v.dot v := Real.mul_self_sqrt (dot_self_nonneg v)

theorem norm_mul : (v * s).norm = v.norm * |s| := by
  have h : (v * s).dot (v * s) = v.dot v * (s * s) := by
    simp only [dot_real, mul_north, mul_east, mul_up]
    ring
  rw [norm_real, h, Real.sqrt_mul (dot_self_nonneg v), Real.sqrt_mul_self_eq_abs, norm_real]

theorem mul_dot : (u * s).dot v = s * u.dot v := by
  simp only [dot_real, mul_north, mul_east, mul_up]
  ring

theorem dot_le_norm_mul_norm : u.dot v ≤ u.norm * v.norm := by
  have hlagrange : u.dot v ^ 2 ≤ (u.norm * v.norm) ^ 2 := by
    have hcross : (u.norm * v.norm) ^ 2 - u.dot v ^ 2 =
        (u.north * v.east - u.east * v.north) ^ 2 + (u.east * v.up - u.up * v.east) ^ 2 +
          (u.up * v.north - u.north * v.up) ^ 2 := by
      rw [mul_pow, sq u.norm, sq v.norm, norm_mul_self, norm_mul_self]
      simp only [dot_real]
      ring
    rw [← sub_nonneg, hcross]
    positivity
  exact le_of_sq_le_sq hlagrange (mul_nonneg u.norm_nonneg v.norm_nonneg)

theorem norm_add_le : (u + v).norm ≤ u.norm + v.norm := by
  refine le_of_sq_le_sq ?_ (add_nonneg u.norm_nonneg v.norm_nonneg)
  calc (u + v).norm ^ 2
      = u.dot u + 2 * u.dot v + v.dot v := by
        rw [sq, norm_mul_self]
        simp only [dot_real, add_north, add_east, add_up]
        ring
    _ ≤ u.norm * u.norm + 2 * (u.norm * v.norm) + v.norm * v.norm := by
        rw [norm_mul_self, norm_mul_self]
        linarith [u.dot_le_norm_mul_norm v]
    _ = (u.norm + v.norm) ^ 2 := by ring

variable {u v} in
theorem norm_sub_le_zero_iff : (u - v).norm ≤ 0 ↔ u = v := by
  constructor
  · intro h
    have hnorm : (u - v).norm = 0 := le_antisymm h (u - v).norm_nonneg
    have hdot : (u - v).dot (u - v) = 0 := by
      rw [← norm_mul_self, hnorm, mul_zero]
    rw [dot_real, sub_north, sub_east, sub_up] at hdot
    have hn := mul_self_nonneg (u.north - v.north)
    have he := mul_self_nonneg (u.east - v.east)
    have hu := mul_self_nonneg (u.up - v.up)
    ext
    · exact sub_eq_zero.mp (mul_self_eq_zero.mp (by linarith))
    · exact sub_eq_zero.mp (mul_self_eq_zero.mp (by linarith))
    · exact sub_eq_zero.mp (mul_self_eq_zero.mp (by linarith))
  · rintro rfl
    simp [norm_real, dot_real]

variable {s}

theorem norm_north (h : 0 ≤ s) : (⟨s, 0, 0⟩ : Vec3 ℝ).norm = s := by
  rw [norm_real, dot_real]
  simpa using Real.sqrt_mul_self h

theorem norm_up (h : 0 ≤ s) : (⟨0, 0, s⟩ : Vec3 ℝ).norm = s := by
  rw [norm_real, dot_real]
  simpa using Real.sqrt_mul_self h

end Vec3

namespace Segment

/-- The directions of travel: of length one, or zero. -/
def IsDirection (u : Vec3 ℝ) : Prop := u.dot u = 1 ∨ u = .zero

variable {u v : Vec3 ℝ}

theorem IsDirection.dot_self_le (h : IsDirection u) : u.dot u ≤ 1 := by
  rcases h with hone | rfl
  · exact hone.le
  · simp [Vec3.dot_real]

theorem IsDirection.mul_dot_mul (h : IsDirection u) (x : ℝ) : u * (u * x).dot u = u * x := by
  rcases h with hone | rfl
  · rw [Vec3.mul_dot, hone, mul_one]
  · ext <;> simp

theorem div_norm_dot_self (h : ¬ IsZero v.norm) : (v / v.norm).dot (v / v.norm) = 1 := by
  have hn : v.norm ≠ 0 := (isPositive_of_not_isZero v.norm_nonneg h).pos.ne'
  have hv : (v / v.norm).dot (v / v.norm) = v.dot v / (v.norm * v.norm) := by
    simp only [Vec3.dot_real, Vec3.div_north, Vec3.div_east, Vec3.div_up]
    field_simp
  rw [hv, v.norm_mul_self, div_self]
  rw [← v.norm_mul_self]
  exact mul_ne_zero hn hn

theorem isDirection_directionOf (v : Vec3 ℝ) : IsDirection (directionOf v) := by
  unfold directionOf
  split_ifs with h
  · exact .inr rfl
  · exact .inl (div_norm_dot_self h)

theorem directionOf_level (h : v.up = 0) : (directionOf v).up = 0 := by
  unfold directionOf
  split_ifs
  · exact Vec3.zero_up
  · rw [Vec3.div_up, h, zero_div]

theorem directionOf_mul_norm (h : ¬ IsZero v.norm) : directionOf v * v.norm = v := by
  have hn : v.norm ≠ 0 := (isPositive_of_not_isZero v.norm_nonneg h).pos.ne'
  rw [directionOf, if_neg h]
  ext
  · exact div_mul_cancel₀ _ hn
  · exact div_mul_cancel₀ _ hn
  · exact div_mul_cancel₀ _ hn

variable {s : ℝ}

theorem directionOf_north (h : IsPositive s) : directionOf (⟨s, 0, 0⟩ : Vec3 ℝ) = ⟨1, 0, 0⟩ := by
  rw [directionOf, Vec3.norm_north h.pos.le, if_neg (not_isZero_of_isPositive h)]
  ext <;> simp [h.pos.ne']

theorem directionOf_up (h : IsPositive s) : directionOf (⟨0, 0, s⟩ : Vec3 ℝ) = ⟨0, 0, 1⟩ := by
  rw [directionOf, Vec3.norm_up h.pos.le, if_neg (not_isZero_of_isPositive h)]
  ext <;> simp [h.pos.ne']

end Segment

end WaypointFlight
