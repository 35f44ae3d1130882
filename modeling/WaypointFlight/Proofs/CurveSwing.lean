import WaypointFlight.Proofs.CurveEnds

namespace WaypointFlight

open Scalar

section Weights

variable {t : ℝ}

theorem mul_one_sub_sq_le (h : t ≤ 1) : t * (1 - t) ^ 2 ≤ 4 / 27 := by
  have hgap : 4 / 27 - t * (1 - t) ^ 2 = (1 / 3 - t) ^ 2 * (4 / 3 - t) := by ring
  have hpos : 0 ≤ (1 / 3 - t) ^ 2 * (4 / 3 - t) := mul_nonneg (sq_nonneg _) (by linarith)
  linarith

theorem sq_mul_one_sub_le (h : 0 ≤ t) : t ^ 2 * (1 - t) ≤ 4 / 27 := by
  have hmirror := mul_one_sub_sq_le (sub_le_self 1 h)
  rwa [sub_sub_cancel, mul_comm] at hmirror

theorem smoothstep_mem (h : 0 ≤ t) (h' : t ≤ 1) :
    0 ≤ 3 * t ^ 2 - 2 * t ^ 3 ∧ 3 * t ^ 2 - 2 * t ^ 3 ≤ 1 := by
  have hlow : 3 * t ^ 2 - 2 * t ^ 3 = t ^ 2 * (3 - 2 * t) := by ring
  have hhigh : 1 - (3 * t ^ 2 - 2 * t ^ 3) = (1 - t) ^ 2 * (1 + 2 * t) := by ring
  have hpos : 0 ≤ t ^ 2 * (3 - 2 * t) := mul_nonneg (sq_nonneg _) (by linarith)
  have hpos' : 0 ≤ (1 - t) ^ 2 * (1 + 2 * t) := mul_nonneg (sq_nonneg _) (by linarith)
  constructor <;> linarith

end Weights

namespace HermiteCurve

/-- A cubic is away from its chord by what its velocities add. -/
theorem position_solve_sub (b : Boundary ℝ) (t : ℝ) :
    (solve b).position t -
        (b.origin + (b.destination - b.origin) * (3 * t ^ 2 - 2 * t ^ 3)) =
      b.originVel * (t * (1 - t) ^ 2) + b.destinationVel * (-(t ^ 2 * (1 - t))) := by
  ext <;> norm_num [position, solve] <;> ring

theorem norm_position_solve_sub_le (b : Boundary ℝ) {t : ℝ} (h : 0 ≤ t) (h' : t ≤ 1) :
    ((solve b).position t -
        (b.origin + (b.destination - b.origin) * (3 * t ^ 2 - 2 * t ^ 3))).norm ≤
      4 / 27 * b.speedSum := by
  have hweight : 0 ≤ t * (1 - t) ^ 2 := mul_nonneg h (sq_nonneg _)
  have hweight' : 0 ≤ t ^ 2 * (1 - t) := mul_nonneg (sq_nonneg _) (sub_nonneg.mpr h')
  rw [position_solve_sub]
  calc (b.originVel * (t * (1 - t) ^ 2) + b.destinationVel * (-(t ^ 2 * (1 - t)))).norm
      ≤ b.originVel.norm * (t * (1 - t) ^ 2) + b.destinationVel.norm * (t ^ 2 * (1 - t)) := by
        refine (Vec3.norm_add_le _ _).trans_eq ?_
        rw [Vec3.norm_mul, Vec3.norm_mul, abs_neg, abs_of_nonneg hweight, abs_of_nonneg hweight']
    _ ≤ b.originVel.norm * (4 / 27) + b.destinationVel.norm * (4 / 27) :=
        add_le_add (mul_le_mul_of_nonneg_left (mul_one_sub_sq_le h') (Vec3.norm_nonneg _))
          (mul_le_mul_of_nonneg_left (sq_mul_one_sub_le h) (Vec3.norm_nonneg _))
    _ = 4 / 27 * b.speedSum := by
        rw [Boundary.speedSum]
        ring

end HermiteCurve

namespace Boundary

variable (b : Boundary ℝ)

theorem speedLimit_real : b.speedLimit = 4 * (b.destination - b.origin).norm := by
  rw [speedLimit, mul_comm]
  norm_num

theorem scale_le_one : b.scale ≤ 1 := by
  unfold scale shrinkFactor
  split_ifs with hlong hpos
  · exact (div_le_one hpos.pos).mpr hlong.le
  · norm_num
  · exact le_rfl

theorem scale_of_short (h : b.speedSum ≤ b.speedLimit) : b.scale = 1 := if_neg h.not_gt

theorem speedSum_scaled : b.scaled.speedSum = b.speedSum * b.scale := by
  rw [speedSum, scaled_originVel, scaled_destinationVel, Vec3.norm_mul, Vec3.norm_mul,
    abs_of_nonneg b.scale_nonneg, speedSum, add_mul]

theorem speedSum_scaled_le : b.scaled.speedSum ≤ b.speedLimit := by
  rw [speedSum_scaled]
  by_cases hlong : b.speedLimit < b.speedSum
  · rw [scale, if_pos hlong, shrinkFactor]
    split_ifs with hpos
    · exact (mul_div_cancel₀ _ hpos.pos.ne').le
    · rw [zero_literal, mul_zero]
      exact b.speedLimit_nonneg
  · rw [b.scale_of_short (not_lt.mp hlong), mul_one]
    exact not_lt.mp hlong

/-- The curve of a spline runs from its origin to its destination, and has the velocities asked for
there, shortened by one factor if together they are longer than four chords. It stays within 16/27
of the chord's length of a point that moves along the chord. -/
theorem curve_near_chord (b : Boundary ℝ) :
    let c := HermiteCurve.solve b.scaled
    let chord := b.destination - b.origin
    c.position 0 = b.origin ∧ c.position 1 = b.destination ∧
      (∃ s : ℝ, 0 ≤ s ∧ s ≤ 1 ∧
        (b.originVel.norm + b.destinationVel.norm ≤ 4 * chord.norm → s = 1) ∧
        c.velocity 0 = b.originVel * s ∧ c.velocity 1 = b.destinationVel * s) ∧
      ∀ t : ℝ, 0 ≤ t → t ≤ 1 →
        0 ≤ 3 * t ^ 2 - 2 * t ^ 3 ∧ 3 * t ^ 2 - 2 * t ^ 3 ≤ 1 ∧
          (c.position t - (b.origin + chord * (3 * t ^ 2 - 2 * t ^ 3))).norm ≤
            16 / 27 * chord.norm := by
  intro c chord
  refine ⟨?_, ?_, ⟨b.scale, b.scale_nonneg, b.scale_le_one, fun hshort ↦ ?_, ?_, ?_⟩,
    fun t h h' ↦ ?_⟩
  · rw [HermiteCurve.position_solve_zero, scaled_origin]
  · rw [HermiteCurve.position_solve_one, scaled_destination]
  · exact b.scale_of_short (b.speedLimit_real ▸ hshort)
  · rw [HermiteCurve.velocity_solve_zero, scaled_originVel]
  · rw [HermiteCurve.velocity_solve_one, scaled_destinationVel]
  · obtain ⟨hlow, hhigh⟩ := smoothstep_mem h h'
    have hswing := HermiteCurve.norm_position_solve_sub_le b.scaled h h'
    rw [scaled_chord, scaled_origin] at hswing
    refine ⟨hlow, hhigh, hswing.trans ?_⟩
    have hsum := b.speedSum_scaled_le
    rw [speedLimit_real] at hsum
    linarith

theorem curve_near_chord_sideways :
    let b : Boundary ℝ := ⟨.zero, ⟨100, 0, 0⟩, ⟨0, 1000, 0⟩, ⟨0, -1000, 0⟩⟩
    let c := HermiteCurve.solve b.scaled
    (0 : ℝ) ≤ 1 / 3 ∧ (1 / 3 : ℝ) ≤ 1 ∧
      (c.position (1 / 3) -
        (b.origin + (b.destination - b.origin) * (3 * (1 / 3) ^ 2 - 2 * (1 / 3) ^ 3 : ℝ))).norm ≤
        16 / 27 * 100 := by
  intro b c
  have hthird : (0 : ℝ) ≤ 1 / 3 := by norm_num
  have hthird' : (1 / 3 : ℝ) ≤ 1 := by norm_num
  obtain ⟨-, -, -, hnear⟩ := b.curve_near_chord
  obtain ⟨-, -, hswing⟩ := hnear (1 / 3) hthird hthird'
  have hchord : b.destination - b.origin = ⟨100, 0, 0⟩ := Vec3.sub_zero _
  have hlength : (b.destination - b.origin).norm = 100 := by
    rw [hchord, Vec3.norm_north (by norm_num)]
  rw [hlength] at hswing
  exact ⟨hthird, hthird', hswing⟩

/-- The bound is met by a curve that leaves its origin along the chord and stops at its
destination. -/
theorem curve_swing_attained (hlength : b.originVel = (b.destination - b.origin) * (4 : ℝ))
    (hstop : b.destinationVel = .zero) :
    ((HermiteCurve.solve b.scaled).position (1 / 3) -
        (b.origin + (b.destination - b.origin) * (3 * (1 / 3) ^ 2 - 2 * (1 / 3) ^ 3 : ℝ))).norm =
      16 / 27 * (b.destination - b.origin).norm := by
  have hzero : (Vec3.zero : Vec3 ℝ).norm = 0 := by simp [Vec3.norm_real, Vec3.dot_real]
  have hshort : b.speedSum ≤ b.speedLimit := by
    rw [speedLimit_real, speedSum, hlength, hstop, hzero, Vec3.norm_mul, abs_of_pos (by norm_num),
      add_zero, mul_comm]
  have hkept : b.scaled = b := if_neg hshort.not_gt
  have hswing : (b.destination - b.origin) * (4 : ℝ) * (1 / 3 * (1 - 1 / 3) ^ 2 : ℝ) +
      (Vec3.zero : Vec3 ℝ) * (-((1 / 3) ^ 2 * (1 - 1 / 3)) : ℝ) =
        (b.destination - b.origin) * (16 / 27 : ℝ) := by
    ext <;> norm_num <;> ring
  rw [hkept, HermiteCurve.position_solve_sub, hlength, hstop, hswing, Vec3.norm_mul,
    abs_of_pos (by norm_num), mul_comm]

end Boundary

end WaypointFlight
