import WaypointFlight.Proofs.ItemArrival

namespace WaypointFlight

open Scalar

theorem Vec2.norm_mul (v : Vec2 ℝ) (s : ℝ) : (v * s).norm = v.norm * |s| := by
  have hsquares : v.north * s * (v.north * s) + v.east * s * (v.east * s) =
      (v.north * v.north + v.east * v.east) * (s * s) := by ring
  have hnonneg : 0 ≤ v.north * v.north + v.east * v.east :=
    add_nonneg (mul_self_nonneg _) (mul_self_nonneg _)
  calc
    (v * s).norm = √((v.north * v.north + v.east * v.east) * (s * s)) := congrArg _ hsquares
    _ = v.norm * |s| := by
      rw [Real.sqrt_mul hnonneg, Real.sqrt_mul_self_eq_abs]
      rfl

theorem exists_part_of_clamp {lo hi : ℝ} (hlo : lo ≤ 0) (hhi : 0 ≤ hi) (x : ℝ) :
    ∃ k, 0 ≤ k ∧ k ≤ 1 ∧ min (max x lo) hi = k * x := by
  have hbetween : min (max x lo) hi ∈ Set.uIcc 0 x := by
    rcases le_total 0 x with hx | hx
    · rw [Set.uIcc_of_le hx, max_eq_left (hlo.trans hx)]
      exact ⟨le_min hx hhi, min_le_left _ _⟩
    · rw [Set.uIcc_of_ge hx, min_eq_left ((max_le hx hlo).trans hhi)]
      exact ⟨le_max_left _ _, max_le hx hlo⟩
  rw [← segment_eq_uIcc, segment_eq_image'] at hbetween
  obtain ⟨k, ⟨hk, hk'⟩, hpart⟩ := hbetween
  exact ⟨k, hk, hk', by simpa using hpart.symm⟩

namespace PositionController

/-- A controller that answers no error with more than the error in one period, and that may stand
still. -/
structure Damped (c : PositionController ℝ) : Prop where
  period : 0 ≤ c.period
  gainXY : 0 ≤ c.gainXY * c.period
  answerXY : c.gainXY * c.period ≤ 1
  gainZ : 0 ≤ c.gainZ * c.period
  answerZ : c.gainZ * c.period ≤ 1
  speedXY : 0 ≤ c.speedXY
  speedDown : c.speedDown ≤ 0
  speedUp : 0 ≤ c.speedUp

variable {c : PositionController ℝ}

theorem saturated_norm_le (h : 0 ≤ c.speedXY) (v : Vec2 ℝ) : (c.saturated v).norm ≤ c.speedXY := by
  unfold saturated
  rw [zero_literal]
  split_ifs with hfast
  · rw [Vec2.norm_mul, abs_of_nonneg (div_nonneg h hfast.2.le), mul_div_cancel₀ _ hfast.2.ne']
  · by_contra hlong
    rw [not_le] at hlong
    exact hfast ⟨hlong, h.trans_lt hlong⟩

variable (error : Vec3 ℝ)

theorem demand_up : (c.demand error).up = min (max (error.up * c.gainZ) c.speedDown) c.speedUp := by
  rw [demand, maxNum_real, minNum_real]

theorem demand_norm_le (h : 0 ≤ c.speedXY) : (c.demand error).horizontal.norm ≤ c.speedXY :=
  saturated_norm_le h _

theorem demand_up_mem (hdown : c.speedDown ≤ 0) (hup : 0 ≤ c.speedUp) :
    (c.demand error).up ∈ Set.Icc c.speedDown c.speedUp := by
  rw [demand_up]
  exact ⟨le_min (le_max_right _ _) (hdown.trans hup), min_le_right _ _⟩

theorem demand_up_toward (h : c.Damped) :
    ∃ k, 0 ≤ k ∧ k ≤ 1 ∧ (c.demand error).up * c.period = k * error.up := by
  obtain ⟨k, hk, hk', hpart⟩ := exists_part_of_clamp h.speedDown h.speedUp (error.up * c.gainZ)
  refine ⟨k * (c.gainZ * c.period), mul_nonneg hk h.gainZ, mul_le_one₀ hk' h.gainZ h.answerZ, ?_⟩
  rw [demand_up, hpart]
  ring

end PositionController

namespace Simulation

section Steps

variable {α : Type} [Analytic α] (s : Simulation α)

def updated : Simulation α := { s with autopilot.controller := s.autopilot.controller.update }

/-- A step fails only where the clock ends. -/
theorem exists_step_iff :
    (∃ w, s.step = .ok w) ↔
      WordRange.unsigned64.Contains (s.now + milliseconds s.autopilot.controller.period) := by
  unfold step wait
  split_ifs with h
  · exact iff_of_true ⟨_, rfl⟩ h
  · exact iff_of_false (fun ⟨_, hw⟩ ↦ by cases hw) h

end Steps

variable {s w : Simulation ℝ}

theorem updated_step_position
    (hseen : s.autopilot.controller.vehiclePosition = s.position)
    (hc : s.autopilot.controller.Damped) (hw : s.updated.step = .ok w) :
    let error := s.autopilot.controller.positionTarget - s.position
    ∃ k l, 0 ≤ k ∧ k ≤ 1 ∧ 0 ≤ l ∧ l ≤ 1 ∧
      w.position = s.position + ⟨k * error.north, k * error.east, l * error.up⟩ := by
  intro error
  obtain ⟨now, rfl⟩ := step_ok hw
  have herror : error =
      s.autopilot.controller.positionTarget - s.autopilot.controller.vehiclePosition := by
    rw [hseen]
  have hvelocity : s.updated.autopilot.controller.velocityTarget =
      s.autopilot.controller.demand error := by
    rw [herror]
    exact s.autopilot.controller.update_velocityTarget
  have hmove : s.updated.move.position = s.position +
      s.autopilot.controller.demand error * s.autopilot.controller.period := by
    rw [← hvelocity, ← PositionController.update_period]
    rfl
  obtain ⟨k, hk, hk', hnorth, heast⟩ :=
    PositionController.demand_toward hc.speedXY hc.gainXY hc.answerXY error
  obtain ⟨l, hl, hl', hup⟩ := PositionController.demand_up_toward error hc
  refine ⟨k, l, hk, hk', hl, hl', ?_⟩
  rw [hmove, ← hnorth, ← heast, ← hup]
  rfl

/-- The law of the simulated controller. The velocity that it demands is within its limits, and a
step at this velocity takes the vehicle along the way to the target, on the ground and in height. -/
theorem damped_step (hseen : s.autopilot.controller.vehiclePosition = s.position)
    (hc : s.autopilot.controller.Damped) :
    let c := s.autopilot.controller
    let velocity := s.updated.autopilot.controller.velocityTarget
    let target := c.positionTarget
    velocity.horizontal.norm ≤ c.speedXY ∧ velocity.up ∈ Set.Icc c.speedDown c.speedUp ∧
      ((∃ w, s.updated.step = .ok w) ↔
        WordRange.unsigned64.Contains (s.now + milliseconds c.period)) ∧
      ∀ w, s.updated.step = .ok w →
        (w.position.north, w.position.east) ∈
            segment ℝ (s.position.north, s.position.east) (target.north, target.east) ∧
          w.position.up ∈ Set.uIcc s.position.up target.up ∧
          (target - w.position).horizontal.norm ≤ (target - s.position).horizontal.norm ∧
          |target.up - w.position.up| ≤ |target.up - s.position.up| := by
  intro c velocity target
  have hvelocity : velocity = c.demand (target - c.vehiclePosition) := c.update_velocityTarget
  have hclock := s.updated.exists_step_iff
  have hperiod : s.updated.autopilot.controller.period = c.period := c.update_period
  rw [hperiod] at hclock
  refine ⟨hvelocity ▸ PositionController.demand_norm_le _ hc.speedXY,
    hvelocity ▸ PositionController.demand_up_mem _ hc.speedDown hc.speedUp, hclock, fun w hw ↦ ?_⟩
  obtain ⟨k, l, hk, hk', hl, hl', hposition⟩ := updated_step_position hseen hc hw
  have hleft : target - w.position =
      ⟨(target.north - s.position.north) * (1 - k), (target.east - s.position.east) * (1 - k),
        (target.up - s.position.up) * (1 - l)⟩ := by
    rw [hposition]
    ext
    · simp only [Vec3.sub_north, Vec3.add_north]
      ring
    · simp only [Vec3.sub_east, Vec3.add_east]
      ring
    · simp only [Vec3.sub_up, Vec3.add_up]
      ring
  refine ⟨?_, ?_, ?_, ?_⟩
  · rw [segment_eq_image', hposition]
    exact ⟨k, ⟨hk, hk'⟩, rfl⟩
  · rw [← segment_eq_uIcc, segment_eq_image', hposition]
    exact ⟨l, ⟨hl, hl'⟩, rfl⟩
  · have hshrunk : (target - w.position).horizontal = (target - s.position).horizontal * (1 - k) :=
      congrArg Vec3.horizontal hleft
    rw [hshrunk, Vec2.norm_mul, abs_of_nonneg (sub_nonneg.mpr hk')]
    exact mul_le_of_le_one_right (Real.sqrt_nonneg _) (sub_le_self 1 hk)
  · have hshrunk : target.up - w.position.up = (target.up - s.position.up) * (1 - l) :=
      congrArg Vec3.up hleft
    rw [hshrunk, abs_mul, abs_of_nonneg (sub_nonneg.mpr hl')]
    exact mul_le_of_le_one_right (abs_nonneg _) (sub_le_self 1 hl)

noncomputable def farBelow : Simulation ℝ :=
  { standard with autopilot.controller.positionTarget := ⟨3000.0, 4000.0, -2000.0⟩ }

theorem damped_farBelow : farBelow.autopilot.controller.Damped := by
  have hperiod : farBelow.autopilot.controller.period = 0.01 := rfl
  have hgainXY : farBelow.autopilot.controller.gainXY = 1.0 := rfl
  have hgainZ : farBelow.autopilot.controller.gainZ = 1.0 := rfl
  have hspeedXY : farBelow.autopilot.controller.speedXY = 500.0 := rfl
  have hspeedDown : farBelow.autopilot.controller.speedDown = -150.0 := rfl
  have hspeedUp : farBelow.autopilot.controller.speedUp = 250.0 := rfl
  constructor <;> norm_num [hperiod, hgainXY, hgainZ, hspeedXY, hspeedDown, hspeedUp]

/-- Both axes are at their limits, and still the way is straight to the point below. -/
theorem damped_step_farBelow :
    let velocity := farBelow.updated.autopilot.controller.velocityTarget
    farBelow.autopilot.controller.vehiclePosition = farBelow.position ∧
      farBelow.autopilot.controller.Damped ∧
      velocity.horizontal.norm ≤ 500 ∧ velocity.up ∈ Set.Icc (-150) 250 ∧
      ∃ w, farBelow.updated.step = .ok w ∧
        (w.position.north, w.position.east) ∈ segment ℝ ((0 : ℝ), (0 : ℝ)) (3000, 4000) ∧
        w.position.up ∈ Set.uIcc 0 (-2000) := by
  intro velocity
  obtain ⟨hspeed, hclimb, hclock, htoward⟩ := damped_step (s := farBelow) rfl damped_farBelow
  have hspeedXY : farBelow.autopilot.controller.speedXY = 500 := by
    have hliteral : farBelow.autopilot.controller.speedXY = 500.0 := rfl
    rw [hliteral]
    norm_num
  have hrange : Set.Icc farBelow.autopilot.controller.speedDown
      farBelow.autopilot.controller.speedUp = Set.Icc (-150) 250 := by
    have hliteral : Set.Icc farBelow.autopilot.controller.speedDown
        farBelow.autopilot.controller.speedUp = Set.Icc (-150.0) 250.0 := rfl
    rw [hliteral]
    norm_num
  have hfits : WordRange.unsigned64.Contains
      (farBelow.now + milliseconds farBelow.autopilot.controller.period) := by
    have hms : milliseconds farBelow.autopilot.controller.period = 10 := milliseconds_standard
    have hnow : farBelow.now = 1000 := rfl
    rw [hms, hnow]
    decide
  have hplace : farBelow.position = ⟨0, 0, 0⟩ := by
    have hzero : farBelow.position = .zero := rfl
    rw [hzero]
    ext <;> simp
  have htarget : farBelow.autopilot.controller.positionTarget = ⟨3000, 4000, -2000⟩ := by
    have hliteral : farBelow.autopilot.controller.positionTarget = ⟨3000.0, 4000.0, -2000.0⟩ := rfl
    rw [hliteral]
    ext <;> norm_num
  obtain ⟨w, hw⟩ := hclock.mpr hfits
  obtain ⟨hway, hheight, -, -⟩ := htoward w hw
  rw [hplace, htarget] at hway hheight
  exact ⟨rfl, damped_farBelow, hspeed.trans_eq hspeedXY, hrange ▸ hclimb, w, hw, hway, hheight⟩

end Simulation

end WaypointFlight
