import WaypointFlight.Proofs.RealVectors
import WaypointFlight.Proofs.Rounding
import WaypointFlight.Simulation.Basic

namespace WaypointFlight

open Scalar

namespace TrackLimits

theorem project_nonneg {partXY partZ still limitXY limitZ : ℝ} (hxy : 0 ≤ partXY) (hz : 0 ≤ partZ)
    (h : 0 ≤ still) (hl : 0 ≤ limitXY) (hl' : 0 ≤ limitZ) :
    0 ≤ project partXY partZ still limitXY limitZ := by
  unfold project
  split_ifs
  · exact h
  · exact div_nonneg hl hxy
  · exact div_nonneg hl' hz
  · rw [minNum_real]
    exact le_min (div_nonneg hl' hz) (div_nonneg hl hxy)

variable (u : Vec3 ℝ) (l : AxisLimits ℝ)

theorem along_speed_nonneg (hxy : 0 ≤ l.speedXY) (hup : 0 ≤ l.speedUp) (hdown : 0 ≤ l.speedDown) :
    0 ≤ (along u l).speed := by
  have hv : 0 ≤ (l.vertical u.up).1 := by
    unfold AxisLimits.vertical
    split_ifs
    · exact hup
    · exact hdown
  exact project_nonneg (Real.sqrt_nonneg _) (abs_nonneg _) (by norm_num) hxy hv

theorem along_north :
    along ⟨1, 0, 0⟩ l =
      ⟨l.accelXY, l.speedXY, max l.leashXY Leash.shortest,
        Leash.slowDownDistance l.speedXY l.accelXY⟩ := by
  norm_num [along, project, isZero_real]

theorem along_up_leash : (along ⟨0, 0, 1⟩ l).leash = max l.leashUp Leash.shortest := by
  norm_num [along, project, isZero_real, AxisLimits.vertical]

theorem shortest_le_along_leash : Leash.shortest ≤ (along u l).leash := by
  simp only [along, maxNum_real]
  exact le_max_right _ _

end TrackLimits

theorem Governor.step_nonneg {current requested accel dt speed : ℝ} (hc : 0 ≤ current)
    (hr : 0 ≤ requested) (ha : 0 ≤ accel * dt)
    (h : Governor.step current requested accel dt = some speed) : 0 ≤ speed := by
  unfold Governor.step at h
  split_ifs at h with heq hlt
  · rw [Option.some.injEq, minNum_real] at h
    rw [← h]
    exact le_min (add_nonneg hc ha) hr
  · rw [Option.some.injEq, maxNum_real] at h
    rw [← h]
    exact le_max_of_le_right hr

namespace PositionController

theorem not_differs_self (x : ℝ) : ¬ Differs x x := by norm_num [Differs]

variable (c : PositionController ℝ)

theorem limitSpeedXY_self : c.limitSpeedXY c.speedXY = c := if_neg (not_differs_self _)

theorem limitAccelXY_self : c.limitAccelXY c.accelXY = c := if_neg (not_differs_self _)

theorem limitAccelZ_self : c.limitAccelZ c.accelZ = c := if_neg (not_differs_self _)

theorem limitSpeedZ_self (h : c.speedDown ≤ 0) : c.limitSpeedZ c.speedDown c.speedUp = c := by
  have hd : -Scalar.abs c.speedDown = c.speedDown := by
    rw [abs_real, abs_of_nonpos h, neg_neg]
  refine if_neg ?_
  rw [hd]
  exact not_or_intro (not_differs_self _) (not_differs_self _)

variable {c}

theorem startedController_eq {p : Params ℝ} (hrest : c.reset.setVelocityXY .zero = c)
    (hspeed : c.speedXY = p.speed) (haccel : c.accelXY = p.accel)
    (hdown : c.speedDown = -p.speedDown) (hneg : c.speedDown ≤ 0) (hup : c.speedUp = p.speedUp)
    (haccelZ : c.accelZ = p.accelZ) (hleash : c.refreshLeashXY.refreshLeashZ = c) :
    Autopilot.startedController c p = c := by
  rw [Autopilot.startedController, hrest, ← hspeed, limitSpeedXY_self, ← haccel, limitAccelXY_self,
    ← hdown, ← hup, limitSpeedZ_self c hneg, ← haccelZ, limitAccelZ_self, hleash]

end PositionController

namespace Params

theorem lt_leanAccel : 100 < (leanAccel 3000.0 : ℝ) := by
  have ht : Real.tan (3000.0 * 0.01 * (Real.pi / 180)) = 1 / Real.sqrt 3 := by
    rw [← Real.tan_pi_div_six]
    congr 1
    norm_num
    ring
  have hpos : (0 : ℝ) < Real.sqrt 3 := by positivity
  have hlt : Real.sqrt 3 < 2 := by
    rw [Real.sqrt_lt' (by norm_num)]
    norm_num
  show 100 < 9.80665 * 100.0 * Real.tan (3000.0 * 0.01 * (Real.pi / 180))
  rw [ht, mul_one_div, lt_div_iff₀ hpos]
  linarith

theorem within_standard : (standard : Params ℝ).within 3000.0 = standard := by
  have h : ¬ Params.ExceedsLean (standard : Params ℝ) 3000.0 := by
    rw [exceedsLean_iff, not_lt]
    exact le_trans (by norm_num [standard]) lt_leanAccel.le
  rw [within, if_neg h]
  norm_num [standard, smallestRadius]

end Params

namespace Simulation

def standard {α : Type} [Analytic α] : Simulation α := .create .standard .standard .zero

theorem milliseconds_eq {period : ℝ} {n : ℕ} (h : |period * 1000 - n| < 1 / 2)
    (hn : WordRange.unsigned64.Contains n) : milliseconds period = n := by
  have hthousand : (1000.0 : ℝ) = 1000 := by norm_num
  have hround : |period * 1000.0 - ((n : ℤ) : ℝ)| < 1 / 2 := by
    rw [hthousand]
    exact_mod_cast h
  rw [milliseconds, toWord_round hround hn, Int.toNat_natCast]

theorem milliseconds_standard : milliseconds (0.01 : ℝ) = 10 :=
  milliseconds_eq (by norm_num) (by decide)

end Simulation

namespace Autopilot

variable (period : ℝ)

theorem repairAccel_create :
    (Simulation.create { SimParams.standard with period } .standard .zero).autopilot.repairAccel =
      (Simulation.create { SimParams.standard with period } .standard .zero).autopilot := by
  refine if_neg ?_
  show ¬ ((Params.standard : Params ℝ).within 3000.0).accel ≤ 0.0
  rw [Params.within_standard]
  norm_num [Params.standard]

/-- The autopilot of a new simulation, standard but for its period, is as a start leaves it. -/
theorem start_create :
    (Simulation.create { SimParams.standard with period } .standard .zero).autopilot.start.state =
      (Simulation.create { SimParams.standard with period } .standard .zero).autopilot := by
  have hneg : (PositionController.create period 1.0 1.0 .zero).speedDown ≤ 0 := by
    norm_num [PositionController.create, PositionController.refreshLeashXY,
      PositionController.refreshLeashZ]
  have hc : startedController (.create period 1.0 1.0 .zero) (.standard : Params ℝ) =
      .create period 1.0 1.0 .zero :=
    PositionController.startedController_eq rfl rfl rfl rfl hneg rfl rfl rfl
  rw [start, repairAccel_create]
  simp only [Outcome.done, Simulation.create, Navigator.create, SimParams.standard,
    Params.within_standard, hc]

theorem repairAccel_standard :
    (Simulation.standard : Simulation ℝ).autopilot.repairAccel = Simulation.standard.autopilot :=
  repairAccel_create 0.01

theorem start_standard :
    (Simulation.standard : Simulation ℝ).autopilot.start.state =
      Simulation.standard.autopilot :=
  start_create 0.01

end Autopilot

end WaypointFlight
