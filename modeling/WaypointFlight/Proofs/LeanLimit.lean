import WaypointFlight.Proofs.SplineRamp

namespace WaypointFlight

open Scalar

namespace Params

theorem within_accel (p : Params ℝ) (lean : ℝ) :
    (p.within lean).accel = min p.accel (leanAccel lean) := by
  rw [min_comm, min_def_lt]
  rfl

theorem standardAccel_real : (standardAccel : ℝ) = 100 := by norm_num [standardAccel]

theorem leanAccel_lt : (leanAccel 3000.0 : ℝ) < 1000 := by
  have hangle : (3000.0 : ℝ) * 0.01 * (Real.pi / 180) = Real.pi / 6 := by
    norm_num
    ring
  have hsqrt : 1 ≤ Real.sqrt 3 := Real.one_le_sqrt.mpr (by norm_num)
  have hle : 1 / Real.sqrt 3 ≤ 1 := (div_le_one (by linarith)).mpr hsqrt
  show 9.80665 * 100.0 * Real.tan (3000.0 * 0.01 * (Real.pi / 180)) < 1000
  rw [hangle, Real.tan_pi_div_six]
  linarith

/-- Five degrees of lean allow less than the standard acceleration. -/
theorem leanAccel_slight : 0 < (leanAccel 500 : ℝ) ∧ (leanAccel 500 : ℝ) < 100 := by
  have hangle : (500 : ℝ) * 0.01 * (Real.pi / 180) = Real.pi / 36 := by
    norm_num
    ring
  have hpos : 0 < Real.pi / 36 := by positivity
  have hsmall : Real.pi / 36 < 0.09 := by
    have hpi := Real.pi_lt_d2
    norm_num at hpi ⊢
    linarith
  have hcos : 0.99 < Real.cos (Real.pi / 36) := by
    refine lt_of_lt_of_le ?_ Real.one_sub_sq_div_two_le_cos
    nlinarith
  have htan : 0 < Real.tan (Real.pi / 36) :=
    Real.tan_pos_of_pos_of_lt_pi_div_two hpos (by linarith)
  have htan' : Real.tan (Real.pi / 36) < 0.1 := by
    have hsin := Real.sin_lt hpos
    rw [Real.tan_eq_sin_div_cos, div_lt_iff₀ (by linarith)]
    linarith
  show 0 < 9.80665 * 100.0 * Real.tan (500 * 0.01 * (Real.pi / 180)) ∧
    9.80665 * 100.0 * Real.tan (500 * 0.01 * (Real.pi / 180)) < 100
  rw [hangle]
  constructor <;> linarith

end Params

namespace Autopilot

section Pushes

variable {α : Type} [Analytic α]

theorem startedController_accelXY (c : PositionController α) (p : Params α) :
    (startedController c p).accelXY = (c.limitAccelXY p.accel).accelXY := by
  simp only [startedController, PositionController.limitSpeedXY_eq,
    PositionController.limitAccelXY_eq, PositionController.limitSpeedZ_eq,
    PositionController.limitAccelZ_eq]
  rfl

theorem start_accelXY (a : Autopilot α) :
    a.start.state.controller.accelXY =
      (a.controller.limitAccelXY a.start.state.navigator.params.accel).accelXY := by
  show (startedController a.repairAccel.controller a.repairAccel.navigator.params).accelXY = _
  rw [startedController_accelXY, repairAccel_controller]
  rfl

theorem prepared_accelXY (a : Autopilot α) :
    a.prepared.controller.accelXY =
      (a.controller.limitAccelXY a.navigator.params.accel).accelXY := by
  have hpush : a.pushAccels.controller.accelXY =
      (a.controller.limitAccelXY a.navigator.params.accel).accelXY := by
    simp only [pushAccels, PositionController.limitAccelZ_eq]
  rw [prepared, ← hpush]
  cases a.pushAccels.governedSpeed a.controller.period with
  | none => rfl
  | some speed => simp only [govern, PositionController.limitSpeedXY_eq]

theorem tickStraight_accelXY (a : Autopilot α) (r : Readings α) :
    (a.tickStraight r).state.controller.accelXY =
      (a.controller.limitAccelXY a.navigator.params.accel).accelXY := by
  obtain ⟨_, _, h⟩ := a.tickStraight_controller r
  rw [h, ← prepared_accelXY]
  simp only [PositionController.update, PositionController.refreshStale_eq]

end Pushes

variable {a b : Autopilot ℝ} {e : Event ℝ}

theorem repairAccel_of_pos (h : 0 < a.navigator.params.accel) : a.repairAccel = a := by
  refine if_neg ?_
  rwa [zero_literal, not_le]

/-- An acceleration that can be flown needs no repair, and nothing else writes a parameter. -/
theorem params_effect (heff : e.Effect a b) (h : 0 < a.navigator.params.accel) :
    b.navigator.params = a.navigator.params := by
  have hrepair : a.repairAccel.navigator.params = a.navigator.params := by
    rw [repairAccel_of_pos h]
  cases heff with
  | spline => exact hrepair
  | start => exact hrepair
  | shift r =>
    unfold shiftToVehicle
    split_ifs <;> rfl
  | tickStraight r => exact a.tickStraight_params r
  | tickSpline r =>
    obtain ⟨_, _, _, _, _, _, _, _, _, _, hn, -⟩ := (a.splineTick r).navigator_eq
    rw [hn]
  | _ => rfl

theorem params_after (h : 0 < a.navigator.params.accel) (es : List (Event ℝ)) :
    (a.after es).navigator.params = a.navigator.params := by
  induction es generalizing a with
  | nil => rfl
  | cons e es ih =>
    have he : (e.apply a).navigator.params = a.navigator.params := params_effect (e.effect a) h
    rw [after_cons, ih (he ▸ h), he]

theorem start_accel (p : Params ℝ) {lean : ℝ} (hlean : 0 < Params.leanAccel lean)
    (c : PositionController ℝ) (saved : List (String × ℝ)) :
    (start ⟨.create p lean, c, saved⟩).state.navigator.params.accel =
      if 0 < p.accel then min p.accel (Params.leanAccel lean) else 100 := by
  show (repairAccel ⟨.create p lean, c, saved⟩).navigator.params.accel = _
  have hcreated : (⟨.create p lean, c, saved⟩ : Autopilot ℝ).navigator.params.accel =
      min p.accel (Params.leanAccel lean) := p.within_accel lean
  split_ifs with hp
  · have hpos : 0 < (⟨.create p lean, c, saved⟩ : Autopilot ℝ).navigator.params.accel := by
      rw [hcreated]
      exact lt_min hp hlean
    rw [repairAccel_of_pos hpos, hcreated]
  · have hbad : (⟨.create p lean, c, saved⟩ : Autopilot ℝ).navigator.params.accel ≤ 0.0 := by
      rw [hcreated, zero_literal]
      exact (min_le_left _ _).trans (not_lt.mp hp)
    rw [repairAccel, if_pos hbad, ← Params.standardAccel_real]

/-- The acceleration in every state after a start is the configured one under the limit of the lean
angle, or the standard one where that cannot be flown. Starts and ticks on straight segments push no
other. It is positive and within the limit exactly if the configured one is positive, or the limit
leaves room for the standard one. -/
theorem lean_limit_iff (p : Params ℝ) {lean : ℝ} (hlean : 0 < Params.leanAccel lean)
    (c : PositionController ℝ) (saved : List (String × ℝ)) (es : List (Event ℝ)) :
    let new : Autopilot ℝ := ⟨.create p lean, c, saved⟩
    let a := new.start.state.after es
    let accel := a.navigator.params.accel
    accel = (if 0 < p.accel then min p.accel (Params.leanAccel lean) else 100) ∧
      new.start.state.controller.accelXY = (c.limitAccelXY accel).accelXY ∧
      a.start.state.controller.accelXY = (a.controller.limitAccelXY accel).accelXY ∧
      (∀ r, (a.tickStraight r).state.controller.accelXY =
        (a.controller.limitAccelXY accel).accelXY) ∧
      (0 < accel ∧ accel ≤ Params.leanAccel lean ↔
        0 < p.accel ∨ 100 ≤ Params.leanAccel lean) := by
  intro new a accel
  have hnew : 0 < new.start.state.navigator.params.accel := new.repairAccel_pos
  have hparams : a.navigator.params = new.start.state.navigator.params := params_after hnew es
  have hpos : 0 < accel := lt_of_lt_of_eq hnew (congrArg Params.accel hparams).symm
  have haccel : accel = if 0 < p.accel then min p.accel (Params.leanAccel lean) else 100 :=
    (congrArg Params.accel hparams).trans (start_accel p hlean c saved)
  have hagain : a.start.state.navigator.params = a.navigator.params :=
    params_effect (.start Simulation.standard.readings) hpos
  refine ⟨haccel, ?_, ?_, a.tickStraight_accelXY, ?_⟩
  · rw [new.start_accelXY, ← hparams]
  · rw [a.start_accelXY, hagain]
  · rw [and_iff_right hpos, haccel]
    split_ifs with hp
    · exact iff_of_true (min_le_right _ _) (.inl hp)
    · exact (or_iff_right hp).symm

theorem lean_limit_iff_steep :
    let p : Params ℝ := { Params.standard with accel := 1000 }
    let c : PositionController ℝ := Simulation.standard.autopilot.controller
    let r : Readings ℝ := Simulation.standard.readings
    let es : List (Event ℝ) :=
      [.call (.straightTo ⟨1000, 0, 0⟩ false) r, .call .tickStraight r, .call .start r]
    let a := (start ⟨.create p 3000.0, c, []⟩).state.after es
    0 < (Params.leanAccel 3000.0 : ℝ) ∧
      a.navigator.params.accel = Params.leanAccel 3000.0 ∧
      (a.tickStraight r).state.controller.accelXY =
        (a.controller.limitAccelXY (Params.leanAccel 3000.0)).accelXY := by
  intro p c r es a
  have hlean : 0 < (Params.leanAccel 3000.0 : ℝ) := lt_trans (by norm_num) Params.lt_leanAccel
  have hp : 0 < p.accel := by norm_num [p]
  obtain ⟨haccel, -, -, htick, -⟩ := lean_limit_iff p hlean c [] es
  rw [if_pos hp, min_eq_right Params.leanAccel_lt.le] at haccel
  refine ⟨hlean, haccel, ?_⟩
  rw [htick r, haccel]

/-- The standard acceleration comes in for one of zero, and no lean of five degrees gives as
much. -/
theorem lean_limit_exceeded :
    let p : Params ℝ := { Params.standard with accel := 0 }
    let a := (start ⟨.create p 500, Simulation.standard.autopilot.controller, []⟩).state
    0 < (Params.leanAccel 500 : ℝ) ∧
      ¬ a.navigator.params.accel ≤ Params.leanAccel 500 ∧
      ¬ a.controller.accelXY ≤ Params.leanAccel 500 := by
  intro p a
  obtain ⟨hpos, hlt⟩ := Params.leanAccel_slight
  have haccel : a.navigator.params.accel = 100 :=
    (start_accel p hpos _ _).trans (if_neg (lt_irrefl 0))
  have hcontroller : a.controller.accelXY = 100 := by
    have hbefore : (Simulation.standard : Simulation ℝ).autopilot.controller.accelXY = 100 := by
      show (100.0 : ℝ) = 100
      norm_num
    rw [start_accelXY, haccel, ← hbefore, PositionController.limitAccelXY_self]
  rw [haccel, hcontroller, not_le]
  exact ⟨hpos, hlt, hlt⟩

end Autopilot

end WaypointFlight
