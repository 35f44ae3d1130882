import WaypointFlight.Proofs.SplineProgress
import WaypointFlight.Proofs.StraightTarget

namespace WaypointFlight

open Scalar

namespace Autopilot

section Ramp

variable {α : Type} [Analytic α] (a : Autopilot α) (r : Readings α) (x : α)

/-- The target is within the slow-down distance of a stop. -/
def Slows : Prop :=
  ¬ a.navigator.flags.fast ∧
    (a.navigator.segment.destination - a.curvePosition).norm <
      a.turned.navigator.track.limits.slowDownDistance

instance : Decidable a.Slows := inferInstanceAs (Decidable (_ ∧ _))

/-- The speed that the law of slowing down has for the distance of the target. -/
def stoppingSpeed : α :=
  Leash.slowDownSpeed (a.navigator.segment.destination - a.curvePosition).norm
    a.navigator.params.accel

theorem flownSpeed_eq :
    a.flownSpeed r x =
      constrain
        (if a.Slows then a.stoppingSpeed
          else if a.navigator.spline.speed < a.flownLimit r x then
            a.navigator.spline.speed + a.navigator.params.accel * a.controller.period
          else a.navigator.spline.speed)
        0.0 (a.flownLimit r x) := by
  rw [flownSpeed, splineRampedSpeed, turned_navigator]
  rfl

end Ramp

variable {a b : Autopilot ℝ} {e : Event ℝ} {r : Readings ℝ} {x : ℝ}

theorem repairAccel_pos (a : Autopilot ℝ) : 0 < a.repairAccel.navigator.params.accel := by
  unfold repairAccel
  split_ifs with h
  · show (0 : ℝ) < 100.0
    norm_num
  · rwa [zero_literal, not_le] at h

theorem accel_pos_effect (heff : e.Effect a b) (h : 0 < a.navigator.params.accel) :
    0 < b.navigator.params.accel := by
  cases heff with
  | spline => exact a.repairAccel_pos
  | start => exact a.repairAccel_pos
  | shift r =>
    unfold shiftToVehicle
    split_ifs <;> exact h
  | tickStraight r => rwa [tickStraight_params]
  | tickSpline r =>
    obtain ⟨_, _, _, _, _, _, _, _, _, _, hn, -⟩ := (a.splineTick r).navigator_eq
    rwa [hn]
  | _ => exact h

theorem accel_pos_after (a : Autopilot ℝ) (es : List (Event ℝ)) :
    0 < (a.start.state.after es).navigator.params.accel :=
  (along_of_forall (Q := fun _ ↦ True) fun _ _ ↦ trivial).invariant
    (fun a e _ h ↦ accel_pos_effect (e.effect a) h) a.repairAccel_pos

theorem flownSpeed_of_slows (hp : Event.Paced a (.call .tickSpline r)) (h : a.Slows) (x : ℝ) :
    a.flownSpeed r x = min (a.flownLimit r x) a.stoppingSpeed := by
  have hlimit := flownLimit_nonneg hp x
  rw [flownSpeed_eq, if_pos h, zero_literal, constrain_eq hlimit]
  exact max_eq_right (le_min hlimit (Leash.slowDownSpeed_pos _ _).le)

theorem flownSpeed_of_not_slows (hp : Event.Paced a (.call .tickSpline r)) (h : ¬ a.Slows)
    (hs : 0 ≤ a.navigator.spline.speed) (ha : 0 ≤ a.navigator.params.accel) (x : ℝ) :
    a.flownSpeed r x ≤
      a.navigator.spline.speed + a.navigator.params.accel * a.controller.period := by
  have hgain : 0 ≤ a.navigator.params.accel * a.controller.period := mul_nonneg ha hp.1
  rw [flownSpeed_eq, if_neg h, zero_literal, constrain_eq (flownLimit_nonneg hp x)]
  refine max_le (add_nonneg hs hgain) ((min_le_right _ _).trans ?_)
  split_ifs
  · exact le_rfl
  · exact le_add_of_nonneg_right hgain

/-- When one tick gains more speed than the acceleration allows. The target is then within the
slow-down distance of a stop, and both the law of slowing down and the leash have a higher speed for
it. That law is a bound only for a target that comes at a higher speed: a slower one takes it on. -/
theorem spline_ramp_iff (p : Params ℝ) (lean : ℝ) (c : PositionController ℝ)
    (saved : List (String × ℝ)) (es : List (Event ℝ)) (r : Readings ℝ)
    (hpaced : Along (fun a e ↦ e.Paced a) (start ⟨.create p lean, c, saved⟩).state
      (es ++ [.call .tickSpline r])) :
    let a := (start ⟨.create p lean, c, saved⟩).state.after es
    let b := (a.tickSpline r).state
    let gained := a.navigator.spline.speed + a.navigator.params.accel * a.controller.period
    gained < b.navigator.spline.speed ↔
      ∃ x, a.Flies r x ∧ a.Slows ∧ gained < min (a.flownLimit r x) a.stoppingSpeed := by
  intro a b gained
  obtain ⟨hrun, htick, -⟩ := along_append.mp hpaced
  have haccel : 0 < a.navigator.params.accel := accel_pos_after _ es
  have hforward : Forward a := by
    refine forward_after ?_ hrun
    exact (forward_effect (.start r) trivial (forward_create p lean c saved)).1
  have hgain : 0 ≤ a.navigator.params.accel * a.controller.period :=
    mul_nonneg haccel.le htick.1
  constructor
  · intro hjump
    rcases a.tickSpline_spline_cases r with hsame | ⟨x, hx⟩
    · have hspeed : b.navigator.spline.speed = a.navigator.spline.speed := by rw [hsame]
      exact absurd hjump (by rw [hspeed, not_lt]; exact le_add_of_nonneg_right hgain)
    · have hspeed : b.navigator.spline.speed = a.flownSpeed r x := by rw [hx.spline]
      rw [hspeed] at hjump
      -- away from a stop the ramp is all that a tick gains
      by_cases hslows : a.Slows
      · rw [flownSpeed_of_slows htick hslows] at hjump
        exact ⟨x, hx, hslows, hjump⟩
      · have hle := flownSpeed_of_not_slows htick hslows hforward.speed haccel.le x
        exact absurd hjump (not_lt.mpr hle)
  · rintro ⟨x, hx, hslows, hjump⟩
    have hspeed : b.navigator.spline.speed = a.flownSpeed r x := by rw [hx.spline]
    rw [hspeed, flownSpeed_of_slows htick hslows]
    exact hjump

theorem hopped_velocity : hopped.curveVelocity = ⟨3.61, 0, 0⟩ := by
  have hperiod : (Simulation.standard : Simulation ℝ).autopilot.controller.period = 1 / 100 := by
    show (0.01 : ℝ) = 1 / 100
    norm_num
  have hrest : hopped.boundary.scaled.IsRest (1 / 100) := by
    have h : hopped.boundary.IsRest (1 / 100) := hperiod ▸ isRest_beginSpline rfl rfl
    have hlong : 1 ≤ (hopped.boundary.destination - hopped.boundary.origin).norm := by
      show 1 ≤ (shortHop.destination - shortHop.origin).norm
      rw [hopped_chord]
      norm_num
    have hs := h.scaled (by norm_num) hlong
    rwa [min_eq_left (by norm_num)] at hs
  rw [curveVelocity, hopped, beginSpline_time rfl]
  show (HermiteCurve.solve hopped.boundary.scaled).velocity 0 = _
  rw [HermiteCurve.velocity_solve_zero, hrest.origin, Boundary.scaled_chord]
  show (⟨361, 0, 0⟩ - .zero : Vec3 ℝ) * (1 / 100 : ℝ) = _
  rw [Vec3.sub_zero]
  ext <;> norm_num

theorem hopped_turned_controller : hopped.turned.controller = hopped.controller := by
  have h : hopped.governed = hopped := by
    apply governed_of_isEqual
    rw [hopped_controller]
    show |(Simulation.standard : Simulation ℝ).autopilot.repairAccel.navigator.requestedSpeed
      - 500.0| < _
    rw [repairAccel_standard]
    show |(500.0 : ℝ) - 500.0| < _
    norm_num [Scalar.tolerance]
  show hopped.governed.controller = hopped.controller
  rw [h]

theorem hopped_limits : hopped.turned.navigator.track.limits = ⟨100, 500, 1300, 625⟩ := by
  have hdirection : (⟨3.61, 0, 0⟩ : Vec3 ℝ) / (⟨3.61, 0, 0⟩ : Vec3 ℝ).norm = ⟨1, 0, 0⟩ := by
    rw [Vec3.norm_north (by norm_num)]
    ext <;> norm_num
  rw [turned_limits, hopped_velocity, hdirection, TrackLimits.along_north,
    hopped_turned_controller, PositionController.axisLimits, hopped_leashXY, hopped_speed,
    hopped_params]
  norm_num [Params.standard, Leash.shortest, Leash.slowDownDistance]

theorem hopped_distance :
    (hopped.navigator.segment.destination - hopped.curvePosition).norm = 361 := by
  rw [hopped_position]
  exact hopped_chord

theorem hopped_slows : hopped.Slows := by
  refine ⟨Bool.false_ne_true, ?_⟩
  rw [hopped_distance, hopped_limits]
  norm_num

theorem hopped_stoppingSpeed : hopped.stoppingSpeed = 380 := by
  have hsqrt : Real.sqrt (361 * 4 * 100) = 380 := by
    rw [show (361 * 4 * 100 : ℝ) = 380 * 380 by norm_num, Real.sqrt_mul_self (by norm_num)]
  rw [stoppingSpeed, hopped_distance, hopped_params]
  norm_num [Leash.slowDownSpeed, Leash.slowestApproach, Params.standard, hsqrt]

theorem hopped_slack : hopped.slackAt Simulation.standard.readings 0.0 = 1300 := by
  have herror : (hopped.targetSight Simulation.standard.readings 0.0).error = .zero := by
    show (⟨0.0 - hopped.curvePosition.north, 0.0 - hopped.curvePosition.east,
      0.0 - hopped.curvePosition.up - 0.0⟩ : Vec3 ℝ) = _
    rw [hopped_position]
    ext <;> simp
  have hup : hopped.controller.leashUp = 362.5 := by
    rw [hopped_controller]
    show Leash.length (250.0 : ℝ) 100.0 1.0 = 362.5
    norm_num [Leash.length, Leash.shortest]
  have hz : (hopped.targetSight Simulation.standard.readings 0.0).errorZ = 0 := by
    rw [Sight.errorZ, herror]
    simp
  have hxy : (hopped.targetSight Simulation.standard.readings 0.0).errorXY = 0 := by
    rw [Sight.errorXY, herror]
    simp
  rw [slackAt_eq, hopped_limits, hz, hxy, herror, hopped_leashXY, Vec3.zero_up,
    PositionController.leashZ, if_pos zero_literal.le, hup]
  norm_num [Leash.fractionLeft, isPositive_real]

theorem hopped_limit : hopped.flownLimit Simulation.standard.readings 0.0 = 500 := by
  rw [flownLimit, hopped_slack, splineSpeedLimit, hopped_turned_controller, hopped_speed,
    hopped_period]
  norm_num [isZero_real]

theorem hopped_flownSpeed : hopped.flownSpeed Simulation.standard.readings 0.0 = 380 := by
  rw [flownSpeed_of_slows (hopped_paced _) hopped_slows, hopped_limit, hopped_stoppingSpeed]
  norm_num

theorem hopped_gained :
    hopped.navigator.spline.speed + hopped.navigator.params.accel * hopped.controller.period =
      1 := by
  rw [hopped, beginSpline_speed rfl, ← hopped, hopped_params, hopped_period]
  norm_num [Params.standard]

theorem spline_ramp_iff_shortHop :
    let a := (Simulation.standard : Simulation ℝ).autopilot.start.state
    let es : List (Event ℝ) := [.call (.spline shortHop) Simulation.standard.readings]
    let tick : Event ℝ := .call .tickSpline Simulation.standard.readings
    let b := a.after es
    let b' := (b.tickSpline Simulation.standard.readings).state
    a.Along (fun a e ↦ e.Paced a) (es ++ [tick]) ∧ b.Slows ∧
      b.navigator.spline.speed + b.navigator.params.accel * b.controller.period <
        b'.navigator.spline.speed := by
  intro a es tick b b'
  have hb : b = hopped := after_shortHopping
  have hpaced : a.Along (fun a e ↦ e.Paced a) (es ++ [tick]) := by
    refine ⟨trivial, ?_, trivial⟩
    show Event.Paced b tick
    rw [hb]
    exact hopped_paced _
  refine ⟨hpaced, hb ▸ hopped_slows, ?_⟩
  refine (spline_ramp_iff _ _ _ _ es Simulation.standard.readings hpaced).mpr ⟨0.0, ?_⟩
  show b.Flies _ _ ∧ b.Slows ∧ b.navigator.spline.speed +
    b.navigator.params.accel * b.controller.period < min (b.flownLimit _ _) b.stoppingSpeed
  rw [hb, hopped_gained, hopped_limit, hopped_stoppingSpeed]
  exact ⟨hopped_flies, hopped_slows, by norm_num⟩

/-- The first tick takes the target from rest to almost four metres a second. -/
theorem spline_speed_jump :
    let a := (Simulation.standard : Simulation ℝ).autopilot.after shortHopping
    let b := (a.tickSpline Simulation.standard.readings).state
    a.navigator.segment.kind = .spline ∧ 0 < a.controller.period ∧
      a.navigator.spline.speed = 0 ∧ a.navigator.params.accel * a.controller.period = 1 ∧
      b.navigator.spline.speed = 380 ∧
      ¬ b.navigator.spline.speed ≤
        a.navigator.spline.speed + a.navigator.params.accel * a.controller.period := by
  rw [after_shortHopping]
  intro a b
  have hrest : a.navigator.spline.speed = 0 := beginSpline_speed rfl
  have hgained := hopped_gained
  have hspeed : b.navigator.spline.speed = 380 := by
    rw [hopped_flies.spline, ← hopped_flownSpeed]
  refine ⟨rfl, ?_, hrest, ?_, hspeed, ?_⟩
  · rw [hopped_period]
    norm_num
  · rwa [hrest, zero_add] at hgained
  · rw [hspeed, hgained]
    norm_num

end Autopilot

end WaypointFlight
