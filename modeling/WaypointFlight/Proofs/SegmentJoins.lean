import WaypointFlight.Proofs.SplineRamp

namespace WaypointFlight

open Scalar

namespace Autopilot

variable {a : Autopilot ℝ}

theorem Laid.velocity_zero (h : Laid a) :
    a.navigator.spline.curve.velocity 0 = a.navigator.spline.originVel * a.boundary.scale := by
  rw [h.velocity, HermiteCurve.velocity_solve_zero, Boundary.scaled_originVel]
  rfl

theorem Laid.velocity_one (h : Laid a) :
    a.navigator.spline.curve.velocity 1 = a.navigator.spline.destinationVel * a.boundary.scale := by
  rw [h.velocity, HermiteCurve.velocity_solve_one, Boundary.scaled_destinationVel]
  rfl

theorem Reachable.laid (h : Reachable a) : a.navigator.segment.kind = .spline → Laid a := by
  induction h with
  | created => exact fun hk ↦ by cases hk
  | event _ e ih => exact laid_effect (e.effect _) ih

/-- A spline that is set while the segment before counts as reached goes on from it. After a spline,
both curves follow the velocity that the first was asked for at its destination. After a straight
segment the curve follows the track. The speed of the target is kept, in the second case as that of
the controller. -/
theorem spline_join (h : Reachable a) {c : Command ℝ} (hc : c.stoppedAtStart = some false)
    (r : Readings ℝ) (hok : (c.run r a).fault = none) (hreached : a.navigator.flags.reached = true)
    {last : Nat} (hlast : a.navigator.lastTick = some last) (hnow : r.now - last < 1000) :
    let b := (c.run r a).state
    let old := a.navigator.spline
    let new := b.navigator.spline
    let overshoot := a.navigator.params.splineOvershoot
    0 ≤ a.boundary.scale ∧ 0 ≤ b.boundary.scale ∧
      (a.navigator.segment.kind = .spline →
        new.originVel = old.destinationVel ∧
        old.curve.velocity 1 = old.destinationVel * a.boundary.scale ∧
        new.curve.velocity 0 = old.destinationVel * b.boundary.scale ∧
        new.speed = old.speed ∧
        new.time = (if 1 < old.time ∧ old.time < overshoot then old.time - 1 else 0) ∧
        (new.time = 0 ∨ 0 < new.time ∧ new.time < overshoot - 1)) ∧
      (a.navigator.segment.kind = .straight →
        new.curve.velocity 0 =
          (a.navigator.segment.destination - a.navigator.segment.origin) * b.boundary.scale ∧
        new.time = 0 ∧ new.speed = a.controller.velocityTarget.norm) := by
  intro b old new overshoot
  refine ⟨a.boundary.scale_nonneg, b.boundary.scale_nonneg, ?_⟩
  obtain hrefused | ⟨q, x, hq, -, hset⟩ := c.run_splineRequest r a (c.sets_of_stoppedAtStart hc)
  · exact absurd hok hrefused.1
  have hb : b = a.beginSpline r.now q x := congrArg Outcome.state hset
  have hstart : new.curve.velocity 0 = new.originVel * b.boundary.scale :=
    Laid.velocity_zero (hb ▸ laid_beginSpline a r.now q x)
  -- the segment before is reached and recent, so the spline does not begin from rest
  have hgo : ¬ (q.stoppedAtStart = true ∨ ¬ a.CanJoin r.now) := by
    have hfalse : q.stoppedAtStart = false := Option.some.inj (hq.symm.trans hc)
    have hactive : a.navigator.isActive r.now = true := by
      rw [Navigator.isActive, hlast]
      exact decide_eq_true hnow
    rw [hfalse, not_or, not_not]
    exact ⟨Bool.false_ne_true, hreached, hactive⟩
  have hjoins := a.joins r.now q
  have hnew : new.originVel = (a.join r.now q).originVel ∧ new.time = (a.join r.now q).time ∧
      new.speed = (a.join r.now q).speed := by
    rw [← join_repairAccel]
    exact ⟨congrArg (·.navigator.spline.originVel) hb, congrArg (·.navigator.spline.time) hb,
      congrArg (·.navigator.spline.speed) hb⟩
  generalize a.join r.now q = j at hjoins hnew
  obtain ⟨horigin, htime, hspeed⟩ := hnew
  rw [horigin] at hstart
  cases hjoins with
  | rest hrest => exact absurd hrest hgo
  | straight _ hk =>
    refine ⟨fun hspline ↦ absurd (hk.symm.trans hspline) (by decide), fun _ ↦ ?_⟩
    exact ⟨hstart, htime.trans zero_literal, hspeed⟩
  | spline _ hk =>
    refine ⟨fun _ ↦ ?_, fun hstraight ↦ absurd (hk.symm.trans hstraight) (by decide)⟩
    refine ⟨horigin, (h.laid hk).velocity_one, hstart, hspeed, ?_, ?_⟩
    · rw [htime, SplineTrack.carriedTime, one_literal, zero_literal]
    · rw [htime]
      exact carriedTime_eq_zero_or _ _

theorem hopped_arrives :
    let b := (hopped.tickSpline Simulation.standard.readings).state
    b.navigator.flags.reached = true ∧ b.navigator.spline.time = 20 / 19 ∧
      b.navigator.spline.speed = 380 ∧ b.navigator.segment.kind = .spline ∧
      b.navigator.params = .standard := by
  intro b
  have htime : b.navigator.spline.time = 20 / 19 := by
    rw [hopped_flies.spline, hopped_flownSpeed, hopped_velocity, hopped_period,
      Vec3.norm_north (by norm_num), hopped, beginSpline_time rfl]
    norm_num
  have hspeed : b.navigator.spline.speed = 380 := by
    rw [hopped_flies.spline, ← hopped_flownSpeed]
  obtain ⟨_, _, _, _, _, _, _, _, _, _, hn, -⟩ :=
    (hopped.splineTick Simulation.standard.readings).navigator_eq
  refine ⟨hopped_flies.reached_iff.mpr ?_, htime, hspeed, ?_, ?_⟩
  · rw [htime]
    norm_num
  · rw [hn]
    rfl
  · rw [hn]
    exact hopped_params

/-- The target has gone too far by a part of the curve, which it has covered on the next one. -/
theorem spline_join_shortHop :
    let r : Readings ℝ := Simulation.standard.readings
    let a := (((Simulation.standard : Simulation ℝ).autopilot.after shortHopping).tickSpline r).state
    let c : Command ℝ := .spline ⟨⟨361, 0, 0⟩, ⟨1361, 0, 0⟩, false, false, .stop⟩
    let b := (c.run r a).state
    Reachable a ∧ c.stoppedAtStart = some false ∧ (c.run r a).fault = none ∧
      a.navigator.flags.reached = true ∧ a.navigator.lastTick = some r.now ∧
      r.now - r.now < 1000 ∧ a.navigator.segment.kind = .spline ∧
      b.navigator.spline.originVel = a.navigator.spline.destinationVel ∧
      b.navigator.spline.speed = 380 ∧ b.navigator.spline.time = 1 / 19 := by
  intro r a c b
  have hreach : Reachable a :=
    ((Reachable.created _ _ _ _).after shortHopping).event (.call .tickSpline r)
  have ha : a = (hopped.tickSpline r).state := by rw [← after_shortHopping]
  obtain ⟨hreached, htime, hspeed, hkind, hparams⟩ := hopped_arrives
  rw [← ha] at hreached htime hspeed hkind hparams
  have hlast : a.navigator.lastTick = some r.now := ha ▸ hopped_flies.lastTick
  have hnow : r.now - r.now < 1000 := by rw [Nat.sub_self]; decide
  obtain ⟨-, -, hspline, -⟩ := spline_join hreach (c := c) rfl r rfl hreached hlast hnow
  obtain ⟨horigin, -, -, hkept, hcarried, -⟩ := hspline hkind
  refine ⟨hreach, rfl, rfl, hreached, hlast, hnow, hkind, horigin, hkept.trans hspeed, ?_⟩
  rw [hcarried, htime, hparams]
  norm_num [Params.standard]

end Autopilot

end WaypointFlight
