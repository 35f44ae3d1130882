import WaypointFlight.Proofs.Ticks

namespace WaypointFlight

open Scalar

variable {α : Type} [Analytic α]

namespace Autopilot

variable (a : Autopilot α) (r : Readings α)

inductive Joins (now : Nat) (q : SplineRequest α) : Join α → Prop where
  | rest (h : q.stoppedAtStart = true ∨ ¬ a.CanJoin now) :
      Joins now q ⟨(q.destination - q.origin) * a.controller.period, 0.0, 0.0⟩
  | straight (h : ¬ (q.stoppedAtStart = true ∨ ¬ a.CanJoin now))
      (hk : a.navigator.segment.kind = .straight) :
      Joins now q
        ⟨a.navigator.segment.destination - a.navigator.segment.origin, 0.0,
          a.controller.velocityTarget.norm⟩
  | spline (h : ¬ (q.stoppedAtStart = true ∨ ¬ a.CanJoin now))
      (hk : a.navigator.segment.kind = .spline) :
      Joins now q
        ⟨a.navigator.spline.destinationVel,
          SplineTrack.carriedTime a.navigator.spline.time a.navigator.params.splineOvershoot,
          a.navigator.spline.speed⟩

theorem joins (now : Nat) (q : SplineRequest α) : a.Joins now q (a.join now q) := by
  unfold join
  split_ifs with h
  · exact .rest h
  · cases hk : a.navigator.segment.kind with
    | straight =>
      simp only [hk]
      exact .straight h hk
    | spline =>
      simp only [hk]
      exact .spline h hk

theorem join_repairAccel (now : Nat) (q : SplineRequest α) :
    a.repairAccel.join now q = a.join now q := by
  unfold repairAccel
  split <;> rfl

def governed : Autopilot α := a.govern (a.governedSpeed a.controller.period)

def curveVelocity : Vec3 α := a.navigator.spline.curve.velocity a.navigator.spline.time

inductive SplineTick : Outcome α → Prop where
  | refused (hk : a.navigator.segment.kind = .straight) :
      SplineTick ⟨some (.error .notSpline), a, []⟩
  | reached (hk : a.navigator.segment.kind = .spline) (h : a.navigator.flags.reached = true) :
      SplineTick (.done (a.governed.finishTick r.now) [])
  | still (hk : a.navigator.segment.kind = .spline) (h : a.navigator.flags.reached = false)
      (hv : IsZero a.curveVelocity.norm) :
      SplineTick (.done (a.governed.arriveOnSpline.finishTick r.now) [])
  | flown (hk : a.navigator.segment.kind = .spline) (h : a.navigator.flags.reached = false)
      (hv : ¬ IsZero a.curveVelocity.norm) (x : α)
      (hx : a.offsetFor r a.navigator.segment.aboveTerrain = .ok x) :
      SplineTick (.done
        (((a.governed.turnTo a.curveVelocity).advanceSplineFrom r a.controller.period x
          (a.navigator.spline.curve.position a.navigator.spline.time)
          a.curveVelocity).finishTick r.now) [])
  | held (hk : a.navigator.segment.kind = .spline) (h : a.navigator.flags.reached = false)
      (hv : ¬ IsZero a.curveVelocity.norm) (f : TerrainFault)
      (hf : a.offsetFor r a.navigator.segment.aboveTerrain = .error f) :
      SplineTick ⟨some (.error .terrainUnavailable),
        (a.governed.turnTo a.curveVelocity).finishTick r.now, [.terrain f]⟩

theorem governed_navigator :
    a.governed.navigator =
      { a.navigator with
        flags.limitsStale := a.navigator.flags.limitsStale ||
          (a.governedSpeed a.controller.period).isSome } :=
  a.govern_navigator _

theorem governed_controller :
    ∃ speedXY staleXY, a.governed.controller = { a.controller with speedXY, staleXY } := by
  unfold governed
  cases a.governedSpeed a.controller.period with
  | none => exact ⟨_, _, rfl⟩
  | some speed =>
    simp only [govern, PositionController.limitSpeedXY_eq]
    exact ⟨_, _, rfl⟩

theorem governed_of_isEqual
    (h : IsEqual a.navigator.requestedSpeed a.controller.speedXY) : a.governed = a := by
  rw [governed, governedSpeed, Governor.step, if_pos h, govern]

@[simp]
theorem governed_period : a.governed.controller.period = a.controller.period := by
  unfold governed
  cases a.governedSpeed a.controller.period with
  | none => rfl
  | some speed => simp only [govern, PositionController.limitSpeedXY_eq]

@[simp]
theorem finishTick_period (now : Nat) :
    (a.finishTick now).controller.period = a.controller.period := by
  obtain ⟨freezes, h⟩ := a.finishTick_controller now
  rw [h, PositionController.update_period]

theorem turnTo_governed_offsetFor (v : Vec3 α) (t : Bool) :
    (a.governed.turnTo v).offsetFor r t = a.offsetFor r t := by
  simp only [offsetFor, turnTo, refreshLimits, governed_navigator]

theorem advanceSplineFrom_navigator (dt offset : α) (target velocity : Vec3 α) :
    ∃ errorXY errorZ speed time timeScale heading,
      (a.advanceSplineFrom r dt offset target velocity).navigator =
        { a.navigator with
          track.errorXY := errorXY
          track.errorZ := errorZ
          spline.speed := speed
          spline.time := time
          spline.timeScale := timeScale
          heading
          flags.reached := a.navigator.flags.reached || decide (1.0 ≤ time) } := by
  simp only [advanceSplineFrom, Navigator.choose_eq]
  exact ⟨_, _, _, _, _, _, rfl⟩

theorem splineTick : SplineTick a r (a.tickSpline r) := by
  cases hk : a.navigator.segment.kind with
  | straight =>
    simp only [tickSpline, hk]
    exact .refused hk
  | spline =>
    have ht : a.tickSpline r =
        (a.governed.tryAdvanceSpline r a.controller.period).map (·.finishTick r.now) := by
      simp only [tickSpline, hk]
      rfl
    rw [ht, tryAdvanceSpline]
    simp only [turnTo_governed_offsetFor, governed_navigator]
    cases h : a.navigator.flags.reached with
    | true => exact .reached hk h
    | false =>
      simp only [Bool.false_eq_true, ↓reduceIte]
      split_ifs with hv
      · exact .still hk h hv
      · cases hx : a.offsetFor r a.navigator.segment.aboveTerrain with
        | ok x => exact .flown hk h hv x hx
        | error f => exact .held hk h hv f hx

namespace SplineTick

variable {a r} {o : Outcome α}

/-- A tick on a spline moves the target along the curve. It turns the direction of travel to the
velocity of the curve, with the limits for it, or leaves both. The segment, the curve and the
parameters stay. -/
theorem navigator_eq (h : SplineTick a r o) :
    ∃ direction limits errorXY errorZ speed time timeScale heading flags lastTick,
      o.state.navigator =
        { a.navigator with
          segment.direction := direction
          track.limits := limits
          track.errorXY := errorXY
          track.errorZ := errorZ
          spline.speed := speed
          spline.time := time
          spline.timeScale := timeScale
          heading, flags, lastTick } ∧
      (direction = a.navigator.segment.direction ∧ limits = a.navigator.track.limits ∨
        ¬ IsZero a.curveVelocity.norm ∧ direction = a.curveVelocity / a.curveVelocity.norm ∧
          ∃ l, limits = TrackLimits.along direction l) := by
  cases h with
  | refused => exact ⟨_, _, _, _, _, _, _, _, _, _, rfl, .inl ⟨rfl, rfl⟩⟩
  | reached =>
    simp only [Outcome.done, finishTick_navigator, governed_navigator]
    exact ⟨_, _, _, _, _, _, _, _, _, _, rfl, .inl ⟨rfl, rfl⟩⟩
  | still =>
    simp only [Outcome.done, finishTick_navigator, arriveOnSpline, governed_navigator]
    exact ⟨_, _, _, _, _, _, _, _, _, _, rfl, .inl ⟨rfl, rfl⟩⟩
  | flown _ _ hv x _ =>
    obtain ⟨_, _, _, _, _, _, hn⟩ :=
      (a.governed.turnTo a.curveVelocity).advanceSplineFrom_navigator r a.controller.period x
        (a.navigator.spline.curve.position a.navigator.spline.time) a.curveVelocity
    simp only [Outcome.done, finishTick_navigator, hn]
    simp only [turnTo, refreshLimits, governed_navigator]
    exact ⟨_, _, _, _, _, _, _, _, _, _, rfl, .inr ⟨hv, rfl, _, rfl⟩⟩
  | held _ _ hv =>
    simp only [finishTick_navigator, turnTo, refreshLimits, governed_navigator]
    exact ⟨_, _, _, _, _, _, _, _, _, _, rfl, .inr ⟨hv, rfl, _, rfl⟩⟩

theorem flags_eq (h : SplineTick a r o) :
    ∃ reached limitsStale newDestination,
      o.state.navigator.flags =
        { a.navigator.flags with reached, limitsStale, newDestination } := by
  cases h with
  | refused => exact ⟨_, _, _, rfl⟩
  | reached =>
    simp only [Outcome.done, finishTick_navigator, governed_navigator]
    exact ⟨_, _, _, rfl⟩
  | still =>
    simp only [Outcome.done, finishTick_navigator, arriveOnSpline, governed_navigator]
    exact ⟨_, _, _, rfl⟩
  | flown _ _ _ x _ =>
    obtain ⟨_, _, _, _, _, _, hn⟩ :=
      (a.governed.turnTo a.curveVelocity).advanceSplineFrom_navigator r a.controller.period x
        (a.navigator.spline.curve.position a.navigator.spline.time) a.curveVelocity
    simp only [Outcome.done, finishTick_navigator, hn]
    simp only [turnTo, refreshLimits, governed_navigator]
    exact ⟨_, _, _, rfl⟩
  | held =>
    simp only [finishTick_navigator, turnTo, refreshLimits, governed_navigator]
    exact ⟨_, _, _, rfl⟩

theorem period (h : SplineTick a r o) : o.state.controller.period = a.controller.period := by
  cases h with
  | refused => rfl
  | reached => rw [Outcome.done, finishTick_period, governed_period]
  | still => rw [Outcome.done, finishTick_period, arriveOnSpline, governed_period]
  | flown =>
    rw [Outcome.done, finishTick_period]
    exact a.governed_period
  | held =>
    rw [finishTick_period]
    exact a.governed_period

theorem arrives (h : SplineTick a r o) (hbefore : a.navigator.flags.reached = false)
    (hafter : o.state.navigator.flags.reached = true) :
    1.0 ≤ o.state.navigator.spline.time ∨
      IsZero a.curveVelocity.norm ∧
        o.state.navigator.spline.time = a.navigator.spline.time := by
  cases h with
  | refused => exact absurd hafter (by simp [hbefore])
  | reached _ h => exact absurd h (by simp [hbefore])
  | still _ _ hv =>
    refine .inr ⟨hv, ?_⟩
    simp only [Outcome.done, finishTick_navigator, arriveOnSpline, governed_navigator]
  | flown _ _ _ x _ =>
    obtain ⟨_, _, _, time, _, _, hn⟩ :=
      (a.governed.turnTo a.curveVelocity).advanceSplineFrom_navigator r a.controller.period x
        (a.navigator.spline.curve.position a.navigator.spline.time) a.curveVelocity
    simp only [Outcome.done, finishTick_navigator, hn] at hafter ⊢
    simp only [turnTo, refreshLimits, governed_navigator, hbefore, Bool.false_or,
      decide_eq_true_eq] at hafter
    exact .inl hafter
  | held =>
    simp only [finishTick_navigator, turnTo, refreshLimits, governed_navigator, hbefore] at hafter
    exact absurd hafter Bool.false_ne_true

theorem arrives_of_still (h : SplineTick a r o) (hk : a.navigator.segment.kind = .spline)
    (hbefore : a.navigator.flags.reached = false) (hv : IsZero a.curveVelocity.norm) :
    o.state.navigator.flags.reached = true ∧
      o.state.navigator.spline.time = a.navigator.spline.time := by
  cases h with
  | refused hs => exact absurd (hk.symm.trans hs) (by decide)
  | reached _ h => exact absurd (hbefore.symm.trans h) (by decide)
  | still =>
    simp only [Outcome.done, finishTick_navigator, arriveOnSpline, governed_navigator, and_self]
  | flown _ _ hmoves => exact absurd hv hmoves
  | held _ _ hmoves => exact absurd hv hmoves

end SplineTick

end Autopilot

namespace Autopilot

variable (a : Autopilot α) (r : Readings α) {x : α}

/-- The autopilot as the advance of a tick on a spline finds it: the speed limit has moved, and the
limits are those along the curve. -/
def turned : Autopilot α := a.governed.turnTo a.curveVelocity

def curvePosition : Vec3 α := a.navigator.spline.curve.position a.navigator.spline.time

def targetSight (r : Readings α) (x : α) : Sight α :=
  let delta := r.position - a.curvePosition
  ⟨0.0, { delta with up := delta.up - x }⟩

def slackAt (r : Readings α) (x : α) : α := a.turned.splineSlack (a.targetSight r x)

def flownLimit (r : Readings α) (x : α) : α :=
  a.turned.splineSpeedLimit (a.slackAt r x) a.controller.period

def flownSpeed (r : Readings α) (x : α) : α :=
  constrain
    (a.turned.splineRampedSpeed (a.navigator.segment.destination - a.curvePosition).norm
      (a.flownLimit r x) a.controller.period)
    0.0 (a.flownLimit r x)

theorem turned_navigator :
    a.turned.navigator =
      { a.navigator with
        segment.direction := a.curveVelocity / a.curveVelocity.norm
        track.limits := a.turned.navigator.track.limits
        flags.limitsStale := false } := by
  simp only [turned, turnTo, refreshLimits, governed_navigator]

theorem turned_controller :
    ∃ speedXY staleXY, a.turned.controller = { a.controller with speedXY, staleXY } :=
  a.governed_controller

theorem turned_limits :
    a.turned.navigator.track.limits =
      .along (a.curveVelocity / a.curveVelocity.norm)
        (a.turned.controller.axisLimits a.navigator.params.accel a.navigator.params.accelZ) := by
  simp only [turned, turnTo, refreshLimits, trackLimits, governed_navigator]

structure Flies (r : Readings α) (x : α) : Prop where
  kind : a.navigator.segment.kind = .spline
  reached : a.navigator.flags.reached = false
  moves : ¬ IsZero a.curveVelocity.norm
  offset : a.offsetFor r a.navigator.segment.aboveTerrain = .ok x

variable {a r}

theorem Flies.tickSpline (h : a.Flies r x) :
    a.tickSpline r =
      .done ((a.turned.advanceSplineFrom r a.controller.period x a.curvePosition
        a.curveVelocity).finishTick r.now) [] := by
  have ht := a.splineTick r
  generalize a.tickSpline r = o at ht
  cases ht with
  | refused hk => cases h.kind.symm.trans hk
  | reached _ hr => cases h.reached.symm.trans hr
  | still _ _ hv => exact absurd hv h.moves
  | flown _ _ _ y hy =>
    obtain rfl := Except.ok.inj (h.offset.symm.trans hy)
    rfl
  | held _ _ _ f hf => cases h.offset.symm.trans hf

theorem Flies.spline (h : a.Flies r x) :
    (a.tickSpline r).state.navigator.spline =
      { a.navigator.spline with
        speed := a.flownSpeed r x
        timeScale := a.flownSpeed r x / a.curveVelocity.norm
        time := a.navigator.spline.time +
          a.flownSpeed r x / a.curveVelocity.norm * a.controller.period } := by
  rw [h.tickSpline]
  simp only [Outcome.done, finishTick_navigator, advanceSplineFrom, Navigator.choose_eq]
  rw [flownSpeed, flownLimit, slackAt, targetSight, turned_navigator]

theorem Flies.reached_iff (h : a.Flies r x) :
    (a.tickSpline r).state.navigator.flags.reached = true ↔
      1.0 ≤ (a.tickSpline r).state.navigator.spline.time := by
  rw [h.tickSpline]
  simp only [Outcome.done, finishTick_navigator, advanceSplineFrom, Navigator.choose_eq]
  rw [turned_navigator, h.reached, Bool.false_or, decide_eq_true_iff]

theorem Flies.lastTick (h : a.Flies r x) :
    (a.tickSpline r).state.navigator.lastTick = some r.now := by
  rw [h.tickSpline, Outcome.done, finishTick_navigator]

theorem Flies.track (h : a.Flies r x) :
    (a.tickSpline r).state.navigator.track =
      { a.turned.navigator.track with
        errorXY := (a.targetSight r x).errorXY
        errorZ := (a.targetSight r x).errorZ } := by
  rw [h.tickSpline]
  simp only [Outcome.done, finishTick_navigator, advanceSplineFrom, Navigator.choose_eq]
  rfl

theorem Flies.controller_speedXY (h : a.Flies r x) :
    (a.tickSpline r).state.controller.speedXY = a.turned.controller.speedXY := by
  rw [h.tickSpline]
  obtain ⟨_, hc⟩ := (a.turned.advanceSplineFrom r a.controller.period x a.curvePosition
    a.curveVelocity).finishTick_controller r.now
  rw [Outcome.done, hc, PositionController.update_speedXY]
  rfl

theorem exists_flies (hf : (a.tickSpline r).fault = none)
    (hr : a.navigator.flags.reached = false) (hv : ¬ IsZero a.curveVelocity.norm) :
    ∃ x, a.Flies r x := by
  have h := a.splineTick r
  generalize a.tickSpline r = o at h hf
  cases h with
  | refused => cases hf
  | reached _ hreached => cases hr.symm.trans hreached
  | still _ _ hzero => exact absurd hzero hv
  | flown hk _ _ x hx => exact ⟨x, hk, hr, hv, hx⟩
  | held => cases hf

theorem tickSpline_spline_cases (a : Autopilot α) (r : Readings α) :
    (a.tickSpline r).state.navigator.spline = a.navigator.spline ∨ ∃ x, a.Flies r x := by
  have h := a.splineTick r
  generalize a.tickSpline r = o at h
  cases h with
  | refused => exact .inl rfl
  | reached =>
    left
    simp only [Outcome.done, finishTick_navigator, governed_navigator]
  | still =>
    left
    simp only [Outcome.done, finishTick_navigator, arriveOnSpline, governed_navigator]
  | flown hk hr hv x hx => exact .inr ⟨x, hk, hr, hv, hx⟩
  | held =>
    left
    simp only [finishTick_navigator, turnTo, refreshLimits, governed_navigator]

end Autopilot

theorem Event.Effect.kind {a b : Autopilot α} {e : Event α} (h : e.Effect a b)
    (hkeep : a.Keeps e) : b.navigator.segment.kind = a.navigator.segment.kind := by
  cases h with
  | straight r hc hf => exact absurd hf (hkeep (by simp [hc]))
  | spline r hc hf => exact absurd hf (hkeep (by simp [hc]))
  | start r =>
    unfold Autopilot.start Autopilot.repairAccel
    split_ifs <;> rfl
  | shift r =>
    unfold Autopilot.shiftToVehicle
    split_ifs <;> rfl
  | tickStraight r => exact congrArg Segment.kind (a.tickStraight_segment r)
  | tickSpline r =>
    obtain ⟨_, _, _, _, _, _, _, _, _, _, hn, -⟩ := (a.splineTick r).navigator_eq
    exact congrArg (·.segment.kind) hn
  | _ => rfl

/-- Of the calls that set no segment only a shift moves its ends, and none changes the curve. -/
theorem Command.run_path {c : Command α} (r : Readings α) (a : Autopilot α) (hc : c.sets = none)
    (hs : c ≠ .shift) :
    ∃ direction,
      (c.run r a).state.navigator.segment = { a.navigator.segment with direction } ∧
        (c.run r a).state.navigator.spline.curve = a.navigator.spline.curve := by
  cases c with
  | shift => exact absurd rfl hs
  | start => exact ⟨_, a.repairAccel_segment, congrArg _ a.repairAccel_spline⟩
  | tickStraight =>
    exact ⟨_, a.tickStraight_segment r, congrArg _ (a.tickStraight_spline r)⟩
  | tickSpline =>
    obtain ⟨direction, _, _, _, _, _, _, _, _, _, hn, -⟩ := (a.splineTick r).navigator_eq
    refine ⟨direction, ?_, ?_⟩ <;> rw [run, hn]
  | requestSpeed v =>
    simp only [run, Outcome.done, Autopilot.requestSpeed]
    split <;> exact ⟨_, rfl, rfl⟩
  | setSpeedUp v => exact ⟨_, rfl, rfl⟩
  | setSpeedDown v => exact ⟨_, rfl, rfl⟩
  | setFast fast => exact ⟨_, rfl, rfl⟩
  | _ => cases hc

end WaypointFlight
