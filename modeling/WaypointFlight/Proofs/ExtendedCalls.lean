import WaypointFlight.Proofs.ExtendedPlaces
import WaypointFlight.Proofs.ExtendedTracks
import WaypointFlight.Proofs.SplineTicks

namespace WaypointFlight

open Scalar

variable {β : Type} [Analytic β] (e : RealExtension β)

namespace Autopilot

variable (a : Autopilot ℝ) (r : Readings ℝ)

theorem offsetFor_image (t : Bool) :
    (a.image e).offsetFor (r.image e) t = (a.offsetFor r t).map e := by
  have hrange : (if (a.image e).navigator.params.useRangeFinder then (r.image e).rangeFinder
      else none) =
      (if a.navigator.params.useRangeFinder then r.rangeFinder else none).map (·.image e) := by
    rw [apply_ite (Option.map _)]
    rfl
  unfold offsetFor
  rw [hrange, apply_ite (Except.map e.embed), ← terrainOffset_embed, e.literal]
  rfl

theorem trackLimits_image : (a.image e).trackLimits = a.trackLimits.image e := by
  simp only [trackLimits, image_controller, image_navigator, Navigator.image_segment,
    Navigator.image_params, Segment.image_direction, Params.image_accel, Params.image_accelZ,
    PositionController.axisLimits_image, TrackLimits.along_image]

theorem refreshLimits_image : (a.image e).refreshLimits = a.refreshLimits.image e := by
  rw [refreshLimits, trackLimits_image]
  rfl

theorem refreshStaleLimits_image :
    (a.image e).refreshStaleLimits = a.refreshStaleLimits.image e := by
  rw [refreshStaleLimits, refreshStaleLimits, refreshLimits_image, apply_ite (image e.embed)]
  rfl

theorem govern_image (speed : Option ℝ) :
    (a.image e).govern (speed.map e) = (a.govern speed).image e := by
  cases speed with
  | none => rfl
  | some speed =>
    simp only [govern, Option.map_some, image_controller, PositionController.limitSpeedXY_image]
    rfl

theorem repairAccel_image : (a.image e).repairAccel = a.repairAccel.image e := by
  simp only [repairAccel, image_navigator, Navigator.image_params, Params.image_accel,
    Params.standardAccel_embed e, e.literal, e.le]
  split_ifs
  · simp only [image, List.map_append]
    rfl
  · rfl

theorem repairWarnings_image :
    (a.image e).repairWarnings = a.repairWarnings.map (·.image e) := by
  simp only [repairWarnings, image_navigator, Navigator.image_params, Params.image_accel, e.literal,
    e.le]
  split_ifs <;> rfl

theorem defaultOrigin_image (now : Nat) :
    (a.image e).defaultOrigin now = (a.defaultOrigin now).image e := by
  rw [defaultOrigin, defaultOrigin, apply_ite (Vec3.image e.embed), image_controller,
    PositionController.stoppingPoint_image]
  rfl

theorem startedController_image (c : PositionController ℝ) (p : Params ℝ) :
    startedController (c.image e) (p.image e) = (startedController c p).image e := by
  have hreset : (c.image e).reset = c.reset.image e := rfl
  simp only [startedController, hreset, PositionController.setVelocityXY_zero_image,
    Params.image_speed, Params.image_accel, Params.image_speedDown, Params.image_speedUp,
    Params.image_accelZ, e.neg, PositionController.limitSpeedXY_image,
    PositionController.limitAccelXY_image, PositionController.limitSpeedZ_image,
    PositionController.limitAccelZ_image, PositionController.refreshLeashXY_image,
    PositionController.refreshLeashZ_image]

theorem start_image : (a.image e).start = a.start.image e := by
  simp only [start, repairAccel_image, repairWarnings_image, image_controller, image_navigator,
    Navigator.image_params, startedController_image]
  rfl

theorem requestSpeed_image (speed : ℝ) :
    (a.image e).requestSpeed (e speed) = (a.requestSpeed speed).image e := by
  rw [requestSpeed, requestSpeed, apply_ite (image e.embed)]
  simp only [slowestRequest, e.literal, e.le]
  rfl

theorem setSpeedUp_image (speed : ℝ) :
    (a.image e).setSpeedUp (e speed) = (a.setSpeedUp speed).image e := by
  simp only [setSpeedUp, image_controller, PositionController.image_speedDown,
    PositionController.limitSpeedZ_image]
  rfl

theorem setSpeedDown_image (speed : ℝ) :
    (a.image e).setSpeedDown (e speed) = (a.setSpeedDown speed).image e := by
  simp only [setSpeedDown, image_controller, PositionController.image_speedUp,
    PositionController.limitSpeedZ_image]
  rfl

theorem freezeIfNew_image : (a.image e).freezeIfNew = a.freezeIfNew.image e := by
  rw [freezeIfNew, freezeIfNew, apply_ite (image e.embed)]
  rfl

theorem finishTick_image (now : Nat) :
    (a.image e).finishTick now = (a.finishTick now).image e := by
  simp only [finishTick, freezeIfNew_image, image_controller, PositionController.update_image]
  rfl

theorem settleTick_image (now : Nat) :
    (a.image e).settleTick now = (a.settleTick now).image e := by
  rw [settleTick, finishTick_image, refreshStaleLimits_image, ← settleTick]

theorem governedSpeed_image (dt : ℝ) :
    (a.image e).governedSpeed (e dt) = (a.governedSpeed dt).map e :=
  Governor.step_embed e _ _ _ _

theorem beginStraight_image (origin destination : Vec3 ℝ) (t : Bool) (x : ℝ) :
    (a.image e).beginStraight (r.image e) (origin.image e) (destination.image e) t (e x) =
      (a.beginStraight r origin destination t x).image e := by
  simp only [beginStraight, refreshLimits, trackLimits, point, image_controller, image_navigator,
    Navigator.image_params, Params.image_accel, Params.image_accelZ, Segment.between_image,
    Segment.image_direction, Readings.image_velocity, PositionController.axisLimits_image,
    PositionController.image_speedXY, TrackLimits.along_image, Vec3.vertical_image, Vec3.add_image,
    Vec3.dot_image, e.literal, constrain_embed]
  rfl

theorem shiftToVehicle_image :
    (a.image e).shiftToVehicle (r.image e) = (a.shiftToVehicle r).image e := by
  simp only [shiftToVehicle, image_navigator, image_controller, Navigator.image_track,
    Navigator.image_segment, Segment.image_origin, Segment.image_destination, Track.image_desired,
    Readings.image_position, PositionController.image_positionTarget, Vec3.sub_image,
    Vec3.add_image, e.literal, e.lt]
  split_ifs <;> rfl

/-- The gain is a divisor only where it is positive. -/
theorem linearSpeed_image : (a.image e).linearSpeed = e a.linearSpeed := by
  simp only [linearSpeed, image_controller, image_navigator, PositionController.image_gainXY,
    PositionController.image_speedXY, Navigator.image_track, Track.image_limits,
    TrackLimits.image_accel, isPositive_embed]
  split_ifs with h
  · exact e.div _ h.pos.ne'
  · rfl

theorem approach_image (s : Sight ℝ) (dt : ℝ) :
    (a.image e).approach (r.image e) (s.image e) (e dt) = (a.approach r s dt).image e := by
  simp only [approach, linearSpeed_image, image_controller, image_navigator, Navigator.image_track,
    Navigator.image_segment, Segment.image_direction, Track.image_limits, TrackLimits.image_leash,
    Readings.image_velocity, Sight.image_covered, Sight.taken_image, Leash.slack_embed,
    Vec3.dot_image, e.add]
  rfl

theorem advanceStraight_image (dt x : ℝ) :
    (a.image e).advanceStraight (r.image e) (e dt) (e x) = (a.advanceStraight r dt x).image e := by
  simp only [advanceStraight, image_controller, image_navigator, Navigator.image_segment,
    Readings.image_position, Segment.sight_image, approach_image, Navigator.movedTrack_image,
    Navigator.slowsDown_image, Track.image_desired, Navigator.arrives_image, Segment.pointAt_image,
    Segment.image_lengthXY, Segment.image_origin, Segment.image_destination,
    PositionController.image_leashXY, Heading.onStraight_embed, Navigator.choose_eq,
    Navigator.image_heading, Navigator.chosen_image]
  rfl

theorem tryAdvanceStraight_image (dt : ℝ) :
    (a.image e).tryAdvanceStraight (r.image e) (e dt) = (a.tryAdvanceStraight r dt).image e := by
  unfold tryAdvanceStraight
  rw [offsetFor_image, image_navigator, Navigator.image_segment, Segment.image_aboveTerrain]
  cases a.offsetFor r a.navigator.segment.aboveTerrain with
  | ok x =>
    simp only [Except.map, advanceStraight_image]
    rfl
  | error f => rfl

theorem pushAccels_image : (a.image e).pushAccels = a.pushAccels.image e := by
  simp only [pushAccels, image_controller, image_navigator, Navigator.image_params,
    Params.image_accel, Params.image_accelZ, PositionController.limitAccelXY_image,
    PositionController.limitAccelZ_image]
  rfl

theorem prepared_image : (a.image e).prepared = a.prepared.image e := by
  simp only [prepared, pushAccels_image, image_controller, PositionController.image_period,
    governedSpeed_image, govern_image]

theorem tickStraight_image : (a.image e).tickStraight (r.image e) = (a.tickStraight r).image e := by
  simp only [tickStraight_eq, prepared_image, image_controller, PositionController.image_period,
    tryAdvanceStraight_image, Outcome.map, Outcome.image_state, Readings.image_now,
    settleTick_image]
  rfl

end Autopilot

namespace SegmentEnd

variable (following : SegmentEnd (Vec3 ℝ))

theorem velocity_image (origin destination : Vec3 ℝ) (dt : ℝ) :
    (following.image (·.image e)).velocity (origin.image e) (destination.image e) (e dt) =
      (following.velocity origin destination dt).image e := by
  cases following <;> simp only [image, velocity, Vec3.sub_image, Vec3.mul_image]

theorem isFast_image : (following.image (·.image e)).isFast = following.isFast := by
  cases following <;> rfl

theorem tryMap_image {π ρ σ ε : Type} (g : ρ → σ) {find : π → Except ε ρ} {find' : π → Except ε σ}
    (h : ∀ next, find' next = (find next).map g) (following : SegmentEnd π) :
    following.tryMap find' = (following.tryMap find).map (·.image g) := by
  cases following with
  | stop => rfl
  | straight next | spline next =>
    simp only [tryMap, h]
    cases find next <;> rfl

end SegmentEnd

theorem SplineTrack.carriedTime_embed (t overshoot : ℝ) :
    carriedTime (e t) (e overshoot) = e (carriedTime t overshoot) := by
  simp only [carriedTime, e.literal, e.lt, e.sub, apply_ite e.embed]

namespace Autopilot

variable (a : Autopilot ℝ) (r : Readings ℝ) (now : Nat) (q : SplineRequest ℝ)

theorem join_image : (a.image e).join now (q.image e) = (a.join now q).image e := by
  unfold join
  by_cases hrest : q.stoppedAtStart = true ∨ ¬ a.CanJoin now
  · have hrest' : (q.image e).stoppedAtStart = true ∨ ¬ (a.image e).CanJoin now := hrest
    simp only [if_pos hrest, if_pos hrest', SplineRequest.image_origin,
      SplineRequest.image_destination, image_controller, PositionController.image_period,
      Vec3.sub_image, Vec3.mul_image, e.literal]
    rfl
  · have hrest' : ¬ ((q.image e).stoppedAtStart = true ∨ ¬ (a.image e).CanJoin now) := hrest
    simp only [if_neg hrest, if_neg hrest', image_controller, image_navigator,
      Navigator.image_segment, Navigator.image_spline, Navigator.image_params, Segment.image_kind,
      Segment.image_origin, Segment.image_destination, SplineTrack.image_destinationVel,
      SplineTrack.image_time, SplineTrack.image_speed, Params.image_splineOvershoot,
      PositionController.image_velocityTarget, Vec3.sub_image, Vec3.norm_image,
      SplineTrack.carriedTime_embed, e.literal]
    cases a.navigator.segment.kind <;> rfl

theorem joinedSpline_image :
    (a.image e).joinedSpline now (q.image e) = (a.joinedSpline now q).image e := by
  have hboundary : (Boundary.mk (q.origin.image e) (q.destination.image e)
      ((a.join now q).originVel.image e)
      ((q.following.velocity q.origin q.destination a.controller.period).image e)) =
      (Boundary.mk q.origin q.destination (a.join now q).originVel
        (q.following.velocity q.origin q.destination a.controller.period)).image e := rfl
  simp only [joinedSpline, join_image, Join.image_originVel, Join.image_time, Join.image_speed,
    SplineRequest.image_origin, SplineRequest.image_destination, SplineRequest.image_following,
    image_controller, PositionController.image_period, SegmentEnd.velocity_image, hboundary,
    Boundary.scaled_image, HermiteCurve.solve_image]
  rfl

theorem beginSpline_image (x : ℝ) :
    (a.image e).beginSpline now (q.image e) (e x) = (a.beginSpline now q x).image e := by
  simp only [beginSpline, repairAccel_image, joinedSpline_image, point, image_controller,
    image_navigator, Navigator.image_params, Params.image_accel, PositionController.image_speedXY,
    SplineRequest.image_origin, SplineRequest.image_destination, SplineRequest.image_aboveTerrain,
    SplineRequest.image_following, SegmentEnd.isFast_image, Segment.between_image,
    Vec3.vertical_image, Vec3.add_image, Leash.slowDownDistance_embed]
  rfl

/-- The period is a divisor only where it is not zero. -/
theorem splineSpeedLimit_image (slack dt : ℝ) :
    (a.image e).splineSpeedLimit (e slack) (e dt) = e (a.splineSpeedLimit slack dt) := by
  simp only [splineSpeedLimit, image_controller, PositionController.image_speedXY, isZero_embed]
  split_ifs with h
  · rfl
  · rw [e.div _ (ne_zero_of_not_isZero h), minNum_embed]

theorem splineSlack_image (s : Sight ℝ) :
    (a.image e).splineSlack (s.image e) = e (a.splineSlack s) := by
  simp only [splineSlack, image_controller, image_navigator, Navigator.image_track,
    Track.image_limits, TrackLimits.image_leash, Sight.errorXY_image, Sight.errorZ_image,
    Sight.image_error, Vec3.image_up, PositionController.leashZ_image,
    PositionController.image_leashXY, Leash.fractionLeft_embed, e.mul, e.literal, minNum_embed,
    maxNum_embed]

theorem splineRampedSpeed_image (distance limit dt : ℝ) :
    (a.image e).splineRampedSpeed (e distance) (e limit) (e dt) =
      e (a.splineRampedSpeed distance limit dt) := by
  simp only [splineRampedSpeed, image_navigator, Navigator.image_track, Navigator.image_flags,
    Navigator.image_params, Navigator.image_spline, Track.image_limits,
    TrackLimits.image_slowDownDistance, Params.image_accel, SplineTrack.image_speed, e.mul, e.add,
    e.lt, Leash.slowDownSpeed_embed, apply_ite e.embed]

theorem advanceSplineFrom_image (dt x : ℝ) (target : Vec3 ℝ) {velocity : Vec3 ℝ}
    (h : velocity.norm ≠ 0) :
    (a.image e).advanceSplineFrom (r.image e) (e dt) (e x) (target.image e) (velocity.image e) =
      (a.advanceSplineFrom r dt x target velocity).image e := by
  have hvector (north east up : ℝ) : (⟨e north, e east, e up⟩ : Vec3 β) =
      (⟨north, east, up⟩ : Vec3 ℝ).image e := rfl
  have hsight (covered : ℝ) (error : Vec3 ℝ) : (⟨e covered, error.image e⟩ : Sight β) =
      (⟨covered, error⟩ : Sight ℝ).image e := rfl
  simp only [advanceSplineFrom, Readings.image_position, Vec3.sub_image, Vec3.image_north,
    Vec3.image_east, Vec3.image_up, e.sub, hvector, hsight, splineSlack_image,
    splineSpeedLimit_image, image_navigator, image_controller, Navigator.image_segment,
    Navigator.image_spline, Navigator.image_track, Navigator.image_flags, Navigator.image_heading,
    Segment.image_destination, Segment.image_lengthXY, SplineTrack.image_time,
    PositionController.image_leashXY, Vec3.norm_image, splineRampedSpeed_image, e.literal,
    constrain_embed, e.div _ h, e.mul, e.add, e.le, Sight.errorXY_image, Sight.errorZ_image,
    Heading.onSpline_embed, Navigator.choose_eq, Navigator.chosen_image]
  rfl

theorem turnTo_image {velocity : Vec3 ℝ} (h : velocity.norm ≠ 0) :
    (a.image e).turnTo (velocity.image e) = (a.turnTo velocity).image e := by
  unfold turnTo
  rw [Vec3.norm_image, Vec3.div_image e _ _ h, ← refreshLimits_image]
  rfl

/-- The velocity of the curve is divided by only where it has a length. -/
theorem tryAdvanceSpline_image (dt : ℝ) :
    (a.image e).tryAdvanceSpline (r.image e) (e dt) = (a.tryAdvanceSpline r dt).image e := by
  unfold tryAdvanceSpline
  simp only [image_navigator, Navigator.image_spline, Navigator.image_flags,
    Navigator.image_segment, Segment.image_aboveTerrain, SplineTrack.image_curve,
    SplineTrack.image_time, HermiteCurve.velocity_image, HermiteCurve.position_image,
    Vec3.norm_image, isZero_embed]
  split_ifs with hreached hstill
  · rfl
  · rfl
  · have hmoves := ne_zero_of_not_isZero hstill
    rw [turnTo_image e a hmoves, offsetFor_image]
    cases (a.turnTo (a.navigator.spline.curve.velocity a.navigator.spline.time)).offsetFor r
        a.navigator.segment.aboveTerrain with
    | ok x =>
      simp only [Except.map, advanceSplineFrom_image e _ r dt x _ hmoves]
      rfl
    | error f => rfl

theorem tickSpline_image : (a.image e).tickSpline (r.image e) = (a.tickSpline r).image e := by
  simp only [tickSpline, image_navigator, Navigator.image_segment, Segment.image_kind,
    image_controller, PositionController.image_period, governedSpeed_image, govern_image,
    tryAdvanceSpline_image, Outcome.map, Outcome.image_state, Readings.image_now,
    finishTick_image]
  cases a.navigator.segment.kind <;> rfl

theorem setStraight_image (origin destination : Vec3 ℝ) (t : Bool) :
    (a.image e).setStraight (r.image e) (origin.image e) (destination.image e) t =
      (a.setStraight r origin destination t).image e := by
  unfold setStraight
  rw [offsetFor_image]
  cases a.offsetFor r t with
  | ok x =>
    simp only [Except.map, beginStraight_image]
    rfl
  | error f => rfl

theorem setSpline_image : (a.image e).setSpline (r.image e) (q.image e) =
    (a.setSpline r q).image e := by
  unfold setSpline
  rw [offsetFor_image, SplineRequest.image_aboveTerrain, repairWarnings_image]
  cases a.offsetFor r q.aboveTerrain with
  | ok x =>
    simp only [Except.map, Readings.image_now, beginSpline_image]
    rfl
  | error f => rfl

theorem originFor_image (t : Bool) :
    (a.image e).originFor (r.image e) t = (a.originFor r t).map (·.image e) := by
  unfold originFor
  rw [offsetFor_image, Readings.image_now, defaultOrigin_image]
  cases t with
  | false => rfl
  | true =>
    cases a.offsetFor r true with
    | ok x =>
      simp only [Vec3.image_up, Except.map, bind, Except.bind, e.sub]
      rfl
    | error f => rfl

theorem setStraightTo_image (destination : Vec3 ℝ) (t : Bool) :
    (a.image e).setStraightTo (r.image e) (destination.image e) t =
      (a.setStraightTo r destination t).image e := by
  unfold setStraightTo
  rw [originFor_image]
  cases a.originFor r t with
  | ok origin => exact setStraight_image e a r origin destination t
  | error f => rfl

theorem setSplineTo_image (destination : Vec3 ℝ) (t stopped : Bool)
    (following : SegmentEnd (Vec3 ℝ)) :
    (a.image e).setSplineTo (r.image e) (destination.image e) t stopped
        (following.image (·.image e)) =
      (a.setSplineTo r destination t stopped following).image e := by
  unfold setSplineTo
  rw [originFor_image]
  cases a.originFor r t with
  | ok origin => exact setSpline_image e a r ⟨origin, destination, t, stopped, following⟩
  | error f => rfl

theorem setStraightToLocation_image (destination : Location) :
    (a.image e).setStraightToLocation (r.image e) destination =
      (a.setStraightToLocation r destination).image e := by
  unfold setStraightToLocation
  rw [Location.vectorNEU_embed e, Readings.image_attitude, Attitude.image_origin]
  cases (destination.vectorNEU r.attitude.origin :
      Except (Fault LocationError) (Vec3 ℝ × Bool)) with
  | ok v => exact setStraightTo_image e a r v.1 v.2
  | error f => rfl

theorem setStraightToNED_image (destination : Vec3 ℝ) :
    (a.image e).setStraightToNED (r.image e) (destination.image e) =
      (a.setStraightToNED r destination).image e := by
  rw [setStraightToNED, setStraightToNED, ← setStraightTo_image]
  simp only [Vec3.image, e.literal, e.neg, e.mul]

theorem followingVector_image (frame : AltitudeFrame) (following : SegmentEnd Location) :
    followingVector (r.image e) frame following =
      (followingVector r frame following).map (·.image (·.image e)) := by
  unfold followingVector
  rw [Readings.image_attitude, Attitude.image_origin]
  cases r.attitude.origin with
  | none => rfl
  | some origin =>
    refine SegmentEnd.tryMap_image (Vec3.image e) (fun next ↦ ?_) following
    rw [Readings.image_database, TerrainDatabase.image_elevation, Location.inFrame_image]
    cases next.inFrame frame origin r.database.elevation with
    | error f => rfl
    | ok moved =>
      show (moved.vectorNEU (some origin) >>= fun v ↦ pure v.1 :
        Except (Fault LocationError) (Vec3 β)) = _
      rw [Location.vectorNEU_embed e]
      show _ = Except.map _ ((moved.vectorNEU (some origin) >>= fun v ↦ pure v.1 :
        Except (Fault LocationError) (Vec3 ℝ)))
      cases (moved.vectorNEU (some origin) : Except (Fault LocationError) (Vec3 ℝ × Bool)) <;> rfl

theorem setSplineToLocation_image (destination : Location) (stopped : Bool)
    (following : SegmentEnd Location) :
    (a.image e).setSplineToLocation (r.image e) destination stopped following =
      (a.setSplineToLocation r destination stopped following).image e := by
  unfold setSplineToLocation
  rw [Location.vectorNEU_embed e, followingVector_image, Readings.image_attitude,
    Attitude.image_origin]
  cases (destination.vectorNEU r.attitude.origin :
      Except (Fault LocationError) (Vec3 ℝ × Bool)) with
  | error f => rfl
  | ok v =>
    cases followingVector r destination.frame following with
    | error f => rfl
    | ok following => exact setSplineTo_image e a r v.1 v.2 stopped following

end Autopilot

theorem Command.run_image (c : Command ℝ) (r : Readings ℝ) (a : Autopilot ℝ) :
    (c.image e).run (r.image e) (a.image e) = (c.run r a).image e := by
  cases c with
  | start => exact a.start_image e
  | straightTo destination t => exact a.setStraightTo_image e r destination t
  | straightToLocation destination => exact a.setStraightToLocation_image e r destination
  | straightToNED destination => exact a.setStraightToNED_image e r destination
  | straight origin destination t => exact a.setStraight_image e r origin destination t
  | splineTo destination t stopped following =>
    exact a.setSplineTo_image e r destination t stopped following
  | splineToLocation destination stopped following =>
    exact a.setSplineToLocation_image e r destination stopped following
  | spline q => exact a.setSpline_image e r q
  | shift => exact congrArg (Outcome.done · []) (a.shiftToVehicle_image e r)
  | tickStraight => exact a.tickStraight_image e r
  | tickSpline => exact a.tickSpline_image e r
  | requestSpeed speed => exact congrArg (Outcome.done · []) (a.requestSpeed_image e speed)
  | setSpeedUp speed => exact congrArg (Outcome.done · []) (a.setSpeedUp_image e speed)
  | setSpeedDown speed => exact congrArg (Outcome.done · []) (a.setSpeedDown_image e speed)
  | setFast fast => rfl

theorem Event.apply_image (ev : Event ℝ) (a : Autopilot ℝ) :
    (ev.image e).apply (a.image e) = (ev.apply a).image e := by
  cases ev with
  | call c r => exact congrArg Outcome.state (c.run_image e r a)
  | moved position velocity => rfl
  | replaced c => rfl

theorem Autopilot.after_image (a : Autopilot ℝ) (es : List (Event ℝ)) :
    (a.image e).after (es.map (·.image e)) = (a.after es).image e := by
  induction es generalizing a with
  | nil => rfl
  | cons ev es ih =>
    rw [List.map_cons, after_cons, ev.apply_image, ih, ← after_cons]

end WaypointFlight
