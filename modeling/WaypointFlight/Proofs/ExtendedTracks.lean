import WaypointFlight.Proofs.RealExtensions
import WaypointFlight.Proofs.Ticks

namespace WaypointFlight

open Scalar

variable {β : Type} [Analytic β] (e : RealExtension β)

namespace PositionController

variable (c : PositionController ℝ)

theorem differs_embed (x y : ℝ) : Differs (e x) (e y) ↔ Differs x y := by
  simp only [Differs, e.sub, e.abs, e.literal, e.lt]

theorem limitSpeedXY_image (speed : ℝ) :
    (c.image e).limitSpeedXY (e speed) = (c.limitSpeedXY speed).image e := by
  simp only [limitSpeedXY, image_speedXY, differs_embed]
  split_ifs <;> rfl

theorem limitAccelXY_image (accel : ℝ) :
    (c.image e).limitAccelXY (e accel) = (c.limitAccelXY accel).image e := by
  simp only [limitAccelXY, image_accelXY, differs_embed]
  split_ifs <;> rfl

theorem limitSpeedZ_image (down up : ℝ) :
    (c.image e).limitSpeedZ (e down) (e up) = (c.limitSpeedZ down up).image e := by
  simp only [limitSpeedZ, image_speedUp, image_speedDown, e.abs, e.neg, differs_embed]
  split_ifs <;> rfl

theorem limitAccelZ_image (accel : ℝ) :
    (c.image e).limitAccelZ (e accel) = (c.limitAccelZ accel).image e := by
  simp only [limitAccelZ, image_accelZ, differs_embed]
  split_ifs <;> rfl

theorem refreshLeashXY_image : (c.image e).refreshLeashXY = c.refreshLeashXY.image e := by
  simp only [refreshLeashXY, image_speedXY, image_accelXY, image_gainXY, Leash.length_embed]
  rfl

theorem refreshLeashZ_image : (c.image e).refreshLeashZ = c.refreshLeashZ.image e := by
  simp only [refreshLeashZ, image_speedUp, image_speedDown, image_accelZ, image_gainZ, e.neg,
    Leash.length_embed]
  rfl

theorem refreshStale_image : (c.image e).refreshStale = c.refreshStale.image e := by
  rw [refreshStale_eq, refreshStale_eq]
  simp only [image, e.neg, Leash.length_embed, apply_ite e.embed]

theorem create_image (period gainXY gainZ : ℝ) (position : Vec3 ℝ) :
    create (e period) (e gainXY) (e gainZ) (position.image e) =
      (create period gainXY gainZ position).image e := by
  rw [create, create, ← refreshLeashZ_image, ← refreshLeashXY_image]
  simp only [image, e.literal, e.neg, Vec3.zero_image e, Leash.shortest_embed e]

/-- The braking distance is taken only with a positive acceleration. -/
theorem stoppingPointXY_image : (c.image e).stoppingPointXY = c.stoppingPointXY.image e := by
  simp only [stoppingPointXY, image_accelXY, image_vehiclePosition, image_vehicleVelocity,
    Vec3.image_horizontal, Vec2.norm_image, e.literal, e.le, e.mul]
  split_ifs with h
  · rfl
  · have hdivisor : 2.0 * c.accelXY ≠ 0 := mul_ne_zero (by norm_num) (ne_zero_of_not_le_zero h)
    rw [e.div _ hdivisor, Vec2.mul_image, Vec2.add_image]

theorem stoppingAltitude_image : (c.image e).stoppingAltitude = e c.stoppingAltitude := by
  simp only [stoppingAltitude, image_accelZ, image_vehiclePosition, image_vehicleVelocity,
    Vec3.image_up, e.literal, e.le]
  split_ifs with h
  · rfl
  · have hdivisor : 2.0 * c.accelZ ≠ 0 := mul_ne_zero (by norm_num) (ne_zero_of_not_le_zero h)
    simp only [e.abs, e.mul, e.div _ hdivisor, e.add]

theorem stoppingPoint_image : (c.image e).stoppingPoint = c.stoppingPoint.image e := by
  simp only [stoppingPoint, stoppingPointXY_image, stoppingAltitude_image]
  rfl

theorem saturated_image (v : Vec2 ℝ) :
    (c.image e).saturated (v.image e) = (c.saturated v).image e := by
  simp only [saturated, image_speedXY, Vec2.norm_image, e.literal, e.lt]
  split_ifs with h
  · have hnorm : v.norm ≠ 0 := by
      have hpos := h.2
      norm_num at hpos
      exact hpos.ne'
    rw [e.div _ hnorm, Vec2.mul_image]
  · rfl

theorem demand_image (error : Vec3 ℝ) :
    (c.image e).demand (error.image e) = (c.demand error).image e := by
  have hspeed : (error.image e).horizontal * (c.image e).gainXY =
      (error.horizontal * c.gainXY).image e := Vec2.mul_image e error.horizontal c.gainXY
  simp only [demand, hspeed, saturated_image, Vec3.image_up, image_gainZ, image_speedDown,
    image_speedUp, e.mul, maxNum_embed, minNum_embed]
  rfl

theorem update_image : (c.image e).update = c.update.image e := by
  simp only [update, refreshStale_image, image_positionTarget, image_vehiclePosition,
    Vec3.sub_image, demand_image]
  rfl

theorem setVelocityXY_zero_image :
    (c.image e).setVelocityXY .zero = (c.setVelocityXY .zero).image e := by
  simp only [setVelocityXY, Vec2.zero_image e]
  rfl

theorem axisLimits_image (accelXY accelZ : ℝ) :
    (c.image e).axisLimits (e accelXY) (e accelZ) = (c.axisLimits accelXY accelZ).image e := by
  simp only [axisLimits, image_speedDown, e.abs]
  rfl

theorem leashZ_image (error : ℝ) : (c.image e).leashZ (e error) = e (c.leashZ error) := by
  simp only [leashZ, e.literal, e.le]
  split_ifs <;> rfl

theorem receive_image (k : ControllerCall ℝ) :
    (c.image e).receive (k.image e) = (c.receive k).image e := by
  cases k with
  | reset | setVelocityXY v | setTarget target | freeze => rfl
  | limitSpeedXY speed => exact limitSpeedXY_image e c speed
  | limitAccelXY accel => exact limitAccelXY_image e c accel
  | limitSpeedZ down up => exact limitSpeedZ_image e c down up
  | limitAccelZ accel => exact limitAccelZ_image e c accel
  | refreshLeashXY => exact refreshLeashXY_image e c
  | refreshLeashZ => exact refreshLeashZ_image e c
  | update => exact update_image e c

end PositionController

namespace Params

variable (p : Params ℝ) (lean : ℝ)

theorem standardAccel_embed : standardAccel = e standardAccel := e.literal _ _ _

theorem leanAccel_embed : leanAccel (e lean) = e (leanAccel lean) := by
  simp only [leanAccel, e.literal, e.radiansPerDegree, e.mul, e.tan]

theorem exceedsLean_image : Params.ExceedsLean (p.image e) (e lean) ↔ p.ExceedsLean lean := by
  simp only [exceedsLean_iff, leanAccel_embed, image_accel, e.lt]

theorem within_image : (p.image e).within (e lean) = (p.within lean).image e := by
  simp only [within, exceedsLean_image, leanAccel_embed, image_accel, image_radius, smallestRadius,
    e.literal, maxNum_embed]
  split_ifs <;> rfl

end Params

namespace Segment

variable (s : Segment ℝ)

theorem initial_image : initial = (initial : Segment ℝ).image e := by
  simp only [initial, image, Vec3.zero_image e, e.literal]

theorem directionOf_image (v : Vec3 ℝ) : directionOf (v.image e) = (directionOf v).image e := by
  simp only [directionOf, Vec3.norm_image, isZero_embed]
  split_ifs with h
  · exact Vec3.zero_image e
  · exact Vec3.div_image e v v.norm (ne_zero_of_not_isZero h)

theorem between_image (kind : SegmentKind) (t : Bool) (origin destination : Vec3 ℝ) :
    between kind t (origin.image e) (destination.image e) =
      (between kind t origin destination).image e := by
  simp only [between, Vec3.sub_image, directionOf_image, Vec3.norm_image, Vec3.image_north,
    Vec3.image_east, e.hypot]
  rfl

theorem sight_image (position : Vec3 ℝ) (x : ℝ) :
    (s.image e).sight (position.image e) (e x) = (s.sight position x).image e := by
  simp only [sight, image_origin, image_direction, Vec3.vertical_image, Vec3.sub_image,
    Vec3.dot_image, Vec3.mul_image]
  rfl

theorem pointAt_image (distance x : ℝ) :
    (s.image e).pointAt (e distance) (e x) = (s.pointAt distance x).image e := by
  simp only [pointAt, image_origin, image_direction, Vec3.vertical_image, Vec3.mul_image,
    Vec3.add_image]

end Segment

namespace Sight

variable (s : Sight ℝ)

theorem errorXY_image : (s.image e).errorXY = e s.errorXY := e.hypot _ _

theorem errorZ_image : (s.image e).errorZ = e s.errorZ := e.abs _

theorem taken_image (c : PositionController ℝ) (leash : ℝ) :
    (s.image e).taken (c.image e) (e leash) = e (s.taken c leash) := by
  simp only [taken, errorXY_image, errorZ_image, image_error, Vec3.image_up,
    PositionController.leashZ_image, PositionController.image_leashXY, Leash.taken_embed,
    maxNum_embed]

end Sight

namespace Approach

variable (v : Approach ℝ) (x : ℝ)

theorem atLimit_image : (v.image e).AtLimit (e x) ↔ v.AtLimit x := e.lt _ _

theorem opposed_image : (v.image e).Opposed ↔ v.Opposed := by
  simp only [Opposed, image_along, image_linear, e.neg, e.lt]

theorem nearVehicle_image : (v.image e).nearVehicle (e x) = e (v.nearVehicle x) := by
  simp only [nearVehicle, image_along, image_linear, e.abs, e.sub, e.add, e.lt, constrain_embed,
    apply_ite e.embed]

end Approach

namespace Navigator

variable (n : Navigator ℝ) (v : Approach ℝ)

theorem create_image (p : Params ℝ) (lean : ℝ) :
    create (p.image e) (e lean) = (create p lean).image e := by
  simp only [create, Params.within_image, Segment.initial_image e, TrackLimits.initial_image e,
    Vec3.zero_image e, HermiteCurve.zero_image e, e.literal]
  rfl

theorem chosen_image (heading kept : Option ℝ) :
    ((heading.map e).map wrapTurn).or (kept.map e) = ((heading.map wrapTurn).or kept).map e := by
  cases heading with
  | none => rfl
  | some h => exact congrArg some (wrapTurn_embed e h)

theorem distanceLeft_image : (n.image e).distanceLeft = e n.distanceLeft := e.sub _ _

theorem slowsDown_image : (n.image e).slowsDown (v.image e) = n.slowsDown v := by
  simp only [slowsDown, Approach.opposed_image, distanceLeft_image, image_track, image_flags,
    Track.image_limits, TrackLimits.image_slowDownDistance, e.le]

theorem rampedSpeed_image : (n.image e).rampedSpeed (v.image e) = e (n.rampedSpeed v) := by
  simp only [rampedSpeed, image_track, Track.image_desired, Track.image_limitedSpeed,
    Track.image_limits, TrackLimits.image_accel, Approach.image_dt, Approach.atLimit_image,
    e.literal, e.lt, e.mul, e.add, apply_ite e.embed]

theorem approachSpeed_image (speed : ℝ) :
    (n.image e).approachSpeed (v.image e) (e speed) = e (n.approachSpeed v speed) := by
  simp only [approachSpeed, slowsDown_image, distanceLeft_image, image_track, image_flags,
    Track.image_limits, TrackLimits.image_accel, Leash.slowDownSpeed_embed, minNum_embed,
    apply_ite e.embed]

theorem targetSpeed_image : (n.image e).targetSpeed (v.image e) = e (n.targetSpeed v) := by
  simp only [targetSpeed, Approach.opposed_image, rampedSpeed_image, image_track,
    Track.image_limits, TrackLimits.image_speed, e.literal, constrain_embed, approachSpeed_image,
    Approach.nearVehicle_image, apply_ite e.embed]

theorem pulled_image (speed : ℝ) :
    (n.image e).pulled (v.image e) (e speed) =
      (e (n.pulled v speed).1, e (n.pulled v speed).2) := by
  simp only [pulled, image_track, Track.image_desired, Track.image_limits, TrackLimits.image_accel,
    Approach.image_dt, Approach.image_furthest, Approach.atLimit_image, e.literal, e.mul, e.add,
    e.sub, e.lt, maxNum_embed]
  split_ifs <;> rfl

theorem trackEnd_image : (n.image e).trackEnd = e n.trackEnd := by
  simp only [trackEnd, fastOvershoot, image_flags, image_segment, Segment.image_length, e.literal,
    e.add, apply_ite e.embed]

theorem movedTrack_image (s : Sight ℝ) :
    (n.image e).movedTrack (s.image e) (v.image e) = (n.movedTrack s v).image e := by
  simp only [movedTrack, targetSpeed_image, pulled_image, trackEnd_image, e.literal,
    constrain_embed, Sight.errorXY_image, Sight.errorZ_image]
  rfl

theorem arrives_image (position : Vec3 ℝ) (x desired : ℝ) :
    (n.image e).arrives (position.image e) (e x) (e desired) = n.arrives position x desired := by
  simp only [arrives, image_segment, image_flags, image_params, Segment.image_length,
    Segment.image_destination, Params.image_radius, Vec3.vertical_image, Vec3.sub_image,
    Vec3.norm_image, e.le]

end Navigator

end WaypointFlight
