import WaypointFlight.Proofs.RealLimits
import WaypointFlight.Proofs.SplineTicks
import WaypointFlight.Proofs.StraightTarget

namespace WaypointFlight

open Scalar

theorem Sight.errorXY_nonneg (s : Sight ℝ) : 0 ≤ s.errorXY := Real.sqrt_nonneg _

theorem Sight.le_taken (s : Sight ℝ) {c : PositionController ℝ} (h : IsPositive c.leashXY)
    (leash : ℝ) : leash * s.errorXY / c.leashXY ≤ s.taken c leash := by
  have ht : Leash.taken leash s.errorXY c.leashXY = leash * s.errorXY / c.leashXY := if_pos h
  rw [taken, maxNum_real, ht]
  exact le_max_right _ _

theorem Sight.taken_eq_zero {s : Sight ℝ} (h : s.error = .zero) (c : PositionController ℝ)
    (leash : ℝ) : s.taken c leash = 0 := by
  have hz : Leash.taken leash s.errorZ (c.leashZ s.error.up) = 0 := by
    simp [Leash.taken, errorZ, h]
  have hxy : Leash.taken leash s.errorXY c.leashXY = 0 := by
    simp [Leash.taken, errorXY, h]
  rw [taken, hz, hxy, maxNum_real, max_self]

theorem Leash.slack_zero {leash : ℝ} (h : 0 < leash) : slack leash 0 = leash := by
  rw [slack, if_pos h, safeSqrt_real, square_real, square_real, mul_zero, sub_zero,
    Real.sqrt_mul_self h.le]

/-- A lead that the slack allows lies with the error in the ellipse of both leashes. -/
theorem Leash.ellipse {leash leashXY error part lead : ℝ} (hl : 0 < leash) (hxy : 0 < leashXY)
    (he : 0 ≤ error) (hp : leash * error / leashXY ≤ part) (hlead : 0 < lead)
    (hs : lead ≤ slack leash part) : (lead / leash) ^ 2 + (error / leashXY) ^ 2 ≤ 1 := by
  have herror : 0 ≤ leash * error / leashXY := by positivity
  have hslack := slack_sq_le (herror.trans hp) (hlead.trans_le hs)
  have hlead_sq : lead ^ 2 ≤ slack leash part ^ 2 := pow_le_pow_left₀ hlead.le hs 2
  have hpart_sq : (leash * error / leashXY) ^ 2 ≤ part ^ 2 := pow_le_pow_left₀ herror hp 2
  have hsum : lead ^ 2 + (leash * error / leashXY) ^ 2 ≤ leash ^ 2 := by nlinarith
  calc
    (lead / leash) ^ 2 + (error / leashXY) ^ 2 =
        (lead ^ 2 + (leash * error / leashXY) ^ 2) / leash ^ 2 := by
      field_simp
    _ ≤ 1 := (div_le_one (by positivity)).mpr hsum

theorem Leash.sq_le_scaled {leash longer : ℝ} (hl : 0 < leash) (h : leash ≤ longer) (length : ℝ) :
    length ^ 2 ≤ longer ^ 2 * (length / leash) ^ 2 := by
  calc
    length ^ 2 = leash ^ 2 * (length / leash) ^ 2 := by
      field_simp
    _ ≤ longer ^ 2 * (length / leash) ^ 2 := by
      gcongr

theorem Leash.sq_add_sq_le {leash leashXY error lead : ℝ} (hl : 0 < leash) (hxy : 0 < leashXY)
    (h : (lead / leash) ^ 2 + (error / leashXY) ^ 2 ≤ 1) :
    lead ^ 2 + error ^ 2 ≤ max leash leashXY ^ 2 := by
  have hlead := sq_le_scaled hl (le_max_left leash leashXY) lead
  have herror := sq_le_scaled hxy (le_max_right leash leashXY) error
  have hscale := mul_le_mul_of_nonneg_left h (sq_nonneg (max leash leashXY))
  linarith

/-- What every state that a flight can come to has. -/
structure Formed (a : Autopilot ℝ) : Prop where
  desired : 0 ≤ a.navigator.track.desired
  leash : Leash.shortest ≤ a.navigator.track.limits.leash
  length : 0 ≤ a.navigator.segment.length
  direction : Segment.IsDirection a.navigator.segment.direction

namespace Autopilot

variable {a : Autopilot ℝ} {r : Readings ℝ}

theorem shortest_le_trackLimits (a : Autopilot ℝ) : Leash.shortest ≤ a.trackLimits.leash :=
  TrackLimits.shortest_le_along_leash _ _

theorem formed_create (p : Params ℝ) (lean : ℝ) (c : PositionController ℝ)
    (saved : List (String × ℝ)) : Formed ⟨.create p lean, c, saved⟩ :=
  ⟨zero_literal.ge, le_rfl, zero_literal.ge, .inr rfl⟩

theorem formed_beginStraight (a : Autopilot ℝ) (r : Readings ℝ) (origin destination : Vec3 ℝ)
    (t : Bool) (x : ℝ) : Formed (a.beginStraight r origin destination t x) :=
  ⟨zero_literal.ge, shortest_le_trackLimits _, Vec3.norm_nonneg _,
    Segment.isDirection_directionOf _⟩

theorem formed_beginSpline (h : Formed a) (now : Nat) (q : SplineRequest ℝ) (x : ℝ) :
    Formed (a.beginSpline now q x) := by
  refine ⟨?_, ?_, Vec3.norm_nonneg _, Segment.isDirection_directionOf _⟩
  · show 0 ≤ a.repairAccel.navigator.track.desired
    rw [repairAccel_track]
    exact h.desired
  · show Leash.shortest ≤ a.repairAccel.navigator.track.limits.leash
    rw [repairAccel_track]
    exact h.leash

theorem formed_start (h : Formed a) : Formed a.start.state := by
  have ht := a.repairAccel_track
  have hs := a.repairAccel_segment
  exact ⟨h.desired.trans_eq (congrArg _ ht.symm),
    h.leash.trans_eq (congrArg (·.limits.leash) ht.symm),
    h.length.trans_eq (congrArg _ hs.symm), hs ▸ h.direction⟩

theorem formed_shift (h : Formed a) (r : Readings ℝ) : Formed (a.shiftToVehicle r) := by
  unfold shiftToVehicle
  split_ifs
  · exact h
  · exact ⟨zero_literal.ge, h.leash, h.length, h.direction⟩

theorem formed_tickStraight (h : Formed a) (r : Readings ℝ) :
    Formed (a.tickStraight r).state := by
  refine ⟨?_, ?_, ?_, ?_⟩
  · cases ho : a.offsetFor r a.navigator.segment.aboveTerrain with
    | error f =>
      rw [tickStraight_track_error a ho]
      exact h.desired
    | ok x =>
      rw [tickStraight_track_ok a ho, a.navigator.movedTrack_desired _ _ h.length]
      exact le_max_left _ _
  · rw [tickStraight_limits]
    split_ifs
    · exact shortest_le_trackLimits _
    · exact h.leash
  · rw [tickStraight_segment]
    exact h.length
  · rw [tickStraight_segment]
    exact h.direction

theorem formed_tickSpline (h : Formed a) (r : Readings ℝ) :
    Formed (a.tickSpline r).state := by
  obtain ⟨_, _, _, _, _, _, _, _, _, _, hn, hturn⟩ := (a.splineTick r).navigator_eq
  refine ⟨?_, ?_, ?_, ?_⟩ <;> rw [hn]
  · exact h.desired
  · rcases hturn with ⟨-, hl⟩ | ⟨-, -, l, hl⟩
    · exact h.leash.trans_eq (congrArg _ hl.symm)
    · exact (TrackLimits.shortest_le_along_leash _ l).trans_eq (congrArg _ hl.symm)
  · exact h.length
  · rcases hturn with ⟨hd, -⟩ | ⟨hv, hd, -⟩
    · exact hd ▸ h.direction
    · exact .inl (hd ▸ Segment.div_norm_dot_self hv)

theorem formed_effect {b : Autopilot ℝ} {e : Event ℝ} (he : e.Effect a b) (h : Formed a) :
    Formed b := by
  cases he with
  | refused r hc => exact h
  | straight r hc hf o d t x hx => exact formed_beginStraight a r o d t x
  | spline r hc hf q x hx => exact formed_beginSpline h r.now q x
  | start r => exact formed_start h
  | shift r => exact formed_shift h r
  | tickStraight r => exact formed_tickStraight h r
  | tickSpline r => exact formed_tickSpline h r
  | _ => exact ⟨h.desired, h.leash, h.length, h.direction⟩

theorem Reachable.formed (h : Reachable a) : Formed a := by
  induction h with
  | created p lean c saved => exact formed_create p lean c saved
  | event _ e ih => exact formed_effect (e.effect _) ih

/-- On a level track the way from the vehicle to the target is a lead along the track and an error
across it. -/
theorem level_distance (s : Segment ℝ) (hs : Segment.IsDirection s.direction)
    (hup : s.direction.up = 0) (position : Vec3 ℝ) (x d : ℝ) :
    let sight := s.sight position x
    (position - s.pointAt d x).horizontal.norm ^ 2 ≤
      (d - sight.covered) ^ 2 + sight.errorXY ^ 2 := by
  intro sight
  set v := position - Vec3.vertical x - s.origin with hv
  set u := s.direction with hu
  have hcovered : sight.covered = v.dot u := rfl
  have herror : sight.errorXY ^ 2 =
      (v.north - u.north * v.dot u) ^ 2 + (v.east - u.east * v.dot u) ^ 2 := by
    refine (Real.sq_sqrt (add_nonneg (mul_self_nonneg _) (mul_self_nonneg _))).trans ?_
    show (v.north - u.north * v.dot u) * (v.north - u.north * v.dot u) +
      (v.east - u.east * v.dot u) * (v.east - u.east * v.dot u) = _
    ring
  have hpoint : (position - s.pointAt d x).horizontal.norm ^ 2 =
      (v.north - u.north * d) ^ 2 + (v.east - u.east * d) ^ 2 := by
    have hnorth : (position - s.pointAt d x).north = v.north - u.north * d := by
      simp [Segment.pointAt, hv, hu]
      ring
    have heast : (position - s.pointAt d x).east = v.east - u.east * d := by
      simp [Segment.pointAt, hv, hu]
      ring
    refine (Real.sq_sqrt (add_nonneg (mul_self_nonneg _) (mul_self_nonneg _))).trans ?_
    simp only [Vec3.horizontal, hnorth, heast]
    ring
  rw [hcovered, herror, hpoint, Vec3.dot_real, hup]
  rcases hs with hone | hzero
  · rw [Vec3.dot_real, hup] at hone
    -- `d` enters by its square alone, which the length of a level direction leaves as it is
    refine le_of_eq ?_
    linear_combination (d ^ 2 - (v.north * u.north + v.east * u.east) ^ 2) * hone
  · rw [hzero]
    simp only [Vec3.zero_north, Vec3.zero_east]
    nlinarith [sq_nonneg d]

theorem approachAt_furthest (a : Autopilot ℝ) (r : Readings ℝ) (x : ℝ) :
    (a.approachAt r x).furthest =
      (a.sightAt r x).covered +
        Leash.slack a.navigator.track.limits.leash
          ((a.sightAt r x).taken a.prepared.controller a.navigator.track.limits.leash) := by
  rw [approachAt, approach]
  simp only [prepared_navigator]

theorem approachAt_furthest_of_sight {a : Autopilot ℝ} {r : Readings ℝ} {x : ℝ}
    (hsight : a.sightAt r x = ⟨0, .zero⟩) (hleash : 0 < a.navigator.track.limits.leash) :
    (a.approachAt r x).furthest = a.navigator.track.limits.leash := by
  rw [approachAt_furthest, hsight, Sight.taken_eq_zero rfl, Leash.slack_zero hleash, zero_add]

theorem approachAt_along_of_rest (a : Autopilot ℝ) {r : Readings ℝ} (hrest : r.velocity = .zero)
    (x : ℝ) : (a.approachAt r x).along = 0 := by
  show r.velocity.dot _ = 0
  rw [hrest]
  simp [Vec3.dot_real]

theorem approachAt_linear_of_gain {a : Autopilot ℝ} (hgain : a.controller.gainXY = 1)
    (r : Readings ℝ) (x : ℝ) : (a.approachAt r x).linear = a.navigator.track.limits.accel := by
  obtain ⟨_, _, _, _, _, hc⟩ := a.prepared_controller
  show a.prepared.linearSpeed = _
  rw [linearSpeed, hc, prepared_navigator, hgain, if_pos (by norm_num [isPositive_real]), div_one]

/-- The leash law. The lead of a target that an update has advanced is within the track leash, and
with the error across the track within the ellipse of both leashes. Without a lead the vehicle is
ahead of the target, and may be as far ahead as it likes. -/
theorem leash_law (h : Reachable a) (hl : IsPositive a.controller.leashXY) (r : Readings ℝ)
    (hok : (a.tickStraight r).fault = none)
    (hup : a.navigator.track.desired < (a.tickStraight r).state.navigator.track.desired) :
    let b := (a.tickStraight r).state
    ∃ x, a.offsetFor r a.navigator.segment.aboveTerrain = .ok x ∧
      let lead := b.navigator.track.desired -
        (r.position - Vec3.vertical x - a.navigator.segment.origin).dot
          a.navigator.segment.direction
      let leash := a.navigator.track.limits.leash
      lead ≤ leash ∧
      (0 < lead →
        (lead / leash) ^ 2 + (b.navigator.track.errorXY / a.controller.leashXY) ^ 2 ≤ 1 ∧
        (a.navigator.segment.direction.up = 0 →
          (r.position - b.controller.positionTarget).horizontal.norm ≤
            max leash a.controller.leashXY)) := by
  intro b
  obtain ⟨x, hx⟩ := exists_offset_of_tickStraight a hok
  have hf := h.formed
  have htrack : b.navigator.track = _ := tickStraight_track_ok a hx
  have htarget : b.controller.positionTarget = _ := tickStraight_target_ok a hx
  refine ⟨x, hx, ?_⟩
  intro lead leash
  have hleash : 0 < leash := lt_of_lt_of_le (by norm_num [Leash.shortest]) hf.leash
  set s := a.sightAt r x with hs
  have hcovered : lead = b.navigator.track.desired - s.covered := rfl
  have herror : b.navigator.track.errorXY = s.errorXY := by rw [htrack]; rfl
  have hpart : leash * s.errorXY / a.controller.leashXY ≤ s.taken a.prepared.controller leash := by
    rw [← prepared_leashXY] at hl ⊢
    exact s.le_taken hl leash
  have hfurthest := a.approachAt_furthest r x
  have hslack : lead ≤ Leash.slack leash (s.taken a.prepared.controller leash) := by
    have hle : b.navigator.track.desired ≤ (a.approachAt r x).furthest := by
      have hup' : a.navigator.track.desired < b.navigator.track.desired := hup
      rw [htrack] at hup' ⊢
      exact a.navigator.movedTrack_desired_le_furthest _ s hf.length hf.desired hup'
    rw [hfurthest] at hle
    rw [hcovered]
    linarith
  have hpart_nonneg : 0 ≤ s.taken a.prepared.controller leash := by
    refine le_trans ?_ hpart
    have := s.errorXY_nonneg
    have := hl.pos
    positivity
  refine ⟨hslack.trans (Leash.slack_le hleash.le hpart_nonneg), fun hlead ↦ ?_⟩
  have hellipse := Leash.ellipse hleash hl.pos s.errorXY_nonneg hpart hlead hslack
  rw [herror]
  refine ⟨hellipse, fun hlevel ↦ ?_⟩
  rw [htarget]
  have hdistance := level_distance a.navigator.segment hf.direction hlevel r.position x
    b.navigator.track.desired
  have hnear := Leash.sq_add_sq_le hleash hl.pos hellipse
  exact (sq_le_sq₀ (Real.sqrt_nonneg _) (hleash.le.trans (le_max_left _ _))).mp
    (hdistance.trans hnear)

/-- A vehicle at rest at the origin of a segment that leads north. -/
noncomputable def northward (length : ℝ) : Autopilot ℝ :=
  ((Command.straight .zero ⟨length, 0, 0⟩ false).run Simulation.standard.readings
    Simulation.standard.autopilot).state

section Northward

variable {length : ℝ}

theorem northward_leashXY : (northward length).controller.leashXY = 1300 := by
  show Leash.length (500.0 : ℝ) 100.0 1.0 = 1300
  norm_num [Leash.length, Leash.shortest]

theorem northward_direction (h : IsPositive length) :
    (northward length).navigator.segment.direction = ⟨1, 0, 0⟩ := by
  show Segment.directionOf (⟨length, 0, 0⟩ - .zero : Vec3 ℝ) = ⟨1, 0, 0⟩
  rw [Vec3.sub_zero, Segment.directionOf_north h]

theorem northward_length (h : 0 ≤ length) :
    (northward length).navigator.segment.length = length := by
  show (⟨length, 0, 0⟩ - .zero : Vec3 ℝ).norm = length
  rw [Vec3.sub_zero, Vec3.norm_north h]

theorem northward_desired : (northward length).navigator.track.desired = 0 := zero_literal

theorem northward_limits (h : IsPositive length) :
    (northward length).navigator.track.limits = ⟨100, 500, 1300, 625⟩ := by
  have hlimits : (northward length).navigator.track.limits =
      .along (northward length).navigator.segment.direction
        ((northward length).controller.axisLimits (northward length).navigator.params.accel
          (northward length).navigator.params.accelZ) := rfl
  have hparams : (northward length).navigator.params = .standard := Params.within_standard
  rw [hlimits, northward_direction h, TrackLimits.along_north, PositionController.axisLimits,
    northward_leashXY, hparams]
  show TrackLimits.mk (100.0 : ℝ) 500.0 _ (Leash.slowDownDistance 500.0 100.0) = _
  norm_num [Leash.shortest, Leash.slowDownDistance]

theorem northward_not_opposed (h : IsPositive length) {r : Readings ℝ}
    (hrest : r.velocity = .zero) (x : ℝ) :
    ¬ ((northward length).approachAt r x).Opposed := by
  rw [Approach.Opposed, approachAt_along_of_rest _ hrest, approachAt_linear_of_gain one_literal,
    northward_limits h]
  norm_num

theorem northward_offset (r : Readings ℝ) :
    (northward length).offsetFor r (northward length).navigator.segment.aboveTerrain = .ok 0.0 :=
  rfl

theorem northward_sight :
    (northward length).sightAt Simulation.standard.readings 0.0 = ⟨0, .zero⟩ := by
  have hposition : (Simulation.standard : Simulation ℝ).readings.position - Vec3.vertical 0.0 -
      (northward length).navigator.segment.origin = .zero := by
    show (.zero - Vec3.vertical 0.0 - .zero : Vec3 ℝ) = .zero
    ext <;> simp
  have hcovered : (Vec3.zero : Vec3 ℝ).dot (northward length).navigator.segment.direction = 0 := by
    simp [Vec3.dot_real]
  rw [sightAt, Segment.sight, hposition, hcovered]
  ext <;> simp

theorem northward_furthest (h : IsPositive length) :
    ((northward length).approachAt Simulation.standard.readings 0.0).furthest = 1300 := by
  rw [approachAt_furthest_of_sight northward_sight (by norm_num [northward_limits h]),
    northward_limits h]

theorem northward_moves (h : IsPositive length) {r : Readings ℝ} (hrest : r.velocity = .zero)
    (hroom : 0 < ((northward length).approachAt r 0.0).furthest) :
    (northward length).navigator.track.desired <
      ((northward length).tickStraight r).state.navigator.track.desired := by
  have hdt : 0 < ((northward length).approachAt r 0.0).dt := by
    show (0 : ℝ) < 0.01
    norm_num
  have hfar : (northward length).navigator.track.desired <
      ((northward length).approachAt r 0.0).furthest := by
    rwa [northward_desired]
  have hlimited : 0 ≤ (northward length).navigator.track.limitedSpeed := by
    show 0 ≤ constrain _ 0.0 (500.0 : ℝ)
    rw [zero_literal]
    exact le_constrain (by norm_num)
  have hspeed := (northward length).navigator.targetSpeed_pos _ hdt hfar
    (northward_not_opposed h hrest 0.0) (by rw [northward_limits h]; norm_num)
    (by rw [northward_limits h]; norm_num) hlimited
  have hlength := northward_length h.pos.le
  have hend : (northward length).navigator.track.desired <
      (northward length).navigator.trackEnd := by
    have hfast : (northward length).navigator.flags.fast = false := rfl
    rw [northward_desired, Navigator.trackEnd, hlength, hfast, if_neg Bool.false_ne_true]
    exact h.pos
  rw [tickStraight_track_ok (northward length) (northward_offset r)]
  exact (northward length).navigator.lt_movedTrack _ ((northward length).sightAt r 0.0) hdt hfar
    (hlength.ge.trans' h.pos.le) hspeed hend

theorem northward_advances (h : IsPositive length) :
    (northward length).navigator.track.desired <
      ((northward length).tickStraight
        Simulation.standard.readings).state.navigator.track.desired := by
  refine northward_moves h rfl ?_
  rw [northward_furthest h]
  norm_num

end Northward

theorem leash_law_flight :
    let s : Simulation ℝ := .standard
    let a := ((Command.straight .zero ⟨5000, 0, 0⟩ false).run s.readings s.autopilot).state
    let b := (a.tickStraight s.readings).state
    Reachable a ∧ IsPositive a.controller.leashXY ∧ (a.tickStraight s.readings).fault = none ∧
      a.navigator.track.desired < b.navigator.track.desired ∧
      ∃ x, a.offsetFor s.readings a.navigator.segment.aboveTerrain = .ok x ∧
        let lead := b.navigator.track.desired -
          (s.readings.position - Vec3.vertical x - a.navigator.segment.origin).dot
            a.navigator.segment.direction
        0 < lead ∧ lead ≤ a.navigator.track.limits.leash ∧
          (s.readings.position - b.controller.positionTarget).horizontal.norm ≤
            max a.navigator.track.limits.leash a.controller.leashXY := by
  intro s a b
  have hreach : Reachable a := (Reachable.created _ _ _ _).event (.call _ _)
  have hlength : IsPositive (5000 : ℝ) := by norm_num [isPositive_real]
  have hpos : IsPositive a.controller.leashXY := by
    show IsPositive (northward 5000).controller.leashXY
    rw [northward_leashXY]
    norm_num [isPositive_real]
  have hok : (a.tickStraight s.readings).fault = none := by
    rw [tickStraight_ok a (northward_offset _)]
    rfl
  have hup : a.navigator.track.desired < b.navigator.track.desired := northward_advances hlength
  obtain ⟨x, hx, hle, hlaw⟩ := leash_law hreach hpos s.readings hok hup
  have hlead : 0 < b.navigator.track.desired -
      (s.readings.position - Vec3.vertical x - a.navigator.segment.origin).dot
        a.navigator.segment.direction := by
    obtain rfl : 0.0 = x := Except.ok.inj ((northward_offset _).symm.trans hx)
    have hcovered := congrArg Sight.covered (@northward_sight 5000)
    have hzero : a.navigator.track.desired = 0 := zero_literal
    rw [hzero] at hup
    exact hup.trans_eq ((sub_zero _).symm.trans (congrArg _ hcovered.symm))
  have hlevel : a.navigator.segment.direction.up = 0 :=
    congrArg Vec3.up (northward_direction hlength)
  exact ⟨hreach, hpos, hok, hup, x, hx, hlead, hle, (hlaw hlead).2 hlevel⟩

end Autopilot

end WaypointFlight
