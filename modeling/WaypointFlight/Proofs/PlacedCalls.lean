import WaypointFlight.Proofs.PlacedPoints
import WaypointFlight.Proofs.SplineTicks

namespace WaypointFlight

open Scalar

noncomputable def SplineRequest.placed (q : SplineRequest ℝ) (m : Placement) : SplineRequest ℝ :=
  { q with
    origin := m.place q.origin
    destination := m.place q.destination
    following := q.following.placed m }

def Join.turned (j : Join ℝ) (m : Placement) : Join ℝ := { j with originVel := m.turn j.originVel }

/-- The call for points seen from the other world origin. -/
noncomputable def Command.placed (m : Placement) : Command ℝ → Command ℝ
  | .straightTo destination t => .straightTo (m.place destination) t
  | .straight origin destination t => .straight (m.place origin) (m.place destination) t
  | .splineTo destination t stopped following =>
    .splineTo (m.place destination) t stopped (following.placed m)
  | .spline q => .spline (q.placed m)
  | c => c

/-- All points that the call gives are vectors from the world origin. -/
def Command.ByVectors {α : Type} : Command α → Prop
  | .straightTo _ t | .straight _ _ t | .splineTo _ t _ _ => t = false
  | .spline q => q.aboveTerrain = false
  | .straightToLocation _ | .straightToNED _ | .splineToLocation .. => False
  | _ => True

def Command.IsTick {α : Type} : Command α → Prop
  | .tickStraight | .tickSpline => True
  | _ => False

structure Placement.Reads (m : Placement) (r r' : Readings ℝ) : Prop where
  now : r'.now = r.now
  position : r'.position = m.place r.position
  velocity : r'.velocity = m.turn r.velocity

theorem PositionController.startedController_placed (c : PositionController ℝ) (m : Placement)
    (p : Params ℝ) :
    Autopilot.startedController (c.placed m) p = (Autopilot.startedController c p).placed m := by
  have hrest : (c.placed m).reset.setVelocityXY .zero = (c.reset.setVelocityXY .zero).placed m := by
    have hup : (⟨0.0, 0.0, c.vehicleVelocity.up⟩ : Vec3 ℝ) =
        m.turn ⟨0.0, 0.0, c.vehicleVelocity.up⟩ := by
      ext <;> simp [Placement.turn]
    show ({ (c.placed m).reset with velocityTarget := ⟨0.0, 0.0, c.vehicleVelocity.up⟩ } :
      PositionController ℝ) = _
    rw [hup]
    rfl
  simp only [Autopilot.startedController, hrest, limitSpeedXY_placed, limitAccelXY_placed,
    limitSpeedZ_placed, limitAccelZ_placed]
  rfl

namespace Autopilot

noncomputable def placed (a : Autopilot ℝ) (m : Placement) (s : Segment ℝ) (k : HermiteCurve ℝ)
    (h : Option ℝ) : Autopilot ℝ :=
  { a with
    navigator.segment := s
    navigator.spline.originVel := m.turn a.navigator.spline.originVel
    navigator.spline.destinationVel := m.turn a.navigator.spline.destinationVel
    navigator.spline.curve := k
    navigator.heading := h
    controller := a.controller.placed m }

variable (a : Autopilot ℝ) (m : Placement) (s : Segment ℝ) (k : HermiteCurve ℝ) (h : Option ℝ)

theorem placed_controller : (a.placed m s k h).controller = a.controller.placed m := rfl

theorem placed_ite (p : Prop) [Decidable p] (b : Autopilot ℝ) :
    (if p then a else b).placed m s k h = if p then a.placed m s k h else b.placed m s k h :=
  apply_ite (·.placed m s k h) p a b

theorem repairAccel_placed : (a.placed m s k h).repairAccel = a.repairAccel.placed m s k h := by
  unfold repairAccel
  rw [placed_ite]
  rfl

theorem start_placed : (a.placed m s k h).start = a.start.map (·.placed m s k none) := by
  simp only [start, repairAccel_placed, placed_controller,
    PositionController.startedController_placed]
  rfl

theorem requestSpeed_placed (v : ℝ) :
    (a.placed m s k h).requestSpeed v = (a.requestSpeed v).placed m s k h := by
  unfold requestSpeed
  rw [placed_ite]
  rfl

theorem setSpeedUp_placed (v : ℝ) :
    (a.placed m s k h).setSpeedUp v = (a.setSpeedUp v).placed m s k h := by
  simp only [setSpeedUp, placed_controller, PositionController.limitSpeedZ_placed]
  rfl

theorem setSpeedDown_placed (v : ℝ) :
    (a.placed m s k h).setSpeedDown v = (a.setSpeedDown v).placed m s k h := by
  simp only [setSpeedDown, placed_controller, PositionController.limitSpeedZ_placed]
  rfl

theorem govern_placed (speed : Option ℝ) :
    (a.placed m s k h).govern speed = (a.govern speed).placed m s k h := by
  cases speed with
  | none => rfl
  | some speed =>
    simp only [govern, placed_controller, PositionController.limitSpeedXY_placed]
    rfl

theorem pushAccels_placed : (a.placed m s k h).pushAccels = a.pushAccels.placed m s k h := by
  simp only [pushAccels, placed_controller, PositionController.limitAccelXY_placed,
    PositionController.limitAccelZ_placed]
  rfl

theorem prepared_placed : (a.placed m s k h).prepared = a.prepared.placed m s k h := by
  rw [prepared, pushAccels_placed, govern_placed]
  rfl

theorem governed_placed : (a.placed m s k h).governed = a.governed.placed m s k h :=
  a.govern_placed m s k h _

theorem freezeIfNew_placed : (a.placed m s k h).freezeIfNew = a.freezeIfNew.placed m s k h := by
  unfold freezeIfNew
  rw [placed_ite]
  rfl

theorem finishTick_placed (now : Nat) :
    (a.placed m s k h).finishTick now = (a.finishTick now).placed m s k h := by
  simp only [finishTick, freezeIfNew_placed, placed_controller, PositionController.update_placed]
  rfl

theorem defaultOrigin_placed (now : Nat) :
    (a.placed m s k h).defaultOrigin now = m.place (a.defaultOrigin now) := by
  simp only [defaultOrigin, placed_controller, PositionController.stoppingPoint_placed,
    apply_ite m.place]
  rfl

variable {a m s k h} {r r' : Readings ℝ}

theorem trackLimits_placed (hs : s = a.navigator.segment.placed m) :
    (a.placed m s k h).trackLimits = a.trackLimits := by
  subst hs
  exact TrackLimits.along_turn m _ _

theorem refreshLimits_placed (hs : s = a.navigator.segment.placed m) :
    (a.placed m s k h).refreshLimits = a.refreshLimits.placed m s k h := by
  rw [refreshLimits, trackLimits_placed hs]
  rfl

theorem refreshStaleLimits_placed (hs : s = a.navigator.segment.placed m) :
    (a.placed m s k h).refreshStaleLimits = a.refreshStaleLimits.placed m s k h := by
  unfold refreshStaleLimits
  rw [placed_ite, refreshLimits_placed hs]
  rfl

theorem settleTick_placed (hs : s = a.navigator.segment.placed m) (now : Nat) :
    (a.placed m s k h).settleTick now = (a.settleTick now).placed m s k h := by
  have hfinish : (a.finishTick now).navigator.segment = a.navigator.segment := by
    rw [finishTick_navigator]
  rw [settleTick, finishTick_placed, refreshStaleLimits_placed (hfinish ▸ hs)]
  rfl

theorem beginStraight_placed (hr : m.Reads r r') (origin destination : Vec3 ℝ) :
    (a.placed m s k h).beginStraight r' (m.place origin) (m.place destination) false 0.0 =
      (a.beginStraight r origin destination false 0.0).placed m
        ((Segment.between .straight false origin destination).placed m) k none := by
  simp only [beginStraight, refreshLimits, trackLimits, Segment.between_placed,
    Segment.placed_direction, TrackLimits.along_turn, hr.velocity, m.dot_turn,
    m.place_add_vertical]
  rfl

theorem shiftToVehicle_placed (hr : m.Reads r r') :
    ∃ s', (a.placed m s k h).shiftToVehicle r' = (a.shiftToVehicle r).placed m s' k h ∧
      (s = a.navigator.segment.placed m →
        s' = (a.shiftToVehicle r).navigator.segment.placed m) := by
  unfold shiftToVehicle
  by_cases hmoved : 0.0 < a.navigator.track.desired
  · rw [if_pos hmoved, if_pos (show 0.0 < (a.placed m s k h).navigator.track.desired from hmoved)]
    exact ⟨s, rfl, id⟩
  · rw [if_neg hmoved, if_neg (show ¬ 0.0 < (a.placed m s k h).navigator.track.desired from hmoved),
      hr.position]
    refine ⟨_, rfl, ?_⟩
    rintro rfl
    simp only [placed, PositionController.placed, Segment.placed, m.place_sub_place,
      m.place_add_turn]

theorem join_placed (hs : a.navigator.flags.reached = true → s = a.navigator.segment.placed m)
    (now : Nat) (q : SplineRequest ℝ) :
    (a.placed m s k h).join now (q.placed m) = (a.join now q).turned m := by
  unfold join
  by_cases hrest : q.stoppedAtStart = true ∨ ¬ a.CanJoin now
  · have hrest' : (q.placed m).stoppedAtStart = true ∨ ¬ (a.placed m s k h).CanJoin now := hrest
    rw [if_pos hrest, if_pos hrest']
    simp only [SplineRequest.placed, m.place_sub_place, Join.turned, m.turn_mul]
    rfl
  · have hrest' : ¬ ((q.placed m).stoppedAtStart = true ∨ ¬ (a.placed m s k h).CanJoin now) :=
      hrest
    obtain rfl := hs (not_not.mp (not_or.mp hrest).2).1
    have hkind : (a.placed m (a.navigator.segment.placed m) k h).navigator.segment.kind =
        a.navigator.segment.kind := rfl
    rw [if_neg hrest, if_neg hrest']
    cases hk : a.navigator.segment.kind with
    | straight =>
      simp only [hkind, hk, Join.turned, ← m.place_sub_place]
      exact congrArg (Join.mk _ _) (m.norm_turn a.controller.velocityTarget)
    | spline =>
      simp only [hkind, hk]
      rfl

theorem joinedSpline_placed
    (hs : a.navigator.flags.reached = true → s = a.navigator.segment.placed m) (now : Nat)
    (q : SplineRequest ℝ) :
    let t := a.joinedSpline now q
    (a.placed m s k h).joinedSpline now (q.placed m) =
      { t with
        originVel := m.turn t.originVel
        destinationVel := m.turn t.destinationVel
        curve := t.curve.placed m } := by
  simp only [joinedSpline, join_placed hs]
  simp only [SplineRequest.placed, SegmentEnd.velocity_placed]
  rw [← Boundary.solve_placed, ← Boundary.scaled_placed]
  rfl

theorem beginSpline_placed
    (hs : a.navigator.flags.reached = true → s = a.navigator.segment.placed m) (now : Nat)
    (q : SplineRequest ℝ) :
    (a.placed m s k h).beginSpline now (q.placed m) 0.0 =
      (a.beginSpline now q 0.0).placed m
        ((Segment.between .spline q.aboveTerrain q.origin q.destination).placed m)
        ((a.beginSpline now q 0.0).navigator.spline.curve.placed m) none := by
  have hs' : a.repairAccel.navigator.flags.reached = true →
      s = a.repairAccel.navigator.segment.placed m := by
    rwa [repairAccel_flags, repairAccel_segment]
  simp only [beginSpline, repairAccel_placed, joinedSpline_placed hs']
  simp only [SplineRequest.placed, Segment.between_placed, m.place_add_vertical,
    SegmentEnd.isFast_placed]
  rfl

theorem approach_placed (hs : s = a.navigator.segment.placed m) (hr : m.Reads r r') (i : Sight ℝ)
    (dt : ℝ) : (a.placed m s k h).approach r' (i.turned m) dt = a.approach r i dt := by
  subst hs
  have halong : r'.velocity.dot (m.turn a.navigator.segment.direction) =
      r.velocity.dot a.navigator.segment.direction := by
    rw [hr.velocity, m.dot_turn]
  unfold approach
  simp only [placed, Segment.placed_direction, Sight.taken_turned, halong]
  rfl

theorem movedTrack_placed (hs : s = a.navigator.segment.placed m) (i : Sight ℝ) (v : Approach ℝ) :
    (a.placed m s k h).navigator.movedTrack (i.turned m) v = a.navigator.movedTrack i v := by
  subst hs
  unfold Navigator.movedTrack
  rw [Sight.errorXY_turned]
  rfl

theorem arrives_placed (hs : s = a.navigator.segment.placed m) (position : Vec3 ℝ) (desired : ℝ) :
    (a.placed m s k h).navigator.arrives (m.place position) 0.0 desired =
      a.navigator.arrives position 0.0 desired := by
  subst hs
  unfold Navigator.arrives
  simp only [placed, Segment.placed, m.place_sub_vertical_sub_place, m.norm_turn]
  rfl

theorem advanceStraight_placed (hs : s = a.navigator.segment.placed m) (hr : m.Reads r r')
    (dt : ℝ) : ∃ h', (a.placed m s k h).advanceStraight r' dt 0.0 =
      (a.advanceStraight r dt 0.0).placed m s k h' := by
  have hsight : (a.placed m s k h).navigator.segment.sight (m.place r.position) 0.0 =
      (a.navigator.segment.sight r.position 0.0).turned m := by
    rw [← Segment.sight_placed, ← hs]
    rfl
  have hpoint (distance : ℝ) : (a.placed m s k h).navigator.segment.pointAt distance 0.0 =
      m.place (a.navigator.segment.pointAt distance 0.0) := by
    rw [← Segment.pointAt_placed, ← hs]
    rfl
  have hslows (v : Approach ℝ) :
      (a.placed m s k h).navigator.slowsDown v = a.navigator.slowsDown v := by
    subst hs
    rfl
  simp only [advanceStraight, Navigator.choose_eq, hr.position, hsight, approach_placed hs hr,
    movedTrack_placed hs, hpoint, hslows, arrives_placed hs]
  exact ⟨_, rfl⟩

theorem offsetFor_level {t : Bool} (ht : t = false) (a : Autopilot ℝ) (r : Readings ℝ) :
    a.offsetFor r t = .ok 0.0 := by
  subst ht
  rfl

theorem tickStraight_placed (hs : s = a.navigator.segment.placed m)
    (hlevel : a.navigator.segment.aboveTerrain = false) (hr : m.Reads r r') :
    ∃ h', (a.placed m s k h).tickStraight r' = (a.tickStraight r).map (·.placed m s k h') := by
  have hlevel' : (a.placed m s k h).navigator.segment.aboveTerrain = false :=
    (congrArg Segment.aboveTerrain hs).trans hlevel
  have hprepared : s = a.prepared.navigator.segment.placed m := by rw [prepared_navigator, hs]
  obtain ⟨h', hadvance⟩ :=
    advanceStraight_placed (k := k) (h := h) hprepared hr a.controller.period
  have hadvanced :
      s = (a.prepared.advanceStraight r a.controller.period 0.0).navigator.segment.placed m := by
    rw [advanceStraight_navigator, Navigator.choose_eq]
    exact hprepared
  refine ⟨h', ?_⟩
  rw [tickStraight_ok a (offsetFor_level hlevel a r),
    tickStraight_ok _ (offsetFor_level hlevel' _ r'), prepared_placed, hr.now]
  show Outcome.done (((a.prepared.placed m s k h).advanceStraight r' a.controller.period
    0.0).settleTick r.now) [] = _
  rw [hadvance, settleTick_placed hadvanced]
  rfl

theorem turnTo_placed (hs : s = a.navigator.segment.placed m) (v : Vec3 ℝ) :
    (a.placed m s k h).turnTo (m.turn v) =
      (a.turnTo v).placed m ((a.turnTo v).navigator.segment.placed m) k h := by
  subst hs
  simp only [turnTo, refreshLimits, trackLimits, m.norm_turn, ← m.turn_div, TrackLimits.along_turn]
  rfl

theorem splineSlack_placed (i : Sight ℝ) :
    (a.placed m s k h).splineSlack (i.turned m) = a.splineSlack i := by
  unfold splineSlack
  rw [Sight.errorXY_turned]
  rfl

theorem advanceSplineFrom_placed (hs : s = a.navigator.segment.placed m) (hr : m.Reads r r')
    (dt : ℝ) (target velocity : Vec3 ℝ) :
    ∃ h', (a.placed m s k h).advanceSplineFrom r' dt 0.0 (m.place target) (m.turn velocity) =
      (a.advanceSplineFrom r dt 0.0 target velocity).placed m s k h' := by
  subst hs
  let sight : Sight ℝ :=
    ⟨0.0, { r.position - target with up := (r.position - target).up - 0.0 }⟩
  have hsight : (⟨0.0, { m.turn (r.position - target) with
      up := (m.turn (r.position - target)).up - 0.0 }⟩ : Sight ℝ) = sight.turned m := rfl
  have hdistance : ((a.placed m (a.navigator.segment.placed m) k h).navigator.segment.destination -
      m.place target).norm = (a.navigator.segment.destination - target).norm :=
    (congrArg Vec3.norm (m.place_sub_place _ _)).trans (m.norm_turn _)
  have htarget : ({ m.place target with up := (m.place target).up + 0.0 } : Vec3 ℝ) =
      m.place { target with up := target.up + 0.0 } := by
    ext
    · rfl
    · rfl
    · exact add_right_comm target.up m.shift.up 0.0
  simp only [advanceSplineFrom, Navigator.choose_eq, hr.position, m.place_sub_place, hsight,
    splineSlack_placed, Sight.errorXY_turned, hdistance, htarget, m.norm_turn]
  exact ⟨_, rfl⟩

theorem tryAdvanceSpline_placed (hs : s = a.navigator.segment.placed m)
    (hk : k = a.navigator.spline.curve.placed m)
    (hlevel : a.navigator.segment.aboveTerrain = false) (hr : m.Reads r r') (dt : ℝ) :
    ∃ s' h', s' = (a.tryAdvanceSpline r dt).state.navigator.segment.placed m ∧
      (a.placed m s k h).tryAdvanceSpline r' dt =
        (a.tryAdvanceSpline r dt).map (·.placed m s' k h') := by
  have hlevel' : (a.placed m s k h).navigator.segment.aboveTerrain = false :=
    (congrArg Segment.aboveTerrain hs).trans hlevel
  have hvelocity : (a.placed m s k h).navigator.spline.curve.velocity
      (a.placed m s k h).navigator.spline.time = m.turn a.curveVelocity := by
    rw [curveVelocity, ← HermiteCurve.velocity_placed, ← hk]
    rfl
  have hposition : (a.placed m s k h).navigator.spline.curve.position
      (a.placed m s k h).navigator.spline.time = m.place a.curvePosition := by
    rw [curvePosition, ← HermiteCurve.position_placed, ← hk]
    rfl
  have hreached : (a.placed m s k h).navigator.flags.reached = a.navigator.flags.reached := rfl
  obtain ⟨h', hadvance⟩ := advanceSplineFrom_placed (k := k) (h := h)
    (a := a.turnTo a.curveVelocity) rfl hr dt a.curvePosition a.curveVelocity
  -- both decide by the speed of the curve, which the turn leaves as it is
  simp only [tryAdvanceSpline, offsetFor_level hlevel, offsetFor_level hlevel', hvelocity,
    hposition, m.norm_turn, hreached, turnTo_placed hs]
  rw [← curveVelocity, ← curvePosition]
  split_ifs
  · exact ⟨s, h, hs, rfl⟩
  · exact ⟨s, h, hs, rfl⟩
  · refine ⟨_, h', ?_, congrArg (Outcome.done · []) hadvance⟩
    obtain ⟨_, _, _, _, _, _, hn⟩ := (a.turnTo a.curveVelocity).advanceSplineFrom_navigator r dt 0.0
      a.curvePosition a.curveVelocity
    exact congrArg (·.segment.placed m) hn.symm

theorem tickSpline_placed (hs : s = a.navigator.segment.placed m)
    (hk : a.navigator.segment.kind = .spline → k = a.navigator.spline.curve.placed m)
    (hlevel : a.navigator.segment.aboveTerrain = false) (hr : m.Reads r r') :
    ∃ s' h', s' = (a.tickSpline r).state.navigator.segment.placed m ∧
      (a.placed m s k h).tickSpline r' = (a.tickSpline r).map (·.placed m s' k h') := by
  have hkind : (a.placed m s k h).navigator.segment.kind = a.navigator.segment.kind := by
    rw [hs]
    rfl
  cases hspline : a.navigator.segment.kind with
  | straight =>
    simp only [tickSpline, hkind, hspline]
    exact ⟨s, h, hs, rfl⟩
  | spline =>
    have hgoverned : a.governed.navigator.segment = a.navigator.segment := by
      rw [governed_navigator]
    have hcurve : k = a.governed.navigator.spline.curve.placed m := by
      rw [hk hspline, governed_navigator]
    obtain ⟨s', h', hs', htry⟩ := tryAdvanceSpline_placed (h := h) (hgoverned ▸ hs) hcurve
      (hgoverned ▸ hlevel) hr a.controller.period
    have htick : a.tickSpline r =
        (a.governed.tryAdvanceSpline r a.controller.period).map (·.finishTick r.now) := by
      simp only [tickSpline, hspline]
      rfl
    have htick' : (a.placed m s k h).tickSpline r' =
        ((a.governed.placed m s k h).tryAdvanceSpline r' a.controller.period).map
          (·.finishTick r.now) := by
      simp only [tickSpline, hkind, hspline, ← governed_placed, hr.now]
      rfl
    refine ⟨s', h', ?_, ?_⟩
    · rw [hs', htick]
      simp only [Outcome.map, finishTick_navigator]
    · rw [htick', htry, htick]
      simp only [Outcome.map, finishTick_placed]

theorem run_keeps_placed {c : Command ℝ} (hset : c.sets = none)
    (hs : c.IsTick → s = a.navigator.segment.placed m)
    (hk : c.IsTick → a.navigator.segment.kind = .spline → k = a.navigator.spline.curve.placed m)
    (hlevel : a.navigator.segment.aboveTerrain = false) (hr : m.Reads r r') :
    ∃ s' h', (s = a.navigator.segment.placed m →
        s' = (c.run r a).state.navigator.segment.placed m) ∧
      (c.placed m).run r' (a.placed m s k h) = (c.run r a).map (·.placed m s' k h') := by
  cases c with
  | start =>
    have hsegment : a.start.state.navigator.segment = a.navigator.segment := a.repairAccel_segment
    exact ⟨s, none, fun hs ↦ hs.trans (congrArg (Segment.placed · m) hsegment.symm),
      a.start_placed m s k h⟩
  | shift =>
    obtain ⟨s', hshift, hs'⟩ := shiftToVehicle_placed (a := a) (s := s) (k := k) (h := h) hr
    exact ⟨s', h, hs', congrArg (Outcome.done · []) hshift⟩
  | tickStraight =>
    obtain ⟨h', htick⟩ := tickStraight_placed (k := k) (h := h) (hs trivial) hlevel hr
    exact ⟨s, h', fun hs ↦ hs.trans (congrArg (Segment.placed · m) (a.tickStraight_segment r).symm),
      htick⟩
  | tickSpline =>
    obtain ⟨s', h', hs', htick⟩ :=
      tickSpline_placed (h := h) (hs trivial) (hk trivial) hlevel hr
    exact ⟨s', h', fun _ ↦ hs', htick⟩
  | requestSpeed v =>
    have hsegment : (a.requestSpeed v).navigator.segment = a.navigator.segment := by
      unfold requestSpeed
      split_ifs <;> rfl
    exact ⟨s, h, fun hs ↦ hs.trans (congrArg (Segment.placed · m) hsegment.symm),
      congrArg (Outcome.done · []) (a.requestSpeed_placed m s k h v)⟩
  | setSpeedUp v =>
    exact ⟨s, h, id, congrArg (Outcome.done · []) (a.setSpeedUp_placed m s k h v)⟩
  | setSpeedDown v =>
    exact ⟨s, h, id, congrArg (Outcome.done · []) (a.setSpeedDown_placed m s k h v)⟩
  | setFast fast => exact ⟨s, h, id, rfl⟩
  | _ => cases hset

end Autopilot

namespace Command

variable {α : Type} [Analytic α] {c : Command α} (r : Readings α) (a : Autopilot α)

theorem run_keeps_path (hset : c.sets = none) :
    (c.run r a).state.navigator.segment.kind = a.navigator.segment.kind ∧
      (c.run r a).state.navigator.segment.aboveTerrain = a.navigator.segment.aboveTerrain ∧
      (c.run r a).state.navigator.spline.curve = a.navigator.spline.curve := by
  by_cases hshift : c = .shift
  · subst hshift
    simp only [run, Outcome.done, Autopilot.shiftToVehicle]
    split_ifs <;> exact ⟨rfl, rfl, rfl⟩
  · obtain ⟨_, hsegment, hcurve⟩ := c.run_path r a hset hshift
    rw [hsegment]
    exact ⟨rfl, rfl, hcurve⟩

theorem run_keeps_reached (hset : c.sets = none) (htick : ¬ c.IsTick) :
    (c.run r a).state.navigator.flags.reached = a.navigator.flags.reached := by
  cases c with
  | start => exact congrArg (·.reached) a.repairAccel_flags
  | shift =>
    simp only [run, Outcome.done, Autopilot.shiftToVehicle]
    split_ifs <;> rfl
  | requestSpeed v =>
    simp only [run, Outcome.done, Autopilot.requestSpeed]
    split_ifs <;> rfl
  | tickStraight | tickSpline => exact absurd trivial htick
  | setSpeedUp | setSpeedDown | setFast => rfl
  | _ => cases hset

end Command

/-- The second autopilot is the first as seen from the other world origin. Both are on the same
segment and curve from the first destination on, which is when `set` holds. -/
structure Placement.Sees (m : Placement) (set : Prop) (a a' : Autopilot ℝ) : Prop where
  image : ∃ s k h, a' = a.placed m s k h
  segment : set → a'.navigator.segment = a.navigator.segment.placed m
  curve : set → a.navigator.segment.kind = .spline →
    a'.navigator.spline.curve = a.navigator.spline.curve.placed m
  level : a.navigator.segment.aboveTerrain = false
  reached : a.navigator.flags.reached = true → set

namespace Placement.Sees

variable {m : Placement} {set : Prop} {a a' : Autopilot ℝ} {r r' : Readings ℝ}

theorem create (m : Placement) (p : Params ℝ) (lean period gainXY gainZ : ℝ) (x : Vec3 ℝ)
    (saved : List (String × ℝ)) :
    m.Sees False ⟨.create p lean, .create period gainXY gainZ x, saved⟩
      ⟨.create p lean, .create period gainXY gainZ (m.place x), saved⟩ := by
  refine ⟨⟨.initial, HermiteCurve.zero, none, ?_⟩, False.elim, False.elim, rfl, fun h ↦ ?_⟩
  · simp only [Autopilot.placed, Navigator.create, PositionController.create_placed, m.turn_zero]
  · cases h

theorem moved (ha : m.Sees set a a') (position velocity : Vec3 ℝ) :
    m.Sees set
      { a with
        controller.vehiclePosition := position
        controller.vehicleVelocity := velocity }
      { a' with
        controller.vehiclePosition := m.place position
        controller.vehicleVelocity := m.turn velocity } := by
  obtain ⟨s, k, h, rfl⟩ := ha.image
  exact { ha with image := ⟨s, k, h, rfl⟩ }

theorem setStraight (ha : m.Sees set a a') (hr : m.Reads r r') (origin destination : Vec3 ℝ) :
    let o := a.setStraight r origin destination false
    let o' := a'.setStraight r' (m.place origin) (m.place destination) false
    o'.fault = o.fault ∧ m.Sees True o.state o'.state := by
  obtain ⟨s, k, h, rfl⟩ := ha.image
  have hbegin := Autopilot.beginStraight_placed (a := a) (s := s) (k := k) (h := h) hr origin
    destination
  exact ⟨rfl, ⟨_, _, _, hbegin⟩, fun _ ↦ congrArg (·.navigator.segment) hbegin,
    fun _ hk ↦ (SegmentKind.noConfusion hk), rfl, fun _ ↦ trivial⟩

theorem setSpline (ha : m.Sees set a a') (hr : m.Reads r r') (q : SplineRequest ℝ)
    (hq : q.aboveTerrain = false) :
    let o := a.setSpline r q
    let o' := a'.setSpline r' (q.placed m)
    o'.fault = o.fault ∧ m.Sees True o.state o'.state := by
  obtain ⟨s, k, h, rfl⟩ := ha.image
  have hs : a.navigator.flags.reached = true → s = a.navigator.segment.placed m :=
    fun h ↦ ha.segment (ha.reached h)
  have hbegin := Autopilot.beginSpline_placed (k := k) (h := h) hs r.now q
  have hset : a.setSpline r q = .done (a.beginSpline r.now q 0.0) a.repairWarnings := by
    rw [Autopilot.setSpline, Autopilot.offsetFor_level hq]
  have hset' : (a.placed m s k h).setSpline r' (q.placed m) =
      .done ((a.placed m s k h).beginSpline r.now (q.placed m) 0.0) a.repairWarnings := by
    rw [Autopilot.setSpline, Autopilot.offsetFor_level (t := (q.placed m).aboveTerrain) hq, hr.now]
    rfl
  rw [hset, hset']
  exact ⟨rfl, ⟨_, _, _, hbegin⟩, fun _ ↦ congrArg (·.navigator.segment) hbegin,
    fun _ _ ↦ congrArg (·.navigator.spline.curve) hbegin, hq, fun _ ↦ trivial⟩

theorem run_sets (ha : m.Sees set a a') (hr : m.Reads r r') {c : Command ℝ} (hc : c.ByVectors)
    (hset : c.sets ≠ none) :
    ((c.placed m).run r' a').fault = (c.run r a).fault ∧
      m.Sees True (c.run r a).state ((c.placed m).run r' a').state := by
  have horigin : a'.defaultOrigin r'.now = m.place (a.defaultOrigin r.now) := by
    obtain ⟨s, k, h, rfl⟩ := ha.image
    rw [hr.now, Autopilot.defaultOrigin_placed]
  cases c with
  | straightTo destination t =>
    obtain rfl : t = false := hc
    have hbegin := ha.setStraight hr (a.defaultOrigin r.now) destination
    rwa [← horigin] at hbegin
  | straight origin destination t =>
    obtain rfl : t = false := hc
    exact ha.setStraight hr origin destination
  | splineTo destination t stopped following =>
    obtain rfl : t = false := hc
    have hbegin :=
      ha.setSpline hr ⟨a.defaultOrigin r.now, destination, false, stopped, following⟩ rfl
    rwa [SplineRequest.placed, ← horigin] at hbegin
  | spline q => exact ha.setSpline hr q hc
  | straightToLocation | straightToNED | splineToLocation => exact hc.elim
  | _ => exact absurd rfl hset

theorem run_keeps (ha : m.Sees set a a') (hr : m.Reads r r') {c : Command ℝ} (hset : c.sets = none)
    (htick : c.IsTick → set) :
    ((c.placed m).run r' a').fault = (c.run r a).fault ∧
      m.Sees set (c.run r a).state ((c.placed m).run r' a').state := by
  obtain ⟨s, k, h, rfl⟩ := ha.image
  obtain ⟨s', h', hs', hrun⟩ := Autopilot.run_keeps_placed (s := s) (k := k) (h := h) hset
    (fun ht ↦ ha.segment (htick ht)) (fun ht ↦ ha.curve (htick ht)) ha.level hr
  obtain ⟨hkind, hlevel, hcurve⟩ := c.run_keeps_path r a hset
  rw [hrun]
  refine ⟨rfl, ⟨s', k, h', rfl⟩, fun hd ↦ hs' (ha.segment hd), fun hd hk ↦ ?_,
    hlevel.trans ha.level, fun hreached ↦ ?_⟩
  · rw [hcurve]
    exact ha.curve hd (hkind ▸ hk)
  · by_cases ht : c.IsTick
    · exact htick ht
    · exact ha.reached (c.run_keeps_reached r a hset ht ▸ hreached)

end Placement.Sees

end WaypointFlight
