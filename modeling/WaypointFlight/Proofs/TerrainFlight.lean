import WaypointFlight.Proofs.RaisedPoints
import WaypointFlight.Proofs.RealLimits
import WaypointFlight.Proofs.SimulatedFlights
import WaypointFlight.Proofs.SplineTicks

namespace WaypointFlight

open Scalar

def Command.ByLocation {α : Type} : Command α → Prop
  | .straightToLocation _ | .splineToLocation .. => True
  | _ => False

namespace Autopilot

def segmentRise (a : Autopilot ℝ) (h : ℝ) : ℝ := rise h a.navigator.segment.aboveTerrain

/-- The autopilot on the segment between the raised points, with a curve. -/
def raised (a : Autopilot ℝ) (h : ℝ) (k : HermiteCurve ℝ) : Autopilot ℝ :=
  { a with
    navigator.segment := a.navigator.segment.raised (a.segmentRise h)
    navigator.spline.curve := k }

variable (a : Autopilot ℝ) (r : Readings ℝ) (h : ℝ) (k : HermiteCurve ℝ)

theorem offsetFor_eq_rise {a : Autopilot ℝ} {r : Readings ℝ} {h : ℝ}
    (hx : a.offsetFor r true = .ok h) (t : Bool) : a.offsetFor r t = .ok (rise h t) := by
  cases t with
  | true => exact hx
  | false => exact congrArg _ zero_literal

theorem raised_ite (p : Prop) [Decidable p] (b : Autopilot ℝ) :
    (if p then a else b).raised h k = if p then a.raised h k else b.raised h k :=
  apply_ite (·.raised h k) p a b

theorem repairAccel_raised : (a.raised h k).repairAccel = a.repairAccel.raised h k := by
  unfold repairAccel
  rw [raised_ite]
  rfl

theorem start_raised : (a.raised h k).start = a.start.map (·.raised h k) := by
  simp only [start, repairAccel_raised]
  rfl

theorem requestSpeed_raised (v : ℝ) :
    (a.raised h k).requestSpeed v = (a.requestSpeed v).raised h k := by
  unfold requestSpeed
  rw [raised_ite]
  rfl

theorem govern_raised (speed : Option ℝ) :
    (a.raised h k).govern speed = (a.govern speed).raised h k := by
  cases speed <;> rfl

theorem freezeIfNew_raised : (a.raised h k).freezeIfNew = a.freezeIfNew.raised h k := by
  unfold freezeIfNew
  rw [raised_ite]
  rfl

theorem finishTick_raised (now : Nat) :
    (a.raised h k).finishTick now = (a.finishTick now).raised h k := by
  simp only [finishTick, freezeIfNew_raised]
  rfl

theorem refreshStaleLimits_raised :
    (a.raised h k).refreshStaleLimits = a.refreshStaleLimits.raised h k := by
  unfold refreshStaleLimits
  rw [raised_ite]
  rfl

theorem settleTick_raised (now : Nat) :
    (a.raised h k).settleTick now = (a.settleTick now).raised h k := by
  rw [settleTick, finishTick_raised, refreshStaleLimits_raised]
  rfl

theorem prepared_raised : (a.raised h k).prepared = a.prepared.raised h k :=
  a.pushAccels.govern_raised h k _

theorem beginStraight_raised (origin destination : Vec3 ℝ) (t : Bool) :
    (a.raised h k).beginStraight r (origin.raised (rise h t)) (destination.raised (rise h t)) false
        0.0 =
      (a.beginStraight r origin destination t (rise h t)).raised h k := by
  simp only [beginStraight, Segment.between_raised _ _ t, Vec3.raised_add_vertical]
  rfl

theorem shiftToVehicle_raised :
    (a.raised h k).shiftToVehicle r = (a.shiftToVehicle r).raised h k := by
  unfold shiftToVehicle
  rw [raised_ite]
  simp only [raised, Segment.raised, Vec3.raised_add]
  rfl

theorem join_raised (now : Nat) (q : SplineRequest ℝ) :
    (a.raised h k).join now (q.aboveOrigin h) = a.join now q := by
  simp only [join, SplineRequest.aboveOrigin, raised, Segment.raised, Vec3.raised_sub_raised]
  rfl

theorem joinedSpline_raised (now : Nat) (q : SplineRequest ℝ) :
    (a.raised h k).joinedSpline now (q.aboveOrigin h) =
      { a.joinedSpline now q with
        curve := (a.joinedSpline now q).curve.raised (rise h q.aboveTerrain) } := by
  simp only [joinedSpline, join_raised]
  simp only [SplineRequest.aboveOrigin, SegmentEnd.velocity_raised]
  rw [← Boundary.solve_raised, ← Boundary.scaled_raised]
  rfl

theorem beginSpline_raised (now : Nat) (q : SplineRequest ℝ) :
    let b := a.beginSpline now q (rise h q.aboveTerrain)
    (a.raised h k).beginSpline now (q.aboveOrigin h) 0.0 =
      b.raised h (b.navigator.spline.curve.raised (b.segmentRise h)) := by
  intro b
  simp only [beginSpline, repairAccel_raised, joinedSpline_raised]
  simp only [SplineRequest.aboveOrigin, Segment.between_raised _ _ q.aboveTerrain,
    Vec3.raised_add_vertical, SegmentEnd.isFast_raised]
  rfl

theorem arrives_raised (position : Vec3 ℝ) (desired : ℝ) :
    (a.raised h k).navigator.arrives position 0.0 desired =
      a.navigator.arrives position (a.segmentRise h) desired := by
  show (_ && (_ || decide ((position - Vec3.vertical 0.0 - Vec3.raised _ _).norm ≤ _))) = _
  rw [Vec3.sub_vertical_sub_raised]
  rfl

theorem advanceStraight_raised (dt : ℝ) :
    (a.raised h k).advanceStraight r dt 0.0 =
      (a.advanceStraight r dt (a.segmentRise h)).raised h k := by
  have hsight : (a.raised h k).navigator.segment.sight r.position 0.0 =
      a.navigator.segment.sight r.position (a.segmentRise h) := Segment.sight_raised _ _ _
  have hpoint (distance : ℝ) : (a.raised h k).navigator.segment.pointAt distance 0.0 =
      a.navigator.segment.pointAt distance (a.segmentRise h) := Segment.pointAt_raised _ _ _
  simp only [advanceStraight, Navigator.choose_eq, hsight, hpoint, arrives_raised]
  rfl

theorem advanceSplineFrom_raised (dt : ℝ) (target velocity : Vec3 ℝ) :
    (a.raised h k).advanceSplineFrom r dt 0.0 (target.raised (a.segmentRise h)) velocity =
      (a.advanceSplineFrom r dt (a.segmentRise h) target velocity).raised h k := by
  have herror : (r.position - target.raised (a.segmentRise h)).up - 0.0 =
      (r.position - target).up - a.segmentRise h := by
    simp [Vec3.raised]
    ring
  have hdistance : (a.raised h k).navigator.segment.destination - target.raised (a.segmentRise h) =
      a.navigator.segment.destination - target := Vec3.raised_sub_raised _ _ _
  have htarget : (target.raised (a.segmentRise h)).up + 0.0 = target.up + a.segmentRise h := by
    simp [Vec3.raised]
  simp only [advanceSplineFrom, Navigator.choose_eq, herror, hdistance, htarget]
  rfl

/-- The curve of a spline, raised as its segment. On a straight segment, which leaves the curve of
an earlier spline unused, it is any. -/
def RaisesCurve (a : Autopilot ℝ) (h : ℝ) (k : HermiteCurve ℝ) : Prop :=
  a.navigator.segment.kind = .spline → k = a.navigator.spline.curve.raised (a.segmentRise h)

variable {a r h k}

theorem raisesCurve_of_eq {b : Autopilot ℝ} (hk : a.RaisesCurve h k)
    (hkind : b.navigator.segment.kind = a.navigator.segment.kind)
    (hflag : b.navigator.segment.aboveTerrain = a.navigator.segment.aboveTerrain)
    (hcurve : b.navigator.spline.curve = a.navigator.spline.curve) : b.RaisesCurve h k := by
  intro hb
  rw [hcurve, segmentRise, hflag]
  exact hk (hkind.symm.trans hb)

theorem tickStraight_raised (hx : a.offsetFor r true = .ok h) :
    (a.raised h k).tickStraight r = (a.tickStraight r).map (·.raised h k) := by
  have hplain : (a.raised h k).offsetFor r (a.raised h k).navigator.segment.aboveTerrain =
      .ok 0.0 := rfl
  have hrise : a.prepared.segmentRise h = a.segmentRise h := by
    rw [segmentRise, prepared_navigator]
    rfl
  have hadvance := a.prepared.advanceStraight_raised r h k a.controller.period
  rw [hrise] at hadvance
  rw [tickStraight_ok a (offsetFor_eq_rise hx _), tickStraight_ok _ hplain, prepared_raised]
  show Outcome.done (((a.prepared.raised h k).advanceStraight r a.controller.period 0.0).settleTick
    r.now) [] = _
  rw [hadvance, settleTick_raised]
  rfl

theorem tryAdvanceSpline_raised (hx : a.offsetFor r true = .ok h)
    (hk : k = a.navigator.spline.curve.raised (a.segmentRise h)) (dt : ℝ) :
    (a.raised h k).tryAdvanceSpline r dt = (a.tryAdvanceSpline r dt).map (·.raised h k) := by
  have hok (v : Vec3 ℝ) :
      (a.turnTo v).offsetFor r a.navigator.segment.aboveTerrain = .ok (a.segmentRise h) :=
    offsetFor_eq_rise hx _
  have hplain (v : Vec3 ℝ) : ((a.raised h k).turnTo v).offsetFor r
      (a.raised h k).navigator.segment.aboveTerrain = .ok 0.0 := rfl
  have hvelocity (t : ℝ) : k.velocity t = a.navigator.spline.curve.velocity t := by
    rw [hk]
    rfl
  have hposition (t : ℝ) : k.position t =
      (a.navigator.spline.curve.position t).raised (a.segmentRise h) := by
    rw [hk, HermiteCurve.position_raised]
  have hadvance (v target : Vec3 ℝ) := (a.turnTo v).advanceSplineFrom_raised r h k dt target v
  -- both flights decide by the velocity of the curve, which a raise leaves as it is
  simp only [tryAdvanceSpline, hok, hplain]
  show (if a.navigator.flags.reached = true then _
    else if IsZero (k.velocity a.navigator.spline.time).norm then _
    else Outcome.done
      (((a.raised h k).turnTo (k.velocity a.navigator.spline.time)).advanceSplineFrom r dt 0.0
        (k.position a.navigator.spline.time) (k.velocity a.navigator.spline.time)) []) = _
  rw [hvelocity, hposition]
  split_ifs
  · rfl
  · rfl
  · exact congrArg (Outcome.done · []) (hadvance _ _)

theorem governed_raised : (a.raised h k).governed = a.governed.raised h k :=
  a.govern_raised h k _

theorem tickSpline_raised (hx : a.offsetFor r true = .ok h) (hk : a.RaisesCurve h k) :
    (a.raised h k).tickSpline r = (a.tickSpline r).map (·.raised h k) := by
  have hkind : (a.raised h k).navigator.segment.kind = a.navigator.segment.kind := rfl
  cases hs : a.navigator.segment.kind with
  | straight =>
    simp only [tickSpline, hkind, hs]
    rfl
  | spline =>
    have hx' : a.governed.offsetFor r true = .ok h := by
      rw [← hx]
      simp only [offsetFor, governed_navigator]
    have hk' : k = a.governed.navigator.spline.curve.raised (a.governed.segmentRise h) := by
      rw [hk hs, segmentRise, segmentRise, governed_navigator]
    have hadvance := tryAdvanceSpline_raised hx' hk' a.controller.period
    simp only [tickSpline, hkind, hs]
    show ((a.raised h k).governed.tryAdvanceSpline r a.controller.period).map (·.finishTick r.now) =
      ((a.governed.tryAdvanceSpline r a.controller.period).map (·.finishTick r.now)).map
        (·.raised h k)
    rw [governed_raised, hadvance]
    simp only [Outcome.map, finishTick_raised]

/-- A default origin stands at the target, above the ground by less than above the world origin. -/
theorem originFor_raised (hx : a.offsetFor r true = .ok h) (t : Bool) :
    ∃ origin, a.originFor r t = .ok origin ∧
      (a.raised h k).originFor r false = .ok (origin.raised (rise h t)) := by
  cases t with
  | false =>
    refine ⟨a.defaultOrigin r.now, rfl, ?_⟩
    rw [Vec3.raised_rise_false]
    rfl
  | true =>
    refine ⟨{ a.defaultOrigin r.now with up := (a.defaultOrigin r.now).up - h }, ?_, ?_⟩
    · simp only [originFor, hx]
      rfl
    · show Except.ok (a.defaultOrigin r.now) = _
      simp [rise, Vec3.raised]

theorem setStraight_raised (hx : a.offsetFor r true = .ok h) (origin destination : Vec3 ℝ)
    (t : Bool) (k : HermiteCurve ℝ) :
    ∃ k', (a.setStraight r origin destination t).state.RaisesCurve h k' ∧
      (a.raised h k).setStraight r (origin.raised (rise h t)) (destination.raised (rise h t))
          false =
        (a.setStraight r origin destination t).map (·.raised h k') := by
  have ho : a.setStraight r origin destination t =
      .done (a.beginStraight r origin destination t (rise h t)) [] := by
    simp only [setStraight, offsetFor_eq_rise hx]
  rw [ho]
  refine ⟨k, (fun hs ↦ by cases hs), ?_⟩
  show Outcome.done ((a.raised h k).beginStraight r _ _ false 0.0) [] = _
  rw [beginStraight_raised]
  rfl

theorem setSpline_raised (hx : a.offsetFor r true = .ok h) (q : SplineRequest ℝ)
    (k : HermiteCurve ℝ) :
    ∃ k', (a.setSpline r q).state.RaisesCurve h k' ∧
      (a.raised h k).setSpline r (q.aboveOrigin h) = (a.setSpline r q).map (·.raised h k') := by
  have ho : a.setSpline r q =
      .done (a.beginSpline r.now q (rise h q.aboveTerrain)) a.repairWarnings := by
    simp only [setSpline, offsetFor_eq_rise hx]
  rw [ho]
  refine ⟨_, fun _ ↦ rfl, ?_⟩
  show Outcome.done ((a.raised h k).beginSpline r.now (q.aboveOrigin h) 0.0) a.repairWarnings = _
  rw [beginSpline_raised]
  rfl

theorem setStraightTo_raised (hx : a.offsetFor r true = .ok h) (destination : Vec3 ℝ) (t : Bool)
    (k : HermiteCurve ℝ) :
    ∃ k', (a.setStraightTo r destination t).state.RaisesCurve h k' ∧
      (a.raised h k).setStraightTo r (destination.raised (rise h t)) false =
        (a.setStraightTo r destination t).map (·.raised h k') := by
  obtain ⟨origin, ho, ho'⟩ := originFor_raised (k := k) hx t
  simp only [setStraightTo, ho, ho']
  exact setStraight_raised hx origin destination t k

theorem setSplineTo_raised (hx : a.offsetFor r true = .ok h) (destination : Vec3 ℝ)
    (t stopped : Bool) (following : SegmentEnd (Vec3 ℝ)) (k : HermiteCurve ℝ) :
    ∃ k', (a.setSplineTo r destination t stopped following).state.RaisesCurve h k' ∧
      (a.raised h k).setSplineTo r (destination.raised (rise h t)) false stopped
          (following.raised (rise h t)) =
        (a.setSplineTo r destination t stopped following).map (·.raised h k') := by
  obtain ⟨origin, ho, ho'⟩ := originFor_raised (k := k) hx t
  simp only [setSplineTo, ho, ho']
  exact setSpline_raised hx ⟨origin, destination, t, stopped, following⟩ k

theorem raisesCurve_run (hk : a.RaisesCurve h k) (r : Readings ℝ) {c : Command ℝ}
    (hc : c.sets = none) : (c.run r a).state.RaisesCurve h k := by
  by_cases hs : c = .shift
  · subst hs
    apply raisesCurve_of_eq hk <;>
      simp only [Command.run, Outcome.done, shiftToVehicle] <;> split_ifs <;> rfl
  · obtain ⟨_, hsegment, hcurve⟩ := c.run_path r a hc hs
    refine raisesCurve_of_eq hk ?_ ?_ hcurve <;> rw [hsegment]

/-- A call on the raised segment, for raised points, does what the call does above terrain. -/
theorem run_raised (hx : a.offsetFor r true = .ok h) (hk : a.RaisesCurve h k) {c : Command ℝ}
    (hc : ¬ c.ByLocation) :
    ∃ k', (c.run r a).state.RaisesCurve h k' ∧
      (c.aboveOrigin h).run r (a.raised h k) = (c.run r a).map (·.raised h k') := by
  cases c with
  | straightToLocation => exact absurd trivial hc
  | splineToLocation => exact absurd trivial hc
  | start => exact ⟨k, raisesCurve_run hk r rfl, a.start_raised h k⟩
  | straightTo destination t => exact setStraightTo_raised hx destination t k
  | straightToNED destination =>
    have hset := setStraightTo_raised hx ⟨destination.north * 100.0, destination.east * 100.0,
      -destination.up * 100.0⟩ false k
    rwa [Vec3.raised_rise_false] at hset
  | straight origin destination t => exact setStraight_raised hx origin destination t k
  | splineTo destination t stopped following =>
    exact setSplineTo_raised hx destination t stopped following k
  | spline q => exact setSpline_raised hx q k
  | shift =>
    refine ⟨k, raisesCurve_run hk r rfl, ?_⟩
    exact congrArg (Outcome.done · []) (a.shiftToVehicle_raised r h k)
  | tickStraight => exact ⟨k, raisesCurve_run hk r rfl, tickStraight_raised hx⟩
  | tickSpline => exact ⟨k, raisesCurve_run hk r rfl, tickSpline_raised hx hk⟩
  | requestSpeed v =>
    refine ⟨k, raisesCurve_run hk r rfl, ?_⟩
    exact congrArg (Outcome.done · []) (a.requestSpeed_raised h k v)
  | setSpeedUp v => exact ⟨k, raisesCurve_run hk r rfl, rfl⟩
  | setSpeedDown v => exact ⟨k, raisesCurve_run hk r rfl, rfl⟩
  | setFast fast => exact ⟨k, raisesCurve_run hk r rfl, rfl⟩

end Autopilot

def Action.aboveOrigin (h : ℝ) : Action ℝ → Action ℝ
  | .call c => .call (c.aboveOrigin h)
  | a => a

namespace Simulation

def raised (s : Simulation ℝ) (h : ℝ) (k : HermiteCurve ℝ) : Simulation ℝ :=
  { s with autopilot := s.autopilot.raised h k }

def OverTerrain (h : ℝ) (s : Simulation ℝ) : Action ℝ → Prop
  | .call c => ¬ c.ByLocation ∧ s.autopilot.offsetFor s.readings true = .ok h
  | _ => True

variable {s : Simulation ℝ} {h : ℝ} {k : HermiteCurve ℝ}

theorem move_raised : (s.raised h k).move = s.move.raised h k := rfl

theorem wait_raised (ms : Nat) :
    (s.raised h k).wait ms = (s.wait ms).map (·.raised h k) := by
  unfold wait
  show (if WordRange.unsigned64.Contains (s.now + ms) then _ else _) = _
  split_ifs <;> rfl

theorem step_raised : (s.raised h k).step = s.step.map (·.raised h k) := by
  rw [step, move_raised, wait_raised]
  rfl

theorem act_raised (hk : s.autopilot.RaisesCurve h k) {a : Action ℝ} (ha : OverTerrain h s a) :
    ∃ k', (∀ t e, s.act a = .ok (t, e) → t.autopilot.RaisesCurve h k') ∧
      (s.raised h k).act (a.aboveOrigin h) =
        (s.act a).map fun (t, e) ↦ (t.raised h k', e) := by
  cases a with
  | ground g =>
    refine ⟨k, fun t e ht ↦ ?_, rfl⟩
    obtain ⟨rfl, -⟩ := Prod.mk.inj (Except.ok.inj ht)
    exact hk
  | step =>
    refine ⟨k, fun t e ht ↦ ?_, ?_⟩
    · obtain ⟨_, rfl⟩ := act_step ht
      exact Autopilot.raisesCurve_of_eq hk rfl rfl rfl
    · show ((s.raised h k).step).map _ = _
      rw [step_raised]
      show _ = (s.step.map _).map _
      cases s.step <;> rfl
  | call c =>
    obtain ⟨k', hk', hrun⟩ := Autopilot.run_raised ha.2 hk ha.1
    refine ⟨k', fun t e ht ↦ ?_, ?_⟩
    · obtain rfl := act_call ht
      exact hk'
    · have hcommand : (s.raised h k).command (c.aboveOrigin h) =
          ((s.command c).1.raised h k', (s.command c).2.map (·.raised h k')) :=
        congrArg (fun o : Outcome ℝ ↦ (({ s with autopilot := o.state } : Simulation ℝ), o)) hrun
      simp only [Action.aboveOrigin, act, hcommand]
      show (s.command c).2.report.map _ = ((s.command c).2.report.map _).map _
      cases (s.command c).2.report <;> rfl

theorem log_raised {as : List (Action ℝ)} (hk : s.autopilot.RaisesCurve h k)
    (has : s.Along (OverTerrain h) as) :
    (s.raised h k).log (as.map (·.aboveOrigin h)) = s.log as := by
  -- the curve is general: an action may begin a spline, or leave one behind that is not raised
  induction as generalizing s k with
  | nil => rfl
  | cons a as ih =>
    obtain ⟨k', hk', hact⟩ := act_raised hk has.1
    simp only [List.map_cons, log, hact]
    cases ht : s.act a with
    | error o => rfl
    | ok p =>
      obtain ⟨t, e⟩ := p
      exact congrArg (Except.ok (e, t.moment) :: ·) (ih (hk' t e ht) (has.2 t e ht))

theorem raised_of_not_aboveTerrain (hs : s.autopilot.navigator.segment.aboveTerrain = false) :
    s.raised h s.autopilot.navigator.spline.curve = s := by
  have hsegment : s.autopilot.navigator.segment.raised (s.autopilot.segmentRise h) =
      s.autopilot.navigator.segment := by
    rw [Autopilot.segmentRise, hs, Segment.raised, Vec3.raised_rise_false, Vec3.raised_rise_false,
      ← hs]
  rw [raised, Autopilot.raised, hsegment]

theorem raisesCurve_of_not_aboveTerrain
    (hs : s.autopilot.navigator.segment.aboveTerrain = false) :
    s.autopilot.RaisesCurve h s.autopilot.navigator.spline.curve := by
  intro _
  rw [Autopilot.segmentRise, hs, HermiteCurve.raised, Vec3.raised_rise_false]

/-- Flight above terrain of a constant height is flight above the world origin over raised points:
what is reported and seen of both is the same at every step. -/
theorem terrain_flight (h : ℝ) (s : Simulation ℝ)
    (hs : s.autopilot.navigator.segment.aboveTerrain = false) (as : List (Action ℝ))
    (has : s.Along (OverTerrain h) as) :
    s.log (as.map (·.aboveOrigin h)) = s.log as := by
  have hlog := log_raised (raisesCurve_of_not_aboveTerrain hs) has
  rwa [raised_of_not_aboveTerrain hs] at hlog

/-- Level ground of height `h`, seen so by the database, and by the range finder where it is
fitted. -/
structure OverLevelGround (h : ℝ) (s : Simulation ℝ) : Prop where
  synced : s.ground.vehicleAltitude = s.position.up
  database : s.ground.databaseAvailable = true
  elevation : s.ground.altitude + s.ground.databaseBias = h
  rangeFinder : s.ground.rangeFinderAvailable = true →
    s.ground.rangeFinderHealthy = true ∧ s.ground.altitude = h

theorem OverLevelGround.offsetFor (hs : OverLevelGround h s) :
    s.autopilot.offsetFor s.readings true = .ok h := by
  have hdatabase : s.ground.database.offset s.position.up = .ok h := by
    rw [TerrainDatabase.offset, Ground.database, Ground.height, if_pos hs.database, hs.synced,
      ← hs.elevation]
    refine congrArg Except.ok ?_
    norm_num
    ring
  show terrainOffset s.position.up
    (if s.autopilot.navigator.params.useRangeFinder then s.ground.rangeReading else none)
    s.ground.database = .ok h
  rw [Ground.rangeReading]
  split_ifs with huse hfitted
  · obtain ⟨hhealthy, haltitude⟩ := hs.rangeFinder hfitted
    rw [terrainOffset, Ground.distance, if_pos hhealthy, hs.synced, haltitude]
    exact congrArg Except.ok (sub_sub_cancel _ _)
  · exact hdatabase
  · exact hdatabase

theorem OverLevelGround.along {as : List (Action ℝ)} (hs : OverLevelGround h s)
    (has : ∀ a ∈ as, a = .step ∨ ∃ c, a = .call c ∧ ¬ c.ByLocation) :
    s.Along (OverTerrain h) as := by
  refine along_of_invariant hs (fun s hs a ha ↦ ?_) fun s t a e ha hs ht ↦ ?_
  · rcases has a ha with rfl | ⟨c, rfl, hc⟩
    · trivial
    · exact ⟨hc, hs.offsetFor⟩
  · rcases has a ha with rfl | ⟨c, rfl, -⟩
    · obtain ⟨_, rfl⟩ := act_step ht
      exact ⟨rfl, hs.database, hs.elevation, hs.rangeFinder⟩
    · obtain rfl := act_call ht
      exact ⟨hs.synced, hs.database, hs.elevation, hs.rangeFinder⟩

noncomputable def hillside : Simulation ℝ :=
  .create { SimParams.standard with groundAltitude := 50, rangeFinderAvailable := true }
    .standard .zero

theorem hillside_overLevelGround : OverLevelGround 50 hillside := by
  refine ⟨rfl, rfl, ?_, fun _ ↦ ⟨rfl, rfl⟩⟩
  show (50 : ℝ) + 0.0 = 50
  norm_num

theorem terrain_flight_hillside :
    hillside.log
        [.call .start, .call (.straightTo ⟨1000, 0, 250⟩ false), .call .tickStraight, .step,
          .call (.spline ⟨⟨0, 0, 250⟩, ⟨1000, 0, 250⟩, false, true, .spline ⟨2000, 0, 350⟩⟩),
          .call .tickSpline, .step] =
      hillside.log
        [.call .start, .call (.straightTo ⟨1000, 0, 200⟩ true), .call .tickStraight, .step,
          .call (.spline ⟨⟨0, 0, 200⟩, ⟨1000, 0, 200⟩, true, true, .spline ⟨2000, 0, 300⟩⟩),
          .call .tickSpline, .step] := by
  have has : hillside.Along (OverTerrain 50)
      [.call .start, .call (.straightTo ⟨1000, 0, 200⟩ true), .call .tickStraight, .step,
        .call (.spline ⟨⟨0, 0, 200⟩, ⟨1000, 0, 200⟩, true, true, .spline ⟨2000, 0, 300⟩⟩),
        .call .tickSpline, .step] :=
    hillside_overLevelGround.along (by simp [Command.ByLocation])
  rw [← terrain_flight 50 hillside rfl _ has]
  norm_num [Action.aboveOrigin, Command.aboveOrigin, SplineRequest.aboveOrigin, SegmentEnd.raised,
    Vec3.raised, rise]

end Simulation

end WaypointFlight
