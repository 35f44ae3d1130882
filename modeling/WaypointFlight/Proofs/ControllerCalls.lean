import WaypointFlight.Proofs.KeptTarget
import WaypointFlight.Proofs.SplineTicks

namespace WaypointFlight

variable {α : Type}

inductive ControllerCall (α : Type) where
  | reset
  | setVelocityXY (v : Vec2 α)
  | limitSpeedXY (speed : α)
  | limitAccelXY (accel : α)
  | limitSpeedZ (down up : α)
  | limitAccelZ (accel : α)
  | refreshLeashXY
  | refreshLeashZ
  | setTarget (target : Vec3 α)
  | freeze
  | update

namespace ControllerCall

def freezes : ControllerCall α → ℕ
  | .freeze => 1
  | _ => 0

def updates : ControllerCall α → ℕ
  | .update => 1
  | _ => 0

def freezeCount (ks : List (ControllerCall α)) : ℕ := (ks.map freezes).sum

def updateCount (ks : List (ControllerCall α)) : ℕ := (ks.map updates).sum

variable (k : ControllerCall α) (ks ks' : List (ControllerCall α))

theorem freezeCount_cons : freezeCount (k :: ks) = k.freezes + freezeCount ks := by
  rw [freezeCount, List.map_cons, List.sum_cons, ← freezeCount]

theorem updateCount_cons : updateCount (k :: ks) = k.updates + updateCount ks := by
  rw [updateCount, List.map_cons, List.sum_cons, ← updateCount]

theorem freezeCount_append : freezeCount (ks ++ ks') = freezeCount ks + freezeCount ks' := by
  rw [freezeCount, List.map_append, List.sum_append, ← freezeCount, ← freezeCount]

theorem updateCount_append : updateCount (ks ++ ks') = updateCount ks + updateCount ks' := by
  rw [updateCount, List.map_append, List.sum_append, ← updateCount, ← updateCount]

end ControllerCall

variable [Analytic α]

namespace PositionController

def receive (c : PositionController α) : ControllerCall α → PositionController α
  | .reset => c.reset
  | .setVelocityXY v => c.setVelocityXY v
  | .limitSpeedXY speed => c.limitSpeedXY speed
  | .limitAccelXY accel => c.limitAccelXY accel
  | .limitSpeedZ down up => c.limitSpeedZ down up
  | .limitAccelZ accel => c.limitAccelZ accel
  | .refreshLeashXY => c.refreshLeashXY
  | .refreshLeashZ => c.refreshLeashZ
  | .setTarget target => { c with positionTarget := target }
  | .freeze => c.freeze
  | .update => c.update

def receiveAll (c : PositionController α) (ks : List (ControllerCall α)) : PositionController α :=
  ks.foldl receive c

variable (c : PositionController α) (k : ControllerCall α) (ks ks' : List (ControllerCall α))

theorem receiveAll_cons : c.receiveAll (k :: ks) = (c.receive k).receiveAll ks := rfl

theorem receiveAll_append : c.receiveAll (ks ++ ks') = (c.receiveAll ks).receiveAll ks' :=
  List.foldl_append

theorem receive_frame :
    (c.receive k).freezes = c.freezes + k.freezes ∧
      (c.receive k).updates = c.updates + k.updates ∧
      (c.receive k).period = c.period ∧ (c.receive k).gainXY = c.gainXY ∧
      (c.receive k).vehiclePosition = c.vehiclePosition := by
  cases k <;>
    simp [receive, ControllerCall.freezes, ControllerCall.updates, reset, setVelocityXY,
      limitSpeedXY_eq, limitAccelXY_eq, limitSpeedZ_eq, limitAccelZ_eq, refreshLeashXY,
      refreshLeashZ, freeze, update, refreshStale_eq]

theorem receiveAll_frame :
    (c.receiveAll ks).freezes = c.freezes + ControllerCall.freezeCount ks ∧
      (c.receiveAll ks).updates = c.updates + ControllerCall.updateCount ks ∧
      (c.receiveAll ks).period = c.period ∧ (c.receiveAll ks).gainXY = c.gainXY ∧
      (c.receiveAll ks).vehiclePosition = c.vehiclePosition := by
  induction ks generalizing c with
  | nil => exact ⟨rfl, rfl, rfl, rfl, rfl⟩
  | cons k ks ih =>
    obtain ⟨hfreezes, hupdates, hperiod, hgain, hvehicle⟩ := c.receive_frame k
    obtain ⟨hfreezes', hupdates', hperiod', hgain', hvehicle'⟩ := ih (c.receive k)
    rw [receiveAll_cons, ControllerCall.freezeCount_cons, ControllerCall.updateCount_cons]
    refine ⟨?_, ?_, hperiod'.trans hperiod, hgain'.trans hgain, hvehicle'.trans hvehicle⟩
    · rw [hfreezes', hfreezes, Nat.add_assoc]
    · rw [hupdates', hupdates, Nat.add_assoc]

end PositionController

namespace Autopilot

def startCalls (p : Params α) : List (ControllerCall α) :=
  [.reset, .setVelocityXY .zero, .limitSpeedXY p.speed, .limitAccelXY p.accel,
    .limitSpeedZ (-p.speedDown) p.speedUp, .limitAccelZ p.accelZ, .refreshLeashXY, .refreshLeashZ]

def shiftCalls (a : Autopilot α) (r : Readings α) : List (ControllerCall α) :=
  if 0.0 < a.navigator.track.desired then [] else [.setTarget r.position, .freeze]

def pushCalls (p : Params α) : List (ControllerCall α) :=
  [.limitAccelXY p.accel, .limitAccelZ p.accelZ]

def governCalls (speed : Option α) : List (ControllerCall α) :=
  (speed.map .limitSpeedXY).toList

def finishCalls (new : Bool) : List (ControllerCall α) :=
  if new then [.freeze, .update] else [.update]

def targetCalls (o : Outcome α) : List (ControllerCall α) :=
  match o.fault with
  | none => [.setTarget o.state.controller.positionTarget]
  | some _ => []

def straightTickCalls (a : Autopilot α) (r : Readings α) : List (ControllerCall α) :=
  pushCalls a.navigator.params ++
    governCalls (a.pushAccels.governedSpeed a.controller.period) ++
    targetCalls (a.tickStraight r) ++ finishCalls a.navigator.flags.newDestination

/-- No target is set on a segment that has been reached, or on a curve that stands still. -/
def splineTickCalls (a : Autopilot α) (r : Readings α) : List (ControllerCall α) :=
  match a.navigator.segment.kind with
  | .straight => []
  | .spline =>
    governCalls (a.governedSpeed a.controller.period) ++
      (if a.navigator.flags.reached = true ∨ Scalar.IsZero a.curveVelocity.norm then []
        else targetCalls (a.tickSpline r)) ++
      finishCalls a.navigator.flags.newDestination

end Autopilot

/-- The calls on the controller that a command makes. One that sets a segment places the target at
its origin; a refused one makes no call. -/
def Command.controllerCalls (c : Command α) (r : Readings α) (a : Autopilot α) :
    List (ControllerCall α) :=
  match c with
  | .start => Autopilot.startCalls a.start.state.navigator.params
  | .shift => a.shiftCalls r
  | .tickStraight => a.straightTickCalls r
  | .tickSpline => a.splineTickCalls r
  | .requestSpeed _ | .setFast _ => []
  | .setSpeedUp speed => [.limitSpeedZ a.controller.speedDown speed]
  | .setSpeedDown speed => [.limitSpeedZ speed a.controller.speedUp]
  | c => Autopilot.targetCalls (c.run r a)

namespace Autopilot

variable (a : Autopilot α) (r : Readings α)

theorem start_receiveAll :
    a.start.state.controller =
      a.controller.receiveAll (startCalls a.start.state.navigator.params) := by
  rw [← a.repairAccel_controller]
  rfl

theorem shiftToVehicle_receiveAll :
    (a.shiftToVehicle r).controller = a.controller.receiveAll (a.shiftCalls r) := by
  unfold shiftToVehicle shiftCalls
  split_ifs <;> rfl

theorem govern_receiveAll (speed : Option α) :
    (a.govern speed).controller = a.controller.receiveAll (governCalls speed) := by
  cases speed <;> rfl

theorem prepared_receiveAll :
    a.prepared.controller =
      a.controller.receiveAll (pushCalls a.navigator.params ++
        governCalls (a.pushAccels.governedSpeed a.controller.period)) := by
  rw [PositionController.receiveAll_append]
  exact a.pushAccels.govern_receiveAll _

theorem finishTick_receiveAll (now : Nat) :
    (a.finishTick now).controller =
      a.controller.receiveAll (finishCalls a.navigator.flags.newDestination) := by
  unfold finishTick freezeIfNew finishCalls
  split_ifs <;> rfl

theorem settleTick_receiveAll (now : Nat) :
    (a.settleTick now).controller =
      a.controller.receiveAll (finishCalls a.navigator.flags.newDestination) := by
  rw [settleTick, refreshStaleLimits_controller, finishTick_receiveAll]

theorem finishTick_positionTarget (now : Nat) :
    (a.finishTick now).controller.positionTarget = a.controller.positionTarget := by
  obtain ⟨_, h⟩ := a.finishTick_controller now
  rw [h, PositionController.update_positionTarget]

theorem tickStraight_receiveAll :
    (a.tickStraight r).state.controller = a.controller.receiveAll (a.straightTickCalls r) := by
  rw [straightTickCalls, PositionController.receiveAll_append, PositionController.receiveAll_append,
    ← prepared_receiveAll]
  cases hx : a.offsetFor r a.navigator.segment.aboveTerrain with
  | error f =>
    rw [tickStraight_error a hx]
    show (a.prepared.settleTick r.now).controller = _
    rw [settleTick_receiveAll, prepared_navigator]
    rfl
  | ok x =>
    set b := a.prepared.advanceStraight r a.controller.period x with hb
    have htarget :
        (b.settleTick r.now).controller.positionTarget = b.controller.positionTarget := by
      obtain ⟨_, h⟩ := b.settleTick_controller r.now
      rw [h, PositionController.update_positionTarget]
    have hnew : b.navigator.flags.newDestination = a.navigator.flags.newDestination := by
      rw [hb, advanceStraight_navigator, Navigator.choose_eq, prepared_navigator]
    rw [tickStraight_ok a hx]
    show (b.settleTick r.now).controller = (a.prepared.controller.receiveAll
      [.setTarget (b.settleTick r.now).controller.positionTarget]).receiveAll _
    rw [htarget, settleTick_receiveAll, hnew]
    rfl

theorem tickSpline_receiveAll :
    (a.tickSpline r).state.controller = a.controller.receiveAll (a.splineTickCalls r) := by
  have h := a.splineTick r
  unfold splineTickCalls
  generalize a.tickSpline r = o at h
  cases h with
  | refused hk =>
    rw [hk]
    rfl
  | reached hk hr =>
    simp only [hk, hr, true_or, if_true, List.append_nil]
    rw [PositionController.receiveAll_append, ← govern_receiveAll]
    show (a.governed.finishTick r.now).controller = _
    rw [finishTick_receiveAll, governed_navigator]
    rfl
  | still hk hr hv =>
    simp only [hk, hv, or_true, if_true, List.append_nil]
    rw [PositionController.receiveAll_append, ← govern_receiveAll]
    show (a.governed.arriveOnSpline.finishTick r.now).controller = _
    rw [finishTick_receiveAll, arriveOnSpline, governed_navigator]
    rfl
  | flown hk hr hv x hx =>
    simp only [hk, hr, hv, Bool.false_eq_true, or_self, if_false]
    set b := (a.governed.turnTo a.curveVelocity).advanceSplineFrom r a.controller.period x
      (a.navigator.spline.curve.position a.navigator.spline.time) a.curveVelocity with hb
    have hnew : b.navigator.flags.newDestination = a.navigator.flags.newDestination := by
      obtain ⟨_, _, _, _, _, _, hn⟩ :=
        (a.governed.turnTo a.curveVelocity).advanceSplineFrom_navigator r a.controller.period x
          (a.navigator.spline.curve.position a.navigator.spline.time) a.curveVelocity
      rw [hb, hn]
      simp only [turnTo, refreshLimits, governed_navigator]
    rw [PositionController.receiveAll_append, PositionController.receiveAll_append,
      ← govern_receiveAll]
    show (b.finishTick r.now).controller = (a.governed.controller.receiveAll
      [.setTarget (b.finishTick r.now).controller.positionTarget]).receiveAll _
    rw [finishTick_positionTarget, finishTick_receiveAll, hnew]
    rfl
  | held hk hr hv =>
    simp only [hk, hr, hv, Bool.false_eq_true, or_self, if_false]
    rw [PositionController.receiveAll_append, PositionController.receiveAll_append,
      ← govern_receiveAll]
    show ((a.governed.turnTo a.curveVelocity).finishTick r.now).controller = _
    rw [finishTick_receiveAll]
    simp only [turnTo, refreshLimits, governed_navigator]
    rfl

end Autopilot

theorem Command.run_sets_receiveAll {c : Command α} (hc : c.sets ≠ none) (r : Readings α)
    (a : Autopilot α) :
    (c.run r a).state.controller = a.controller.receiveAll (Autopilot.targetCalls (c.run r a)) := by
  have hrefused (h : (c.run r a).Refused a) : (c.run r a).state.controller =
      a.controller.receiveAll (Autopilot.targetCalls (c.run r a)) := by
    obtain ⟨f, hf⟩ := Option.ne_none_iff_exists'.mp h.1
    rw [Autopilot.targetCalls, hf, h.2]
    rfl
  obtain ⟨kind, hkind⟩ := Option.ne_none_iff_exists'.mp hc
  cases kind with
  | straight =>
    rcases c.run_straight r a hkind with h | ⟨o, d, t, x, -, h⟩
    · exact hrefused h
    · rw [h]
      rfl
  | spline =>
    rcases c.run_spline r a hkind with h | ⟨q, x, -, h⟩
    · exact hrefused h
    · rw [h, Outcome.done, Autopilot.targetCalls, Autopilot.beginSpline_controller]
      rfl

theorem Command.run_receiveAll (c : Command α) (r : Readings α) (a : Autopilot α) :
    (c.run r a).state.controller = a.controller.receiveAll (c.controllerCalls r a) := by
  cases c with
  | start => exact a.start_receiveAll
  | shift => exact a.shiftToVehicle_receiveAll r
  | tickStraight => exact a.tickStraight_receiveAll r
  | tickSpline => exact a.tickSpline_receiveAll r
  | requestSpeed v =>
    simp only [run, Outcome.done, Autopilot.requestSpeed]
    split_ifs <;> rfl
  | setSpeedUp v => rfl
  | setSpeedDown v => rfl
  | setFast fast => rfl
  | _ => exact run_sets_receiveAll (by simp [sets]) r a

end WaypointFlight
