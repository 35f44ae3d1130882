import WaypointFlight.Proofs.Runs

namespace WaypointFlight

variable {α : Type} [Analytic α]

namespace Navigator

variable (n : Navigator α) (heading : Option α)

theorem choose_eq :
    n.choose heading = { n with heading := (heading.map Scalar.wrapTurn).or n.heading } := by
  cases heading <;> rfl

end Navigator

namespace PositionController

variable (c : PositionController α)

theorem limitSpeedXY_eq (speed : α) :
    c.limitSpeedXY speed =
      { c with
        speedXY := if Differs c.speedXY speed then speed else c.speedXY
        staleXY := c.staleXY || decide (Differs c.speedXY speed) } := by
  unfold limitSpeedXY
  split <;> simp [*]

theorem limitAccelXY_eq (accel : α) :
    c.limitAccelXY accel =
      { c with
        accelXY := if Differs c.accelXY accel then accel else c.accelXY
        staleXY := c.staleXY || decide (Differs c.accelXY accel) } := by
  unfold limitAccelXY
  split <;> simp [*]

theorem limitSpeedZ_eq (down up : α) :
    c.limitSpeedZ down up =
      { c with
        speedUp :=
          if Differs c.speedUp up ∨ Differs c.speedDown (-Scalar.abs down) then up else c.speedUp
        speedDown :=
          if Differs c.speedUp up ∨ Differs c.speedDown (-Scalar.abs down) then -Scalar.abs down
          else c.speedDown
        staleZ := c.staleZ ||
          decide (Differs c.speedUp up ∨ Differs c.speedDown (-Scalar.abs down)) } := by
  unfold limitSpeedZ
  split <;> simp [*]

theorem limitAccelZ_eq (accel : α) :
    c.limitAccelZ accel =
      { c with
        accelZ := if Differs c.accelZ accel then accel else c.accelZ
        staleZ := c.staleZ || decide (Differs c.accelZ accel) } := by
  unfold limitAccelZ
  split <;> simp [*]

theorem refreshStale_eq :
    c.refreshStale =
      { c with
        leashXY := if c.staleXY then Leash.length c.speedXY c.accelXY c.gainXY else c.leashXY
        leashUp := if c.staleZ then Leash.length c.speedUp c.accelZ c.gainZ else c.leashUp
        leashDown := if c.staleZ then Leash.length (-c.speedDown) c.accelZ c.gainZ else c.leashDown
        staleXY := false
        staleZ := false } := by
  rcases c with ⟨_, _, _, _, _, _, _, _, _, _, _, _, _, staleXY, staleZ, _, _, _, _⟩
  cases staleXY <;> cases staleZ <;> rfl

@[simp]
theorem update_period : c.update.period = c.period := by simp [update, refreshStale_eq]

@[simp]
theorem update_positionTarget : c.update.positionTarget = c.positionTarget := by
  simp [update, refreshStale_eq]

@[simp]
theorem update_speedXY : c.update.speedXY = c.speedXY := by simp [update, refreshStale_eq]

@[simp]
theorem update_speedUp : c.update.speedUp = c.speedUp := by simp [update, refreshStale_eq]

theorem update_velocityTarget :
    c.update.velocityTarget = c.demand (c.positionTarget - c.vehiclePosition) := by
  simp only [update, refreshStale_eq]
  rfl

@[simp]
theorem update_axisLimits (accelXY accelZ : α) :
    c.update.axisLimits accelXY accelZ = c.refreshStale.axisLimits accelXY accelZ := rfl

end PositionController

namespace Autopilot

variable (a : Autopilot α) (r : Readings α)

theorem startedController_period (c : PositionController α) (p : Params α) :
    (startedController c p).period = c.period := by
  simp only [startedController, PositionController.limitSpeedXY_eq,
    PositionController.limitAccelXY_eq, PositionController.limitSpeedZ_eq,
    PositionController.limitAccelZ_eq]
  rfl

@[simp]
theorem repairAccel_controller : a.repairAccel.controller = a.controller := by
  unfold repairAccel
  split <;> rfl

@[simp]
theorem repairAccel_segment : a.repairAccel.navigator.segment = a.navigator.segment := by
  unfold repairAccel
  split <;> rfl

@[simp]
theorem repairAccel_track : a.repairAccel.navigator.track = a.navigator.track := by
  unfold repairAccel
  split <;> rfl

@[simp]
theorem repairAccel_flags : a.repairAccel.navigator.flags = a.navigator.flags := by
  unfold repairAccel
  split <;> rfl

@[simp]
theorem repairAccel_spline : a.repairAccel.navigator.spline = a.navigator.spline := by
  unfold repairAccel
  split <;> rfl

@[simp]
theorem start_flags : a.start.state.navigator.flags = a.navigator.flags := a.repairAccel_flags

@[simp]
theorem shiftToVehicle_flags : (a.shiftToVehicle r).navigator.flags = a.navigator.flags := by
  unfold shiftToVehicle
  split <;> rfl

theorem govern_navigator (speed : Option α) :
    (a.govern speed).navigator =
      { a.navigator with
        flags.limitsStale := a.navigator.flags.limitsStale || speed.isSome } := by
  cases speed <;> simp [govern]

/-- The autopilot as the advance of a tick on a straight segment finds it: its limits are in the
controller, and the speed limit has moved. -/
def prepared : Autopilot α :=
  a.pushAccels.govern (a.pushAccels.governedSpeed a.controller.period)

def governs : Bool := (a.pushAccels.governedSpeed a.controller.period).isSome

theorem not_governs
    (h : Scalar.IsEqual a.navigator.requestedSpeed a.controller.speedXY) : a.governs = false := by
  have hs : a.pushAccels.controller.speedXY = a.controller.speedXY := by
    simp only [pushAccels, PositionController.limitAccelXY_eq, PositionController.limitAccelZ_eq]
  have hr : a.pushAccels.navigator = a.navigator := rfl
  rw [governs, governedSpeed, Governor.step, hs, hr, if_pos h, Option.isSome_none]

theorem prepared_navigator :
    a.prepared.navigator =
      { a.navigator with flags.limitsStale := a.navigator.flags.limitsStale || a.governs } := by
  rw [prepared, govern_navigator]
  rfl

theorem prepared_controller :
    ∃ speedXY accelXY accelZ staleXY staleZ,
      a.prepared.controller =
        { a.controller with speedXY, accelXY, accelZ, staleXY, staleZ } := by
  unfold prepared
  cases a.pushAccels.governedSpeed a.controller.period with
  | none =>
    simp only [govern, pushAccels, PositionController.limitAccelXY_eq,
      PositionController.limitAccelZ_eq]
    exact ⟨_, _, _, _, _, rfl⟩
  | some speed =>
    simp only [govern, pushAccels, PositionController.limitAccelXY_eq,
      PositionController.limitAccelZ_eq, PositionController.limitSpeedXY_eq]
    exact ⟨_, _, _, _, _, rfl⟩

@[simp]
theorem prepared_leashXY : a.prepared.controller.leashXY = a.controller.leashXY := by
  obtain ⟨_, _, _, _, _, h⟩ := a.prepared_controller
  rw [h]

@[simp]
theorem prepared_offsetFor (t : Bool) : a.prepared.offsetFor r t = a.offsetFor r t := by
  simp only [offsetFor, prepared_navigator]

variable (now : Nat)

theorem finishTick_navigator :
    (a.finishTick now).navigator =
      { a.navigator with flags.newDestination := false, lastTick := some now } := by
  unfold finishTick freezeIfNew
  split
  · rfl
  · rename_i h
    simp only [Bool.not_eq_true] at h
    simp [← h]

theorem finishTick_controller :
    ∃ freezes, (a.finishTick now).controller = { a.controller with freezes }.update := by
  unfold finishTick freezeIfNew
  split
  · exact ⟨_, rfl⟩
  · exact ⟨a.controller.freezes, rfl⟩

theorem refreshStaleLimits_navigator :
    a.refreshStaleLimits.navigator =
      { a.navigator with
        track.limits :=
          if a.navigator.flags.limitsStale then a.trackLimits else a.navigator.track.limits
        flags.limitsStale := false } := by
  unfold refreshStaleLimits
  split
  · rfl
  · rename_i h
    simp only [Bool.not_eq_true] at h
    simp [← h]

@[simp]
theorem refreshStaleLimits_controller : a.refreshStaleLimits.controller = a.controller := by
  unfold refreshStaleLimits
  split <;> rfl

def settleTick : Autopilot α := (a.finishTick now).refreshStaleLimits

theorem settleTick_controller :
    ∃ freezes, (a.settleTick now).controller = { a.controller with freezes }.update := by
  rw [settleTick, refreshStaleLimits_controller]
  exact a.finishTick_controller now

/-- Limits that are marked are computed last, from the updated controller. -/
theorem settleTick_navigator :
    (a.settleTick now).navigator =
      { a.navigator with
        track.limits :=
          if a.navigator.flags.limitsStale then (a.settleTick now).trackLimits
          else a.navigator.track.limits
        flags.limitsStale := false
        flags.newDestination := false
        lastTick := some now } := by
  have h : (a.settleTick now).trackLimits = (a.finishTick now).trackLimits := by
    simp only [trackLimits, settleTick, refreshStaleLimits_navigator, refreshStaleLimits_controller]
  rw [h, settleTick, refreshStaleLimits_navigator, finishTick_navigator]

theorem tickStraight_eq :
    a.tickStraight r =
      (a.prepared.tryAdvanceStraight r a.controller.period).map (settleTick · r.now) := rfl

variable {r} {x : α} {f : TerrainFault}

theorem tickStraight_ok (hx : a.offsetFor r a.navigator.segment.aboveTerrain = .ok x) :
    a.tickStraight r =
      .done ((a.prepared.advanceStraight r a.controller.period x).settleTick r.now) [] := by
  have hp : a.prepared.offsetFor r a.prepared.navigator.segment.aboveTerrain = .ok x := by
    rw [prepared_offsetFor, prepared_navigator, hx]
  rw [tickStraight_eq, tryAdvanceStraight, hp]
  rfl

theorem tickStraight_error (hf : a.offsetFor r a.navigator.segment.aboveTerrain = .error f) :
    a.tickStraight r =
      ⟨some (.error .terrainUnavailable), a.prepared.settleTick r.now, [.terrain f]⟩ := by
  have hp : a.prepared.offsetFor r a.prepared.navigator.segment.aboveTerrain = .error f := by
    rw [prepared_offsetFor, prepared_navigator, hf]
  rw [tickStraight_eq, tryAdvanceStraight, hp]
  rfl

def sightAt (r : Readings α) (x : α) : Sight α := a.navigator.segment.sight r.position x

def approachAt (r : Readings α) (x : α) : Approach α :=
  a.prepared.approach r (a.sightAt r x) a.controller.period

theorem advanceStraight_navigator :
    (a.prepared.advanceStraight r a.controller.period x).navigator =
      ({ a.prepared.navigator with
        track := a.navigator.movedTrack (a.sightAt r x) (a.approachAt r x)
        flags.slowingDown := a.navigator.slowsDown (a.approachAt r x)
        flags.reached := a.navigator.flags.reached ||
          a.navigator.arrives r.position x
            (a.navigator.movedTrack (a.sightAt r x) (a.approachAt r x)).desired } :
        Navigator α).choose
        (Heading.onStraight a.navigator.segment.lengthXY a.controller.leashXY
          a.navigator.segment.origin a.navigator.segment.destination
          (a.navigator.segment.pointAt
            (a.navigator.movedTrack (a.sightAt r x) (a.approachAt r x)).desired x) r.position) := by
  rw [← prepared_leashXY]
  simp only [advanceStraight, prepared_navigator, approachAt, sightAt]
  rfl

theorem tickStraight_track_ok (hx : a.offsetFor r a.navigator.segment.aboveTerrain = .ok x) :
    (a.tickStraight r).state.navigator.track =
      { a.navigator.movedTrack (a.sightAt r x) (a.approachAt r x) with
        limits := (a.tickStraight r).state.navigator.track.limits } := by
  rw [tickStraight_ok a hx]
  simp only [Outcome.done, settleTick_navigator, advanceStraight_navigator, Navigator.choose_eq]

theorem tickStraight_track_error
    (hf : a.offsetFor r a.navigator.segment.aboveTerrain = .error f) :
    (a.tickStraight r).state.navigator.track =
      { a.navigator.track with
        limits := (a.tickStraight r).state.navigator.track.limits } := by
  rw [tickStraight_error a hf]
  simp only [settleTick_navigator, prepared_navigator]

theorem exists_offset_of_tickStraight (h : (a.tickStraight r).fault = none) :
    ∃ x, a.offsetFor r a.navigator.segment.aboveTerrain = .ok x := by
  cases hx : a.offsetFor r a.navigator.segment.aboveTerrain with
  | error f =>
    rw [tickStraight_error a hx] at h
    cases h
  | ok x => exact ⟨x, rfl⟩

variable (r)

theorem tickStraight_controller :
    ∃ positionTarget freezes,
      (a.tickStraight r).state.controller =
        { a.prepared.controller with positionTarget, freezes }.update := by
  cases h : a.offsetFor r a.navigator.segment.aboveTerrain with
  | error f =>
    rw [tickStraight_error a h]
    obtain ⟨freezes, hc⟩ := a.prepared.settleTick_controller r.now
    exact ⟨a.prepared.controller.positionTarget, freezes, hc⟩
  | ok x =>
    rw [tickStraight_ok a h]
    obtain ⟨freezes, hc⟩ :=
      (a.prepared.advanceStraight r a.controller.period x).settleTick_controller r.now
    exact ⟨_, freezes, hc⟩

theorem tickStraight_period :
    (a.tickStraight r).state.controller.period = a.controller.period := by
  obtain ⟨_, _, h⟩ := a.tickStraight_controller r
  obtain ⟨_, _, _, _, _, hp⟩ := a.prepared_controller
  rw [h, PositionController.update_period, hp]

/-- A tick moves the target, and computes the limits again where a changed speed asks for it. The
segment, the spline and the parameters stay. -/
theorem tickStraight_navigator :
    ∃ desired limitedSpeed errorXY errorZ heading slowingDown reached,
      (a.tickStraight r).state.navigator =
        { a.navigator with
          track :=
            { desired, limitedSpeed, errorXY, errorZ
              limits :=
                if a.navigator.flags.limitsStale || a.governs then
                  (a.tickStraight r).state.trackLimits
                else a.navigator.track.limits }
          heading
          flags :=
            { a.navigator.flags with
              slowingDown, reached, limitsStale := false, newDestination := false }
          lastTick := some r.now } := by
  cases h : a.offsetFor r a.navigator.segment.aboveTerrain with
  | error f =>
    rw [tickStraight_error a h]
    simp only [settleTick_navigator, prepared_navigator]
    exact ⟨_, _, _, _, _, _, _, rfl⟩
  | ok x =>
    rw [tickStraight_ok a h]
    simp only [Outcome.done, settleTick_navigator, advanceStraight_navigator, Navigator.choose_eq,
      prepared_navigator]
    exact ⟨_, _, _, _, _, _, _, rfl⟩

@[simp]
theorem tickStraight_segment :
    (a.tickStraight r).state.navigator.segment = a.navigator.segment := by
  obtain ⟨_, _, _, _, _, _, _, h⟩ := a.tickStraight_navigator r
  rw [h]

@[simp]
theorem tickStraight_spline :
    (a.tickStraight r).state.navigator.spline = a.navigator.spline := by
  obtain ⟨_, _, _, _, _, _, _, h⟩ := a.tickStraight_navigator r
  rw [h]

@[simp]
theorem tickStraight_params :
    (a.tickStraight r).state.navigator.params = a.navigator.params := by
  obtain ⟨_, _, _, _, _, _, _, h⟩ := a.tickStraight_navigator r
  rw [h]

@[simp]
theorem tickStraight_fast :
    (a.tickStraight r).state.navigator.flags.fast = a.navigator.flags.fast := by
  obtain ⟨_, _, _, _, _, _, _, h⟩ := a.tickStraight_navigator r
  rw [h]

@[simp]
theorem tickStraight_limitsStale :
    (a.tickStraight r).state.navigator.flags.limitsStale = false := by
  obtain ⟨_, _, _, _, _, _, _, h⟩ := a.tickStraight_navigator r
  rw [h]

theorem tickStraight_limits :
    (a.tickStraight r).state.navigator.track.limits =
      if a.navigator.flags.limitsStale || a.governs then (a.tickStraight r).state.trackLimits
      else a.navigator.track.limits := by
  obtain ⟨_, _, _, _, _, _, _, h⟩ := a.tickStraight_navigator r
  rw [h]

variable {r}

theorem tickStraight_target_ok (hx : a.offsetFor r a.navigator.segment.aboveTerrain = .ok x) :
    (a.tickStraight r).state.controller.positionTarget =
      a.navigator.segment.pointAt (a.tickStraight r).state.navigator.track.desired x := by
  rw [tickStraight_track_ok a hx, tickStraight_ok a hx]
  obtain ⟨_, hc⟩ :=
    (a.prepared.advanceStraight r a.controller.period x).settleTick_controller r.now
  simp only [Outcome.done, hc, PositionController.update_positionTarget]
  simp only [advanceStraight, prepared_navigator, approachAt, sightAt, point]
  rfl

end Autopilot

end WaypointFlight
