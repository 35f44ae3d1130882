import Mathlib.Logic.Relation
import WaypointFlight.Proofs.KeptTarget
import WaypointFlight.Proofs.SimulatedFlights
import WaypointFlight.Proofs.SplineRamp
import WaypointFlight.Proofs.StraightProgress

namespace WaypointFlight

open Scalar

namespace PositionController

variable {c : PositionController ℝ}

theorem stoppingPoint_of_rest (h : c.vehicleVelocity = .zero) :
    c.stoppingPoint = c.vehiclePosition := by
  have hxy : c.stoppingPointXY = c.vehiclePosition.horizontal := by
    unfold stoppingPointXY
    split_ifs
    · rfl
    · rw [h]
      ext
      · show c.vehiclePosition.north + Vec3.zero.north * _ = c.vehiclePosition.north
        rw [Vec3.zero_north, zero_mul, add_zero]
      · show c.vehiclePosition.east + Vec3.zero.east * _ = c.vehiclePosition.east
        rw [Vec3.zero_east, zero_mul, add_zero]
  have hup : c.stoppingAltitude = c.vehiclePosition.up := by
    unfold stoppingAltitude
    split_ifs
    · rfl
    · dsimp only
      rw [h, Vec3.zero_up, zero_mul, zero_div, add_zero]
  rw [stoppingPoint, hxy, hup]
  rfl

theorem saturated_eq (h : 0 ≤ c.speedXY) (v : Vec2 ℝ) :
    ∃ k : ℝ, 0 ≤ k ∧ k ≤ 1 ∧ c.saturated v = v * k := by
  unfold saturated
  split_ifs with hfast
  · rw [zero_literal] at hfast
    exact ⟨c.speedXY / v.norm, div_nonneg h hfast.2.le, (div_le_one hfast.2).mpr hfast.1.le, rfl⟩
  · refine ⟨1, zero_le_one, le_rfl, ?_⟩
    ext
    · exact (mul_one _).symm
    · exact (mul_one _).symm

/-- A controller that does not answer an error with more than the error itself in one period. -/
structure Stable (c : PositionController ℝ) : Prop extends c.Sound where
  gain : 0 ≤ c.gainXY
  answer : c.gainXY * c.period ≤ 1
  speedDown : c.speedDown ≤ 0

theorem Stable.demand (h : c.Stable) {u : Vec3 ℝ} (hlevel : u.up = 0) {d : ℝ} (hd : 0 ≤ d) :
    ∃ v, 0 ≤ v ∧ v * c.period ≤ d ∧ c.demand (u * d) = u * v := by
  obtain ⟨k, hk, hk', hv⟩ := saturated_eq h.speedXY ((u * d).horizontal * c.gainXY)
  have hanswer : 0 ≤ d * c.gainXY := mul_nonneg hd h.gain
  refine ⟨d * c.gainXY * k, mul_nonneg hanswer hk, ?_, ?_⟩
  · calc
      d * c.gainXY * k * c.period ≤ d * c.gainXY * 1 * c.period := by
        have hperiod := h.period
        gcongr
      _ = d * (c.gainXY * c.period) := by ring
      _ ≤ d := mul_le_of_le_one_right hd h.answer
  · rw [PositionController.demand, hv]
    ext
    · show u.north * d * c.gainXY * k = u.north * (d * c.gainXY * k)
      ring
    · show u.east * d * c.gainXY * k = u.east * (d * c.gainXY * k)
      ring
    · show minNum (maxNum (u.up * d * c.gainZ) c.speedDown) c.speedUp = u.up * _
      rw [hlevel, zero_mul, zero_mul, zero_mul, maxNum_real, minNum_real, max_eq_left h.speedDown,
        min_eq_left h.speedUp]

end PositionController

namespace Autopilot

theorem startedController_speedXY_nonneg {c : PositionController ℝ} {p : Params ℝ}
    (hc : 0 ≤ c.speedXY) (hp : 0 ≤ p.speed) : 0 ≤ (startedController c p).speedXY := by
  simp only [startedController, PositionController.limitSpeedXY_eq,
    PositionController.limitAccelXY_eq, PositionController.limitSpeedZ_eq,
    PositionController.limitAccelZ_eq]
  show 0 ≤ if _ then p.speed else c.speedXY
  split_ifs
  · exact hp
  · exact hc

theorem repairAccel_params_eq (a : Autopilot ℝ) :
    ∃ accel, a.repairAccel.navigator.params = { a.navigator.params with accel } := by
  unfold repairAccel
  split_ifs
  · exact ⟨_, rfl⟩
  · exact ⟨a.navigator.params.accel, rfl⟩

theorem stable_startedController {c : PositionController ℝ} {p : Params ℝ} (h : c.Stable)
    (hspeed : 0 ≤ p.speed) (hup : 0 ≤ p.speedUp) :
    (startedController c p).Stable ∧
      (startedController c p).vehiclePosition = c.vehiclePosition ∧
      (startedController c p).vehicleVelocity = c.vehicleVelocity := by
  have hlimit := startedController_speedXY_nonneg h.speedXY hspeed
  simp only [startedController, PositionController.limitSpeedXY_eq,
    PositionController.limitAccelXY_eq, PositionController.limitSpeedZ_eq,
    PositionController.limitAccelZ_eq] at hlimit ⊢
  refine ⟨⟨⟨h.period, hlimit, ?_⟩, h.gain, h.answer, ?_⟩, rfl, rfl⟩
  · show 0 ≤ if _ then p.speedUp else c.speedUp
    split_ifs
    · exact hup
    · exact h.speedUp
  · show (if _ then -|(-p.speedDown)| else c.speedDown) ≤ 0
    split_ifs
    · exact neg_nonpos.mpr (abs_nonneg _)
    · exact h.speedDown

theorem stable_start {a : Autopilot ℝ} (h : a.controller.Stable)
    (hspeed : 0 ≤ a.navigator.params.speed) (hup : 0 ≤ a.navigator.params.speedUp) :
    let b := a.start.state
    b.controller.Stable ∧ b.controller.vehiclePosition = a.controller.vehiclePosition ∧
      b.controller.vehicleVelocity = a.controller.vehicleVelocity ∧
      0 ≤ b.navigator.requestedSpeed ∧ 0 ≤ b.navigator.params.accel ∧
      b.navigator.lastTick = a.navigator.lastTick := by
  intro b
  obtain ⟨accel, hparams⟩ := a.repairAccel_params_eq
  have hlast : a.repairAccel.navigator.lastTick = a.navigator.lastTick := by
    unfold repairAccel
    split_ifs <;> rfl
  have hcontroller : b.controller =
      startedController a.controller a.repairAccel.navigator.params := by
    rw [← a.repairAccel_controller]
    rfl
  have hspeed' : 0 ≤ a.repairAccel.navigator.params.speed := by rwa [hparams]
  have hup' : 0 ≤ a.repairAccel.navigator.params.speedUp := by rwa [hparams]
  obtain ⟨hstable, hposition, hvelocity⟩ := stable_startedController h hspeed' hup'
  rw [hcontroller]
  exact ⟨hstable, hposition, hvelocity, hspeed', a.repairAccel_pos.le, hlast⟩

section Tick

variable {α : Type} [Analytic α] (a : Autopilot α) (r : Readings α)

theorem tickStraight_velocityTarget :
    let c := (a.tickStraight r).state.controller
    c.velocityTarget = c.demand (c.positionTarget - c.vehiclePosition) := by
  obtain ⟨_, _, h⟩ := a.tickStraight_controller r
  rw [h]
  simp only [PositionController.update, PositionController.refreshStale_eq]
  rfl

theorem tickStraight_keeps :
    let c := (a.tickStraight r).state.controller
    c.gainXY = a.controller.gainXY ∧ c.speedDown = a.controller.speedDown ∧
      c.vehiclePosition = a.controller.vehiclePosition := by
  obtain ⟨_, _, h⟩ := a.tickStraight_controller r
  obtain ⟨_, _, _, _, _, hp⟩ := a.prepared_controller
  rw [h, hp]
  simp only [PositionController.update, PositionController.refreshStale_eq, and_self]

theorem tickStraight_requestedSpeed :
    (a.tickStraight r).state.navigator.requestedSpeed = a.navigator.requestedSpeed := by
  obtain ⟨_, _, _, _, _, _, _, h⟩ := a.tickStraight_navigator r
  rw [h]

end Tick

theorem stable_tickStraight {a : Autopilot ℝ} (h : a.controller.Stable)
    (hr : 0 ≤ a.navigator.requestedSpeed) (ha : 0 ≤ a.navigator.params.accel) (r : Readings ℝ) :
    (a.tickStraight r).state.controller.Stable := by
  obtain ⟨hgain, hdown, -⟩ := a.tickStraight_keeps r
  refine ⟨sound_tickStraight h.toSound hr ha r, ?_, ?_, ?_⟩
  · rw [hgain]
    exact h.gain
  · rw [hgain, tickStraight_period]
    exact h.answer
  · rw [hdown]
    exact h.speedDown

end Autopilot

namespace Simulation

section Cycle

variable {α : Type} [Analytic α]

/-- Starts the controller and gives it a destination. -/
def setOut (s : Simulation α) (c : Command α) : Simulation α × Outcome α :=
  (s.command .start).1.command c

/-- How far the vehicle has come along the segment. -/
def progress (s : Simulation α) : α :=
  (s.position - s.autopilot.navigator.segment.origin).dot s.autopilot.navigator.segment.direction

/-- The control cycle. A step of the world needs a tick since the last, which the flag tells. Speeds
are requested at any time. -/
inductive Cycle : Bool × Simulation α → Bool × Simulation α → Prop where
  | request (ticked : Bool) (s : Simulation α) (v : α) :
      Cycle (ticked, s) (ticked, (s.command (.requestSpeed v)).1)
  | tick (ticked : Bool) (s : Simulation α) :
      Cycle (ticked, s) (true, (s.command .tickStraight).1)
  | step {s t : Simulation α} (h : s.step = .ok t) : Cycle (true, s) (false, t)

end Cycle

/-- From rest, and with the navigator inactive, the vehicle departs for an ordinary waypoint at its
own altitude. -/
structure Departs (s : Simulation ℝ) (c : Command ℝ) : Prop where
  seen : s.autopilot.controller.vehiclePosition = s.position
  rest : s.autopilot.controller.vehicleVelocity = .zero
  controller : s.autopilot.controller.Stable
  speed : 0 ≤ s.autopilot.navigator.params.speed
  speedUp : 0 ≤ s.autopilot.navigator.params.speedUp
  inactive : s.autopilot.navigator.isActive s.now = false
  straight : c.sets = some .straight
  choosesOrigin : c.ChoosesOrigin
  accepted : (s.setOut c).2.fault = none
  aboveOrigin : (s.setOut c).1.autopilot.navigator.segment.aboveTerrain = false
  level : (s.setOut c).1.autopilot.navigator.segment.destination.up = s.position.up

structure Follows (s : Simulation ℝ) : Prop where
  onTrack : OnTrack s.autopilot
  controller : s.autopilot.controller.Stable
  requested : 0 ≤ s.autopilot.navigator.requestedSpeed
  accel : 0 ≤ s.autopilot.navigator.params.accel
  ordinary : s.autopilot.navigator.flags.fast = false
  aboveOrigin : s.autopilot.navigator.segment.aboveTerrain = false
  level : s.autopilot.navigator.segment.direction.up = 0
  direction : Segment.IsDirection s.autopilot.navigator.segment.direction
  seen : s.autopilot.controller.vehiclePosition = s.position
  position : s.position =
    s.autopilot.navigator.segment.origin + s.autopilot.navigator.segment.direction * s.progress
  nonneg : 0 ≤ s.progress
  behind : s.progress ≤ s.autopilot.navigator.track.desired

/-- The velocity demanded leads along the track, in one period no further than to the target. -/
def Driven (s : Simulation ℝ) : Prop :=
  ∃ v, 0 ≤ v ∧
    v * s.autopilot.controller.period ≤ s.autopilot.navigator.track.desired - s.progress ∧
    s.autopilot.controller.velocityTarget = s.autopilot.navigator.segment.direction * v

variable {s t : Simulation ℝ}

theorem progress_eq {x : ℝ} (h : s.position =
      s.autopilot.navigator.segment.origin + s.autopilot.navigator.segment.direction * x) :
    s.progress = x * s.autopilot.navigator.segment.direction.dot
      s.autopilot.navigator.segment.direction := by
  have hdelta : s.position - s.autopilot.navigator.segment.origin =
      s.autopilot.navigator.segment.direction * x := by
    rw [h]
    ext <;> simp
  rw [progress, hdelta, Vec3.mul_dot]

theorem Follows.offset (h : s.Follows) :
    s.autopilot.offsetFor s.readings s.autopilot.navigator.segment.aboveTerrain = .ok 0.0 := by
  rw [h.aboveOrigin]
  rfl

theorem Follows.sight_error (h : s.Follows) :
    (s.autopilot.sightAt s.readings 0.0).error = .zero := by
  have hdelta : s.readings.position - Vec3.vertical 0.0 - s.autopilot.navigator.segment.origin =
      s.autopilot.navigator.segment.direction * s.progress := by
    show s.position - Vec3.vertical 0.0 - s.autopilot.navigator.segment.origin = _
    rw [h.position]
    ext <;> simp
  simp only [Autopilot.sightAt, Segment.sight, hdelta, h.direction.mul_dot_mul]
  ext <;> simp

theorem Follows.lead (h : s.Follows) (d : ℝ) :
    s.autopilot.navigator.segment.pointAt d 0.0 - s.position =
      s.autopilot.navigator.segment.direction * (d - s.progress) := by
  rw [h.position, Segment.pointAt]
  ext
  · simp only [Vec3.sub_north, Vec3.add_north, Vec3.mul_north, Vec3.vertical_north]
    ring
  · simp only [Vec3.sub_east, Vec3.add_east, Vec3.mul_east, Vec3.vertical_east]
    ring
  · simp only [Vec3.sub_up, Vec3.add_up, Vec3.mul_up, Vec3.vertical_up, zero_literal]
    ring

theorem command_requestSpeed (s : Simulation ℝ) (v : ℝ) :
    (s.command (.requestSpeed v)).1 = s ∨
      0 ≤ v ∧ (s.command (.requestSpeed v)).1 =
        { s with autopilot.navigator.requestedSpeed := v } := by
  simp only [command, commandWith, Command.run, Outcome.done, Autopilot.requestSpeed]
  split_ifs with h
  · exact .inr ⟨le_trans (by norm_num [Autopilot.slowestRequest]) h, rfl⟩
  · exact .inl rfl

theorem tick_segment (s : Simulation ℝ) :
    (s.command .tickStraight).1.autopilot.navigator.segment = s.autopilot.navigator.segment :=
  s.autopilot.tickStraight_segment s.readings

theorem tick_progress (s : Simulation ℝ) :
    (s.command .tickStraight).1.progress = s.progress := by
  rw [progress, tick_segment]
  rfl

theorem Follows.tick (h : s.Follows) : (s.command .tickStraight).1.Follows := by
  set a := s.autopilot
  set t := (s.command .tickStraight).1
  have hsegment : t.autopilot.navigator.segment = a.navigator.segment := s.tick_segment
  have hstate : t.autopilot = (a.tickStraight s.readings).state := rfl
  have hsound : a.controller.Sound := h.controller.toSound
  have hdesired := Autopilot.tickStraight_desired_mem h.onTrack hsound s.readings
  refine ⟨Autopilot.onTrack_tickStraight h.onTrack hsound s.readings,
    Autopilot.stable_tickStraight h.controller h.requested h.accel s.readings,
    ?_, ?_, ?_, ?_, ?_, ?_, ?_, ?_, ?_, ?_⟩
  · rw [hstate, Autopilot.tickStraight_requestedSpeed]
    exact h.requested
  · rw [hstate, Autopilot.tickStraight_params]
    exact h.accel
  · rw [hstate, Autopilot.tickStraight_fast]
    exact h.ordinary
  · rw [hsegment]
    exact h.aboveOrigin
  · rw [hsegment]
    exact h.level
  · rw [hsegment]
    exact h.direction
  · exact (a.tickStraight_keeps s.readings).2.2.trans h.seen
  · rw [tick_progress, hsegment]
    exact h.position
  · rw [tick_progress]
    exact h.nonneg
  · rw [tick_progress]
    exact h.behind.trans hdesired.1

theorem Follows.tick_driven (h : s.Follows) : (s.command .tickStraight).1.Driven := by
  have ht := h.tick
  set t := (s.command .tickStraight).1
  have htarget : t.autopilot.controller.positionTarget =
      t.autopilot.navigator.segment.pointAt t.autopilot.navigator.track.desired 0.0 := by
    rw [tick_segment]
    exact Autopilot.tickStraight_target_ok s.autopilot h.offset
  obtain ⟨v, hv, hle, hdemand⟩ := ht.controller.demand ht.level (sub_nonneg.mpr ht.behind)
  refine ⟨v, hv, hle, ?_⟩
  rw [← hdemand, ← ht.lead, ← htarget, ← ht.seen]
  exact s.autopilot.tickStraight_velocityTarget s.readings

theorem Follows.move_position (h : s.Follows) {v : ℝ}
    (hv : s.autopilot.controller.velocityTarget = s.autopilot.navigator.segment.direction * v) :
    s.move.position = s.autopilot.navigator.segment.origin +
      s.autopilot.navigator.segment.direction *
        (s.progress + v * s.autopilot.controller.period) := by
  show s.position + s.autopilot.controller.velocityTarget * s.autopilot.controller.period = _
  rw [hv]
  nth_rewrite 1 [h.position]
  ext
  · simp only [Vec3.add_north, Vec3.mul_north]
    ring
  · simp only [Vec3.add_east, Vec3.mul_east]
    ring
  · simp only [Vec3.add_up, Vec3.mul_up]
    ring

theorem Follows.move (h : s.Follows) (hd : s.Driven) (now : Nat) :
    let t : Simulation ℝ := { s.move with now }
    t.Follows ∧ s.progress ≤ t.progress := by
  intro t
  obtain ⟨v, hv, hle, hvelocity⟩ := hd
  have hstep : 0 ≤ v * s.autopilot.controller.period := mul_nonneg hv h.controller.period
  have hposition : t.position = _ := h.move_position hvelocity
  set u := s.autopilot.navigator.segment.direction
  have hdirection : Segment.IsDirection u := h.direction
  -- a track without a direction has no progress, so the square of the direction stays in
  have hbefore : s.progress = s.progress * u.dot u := progress_eq h.position
  have hafter : t.progress = (s.progress + v * s.autopilot.controller.period) * u.dot u :=
    progress_eq hposition
  have hon : s.progress ≤ t.progress := by
    rw [hafter, add_mul, ← hbefore]
    exact le_add_of_nonneg_right (mul_nonneg hstep (Vec3.dot_self_nonneg u))
  have honTrack : OnTrack t.autopilot :=
    ⟨h.onTrack.nonneg, h.onTrack.le_end, h.onTrack.length,
      fun _ ↦ h.onTrack.speed h.controller.toSound, h.onTrack.chord⟩
  have hbehind : t.progress ≤ s.autopilot.navigator.track.desired := by
    have hwhole : t.progress ≤ s.progress + v * s.autopilot.controller.period := by
      rw [hafter]
      exact mul_le_of_le_one_right (add_nonneg h.nonneg hstep) hdirection.dot_self_le
    exact hwhole.trans (le_sub_iff_add_le'.mp hle)
  have hcontroller : t.autopilot.controller.Stable :=
    ⟨⟨h.controller.period, h.controller.speedXY, h.controller.speedUp⟩, h.controller.gain,
      h.controller.answer, h.controller.speedDown⟩
  refine ⟨⟨honTrack, hcontroller, h.requested, h.accel, h.ordinary, h.aboveOrigin, h.level,
    h.direction, rfl, ?_, h.nonneg.trans hon, hbehind⟩, hon⟩
  rw [hposition, ← hdirection.mul_dot_mul, Vec3.mul_dot, ← hafter]
  rfl

def Loop (p : Bool × Simulation ℝ) : Prop := p.2.Follows ∧ (p.1 = true → p.2.Driven)

variable {p q : Bool × Simulation ℝ}

theorem Loop.cycle (h : Loop p) (hpq : Cycle p q) :
    Loop q ∧ p.2.progress ≤ q.2.progress ∧
      q.2.autopilot.navigator.segment = p.2.autopilot.navigator.segment := by
  obtain ⟨hfollows, hdriven⟩ := h
  cases hpq with
  | request ticked s v =>
    obtain hs | ⟨hv, hs⟩ := s.command_requestSpeed v
    · rw [hs]
      exact ⟨⟨hfollows, hdriven⟩, le_rfl, rfl⟩
    · rw [hs]
      refine ⟨⟨⟨?_, hfollows.controller, hv, hfollows.accel, hfollows.ordinary,
        hfollows.aboveOrigin, hfollows.level, hfollows.direction, hfollows.seen, hfollows.position,
        hfollows.nonneg, hfollows.behind⟩, hdriven⟩, le_rfl, rfl⟩
      exact ⟨hfollows.onTrack.nonneg, hfollows.onTrack.le_end, hfollows.onTrack.length,
        hfollows.onTrack.speed, hfollows.onTrack.chord⟩
  | tick ticked s =>
    exact ⟨⟨hfollows.tick, fun _ ↦ hfollows.tick_driven⟩, s.tick_progress.ge, s.tick_segment⟩
  | @step s t hstep =>
    obtain ⟨now, rfl⟩ := step_ok hstep
    obtain ⟨ht, hprogress⟩ := hfollows.move (hdriven rfl) now
    exact ⟨⟨ht, fun h ↦ absurd h Bool.false_ne_true⟩, hprogress, rfl⟩

theorem Loop.run (h : Loop p) (hpq : Relation.ReflTransGen Cycle p q) :
    Loop q ∧ p.2.progress ≤ q.2.progress ∧
      q.2.autopilot.navigator.segment = p.2.autopilot.navigator.segment := by
  induction hpq with
  | refl => exact ⟨h, le_rfl, rfl⟩
  | tail _ hstep ih =>
    obtain ⟨hloop, hprogress, hsegment⟩ := ih
    obtain ⟨hnext, hon, hsame⟩ := hloop.cycle hstep
    exact ⟨hnext, hprogress.trans hon, hsame.trans hsegment⟩

section Departure

variable {c : Command ℝ} (h : s.Departs c)

include h

theorem Departs.origin : (s.setOut c).1.autopilot.navigator.segment.origin = s.position := by
  set a := s.autopilot.start.state
  set r := (s.command .start).1.readings
  obtain ⟨-, hseen, hvelocity, -, -, hlast⟩ :=
    Autopilot.stable_start h.controller h.speed h.speedUp
  obtain ⟨x, hbegins⟩ :=
    (c.run_choosesOrigin h.choosesOrigin r a).resolve_left fun hr ↦ hr.1 h.accepted
  have hx : 0.0 = x := by
    have hoffset : a.offsetFor r (s.setOut c).1.autopilot.navigator.segment.aboveTerrain = .ok x :=
      hbegins.offset
    rw [h.aboveOrigin] at hoffset
    exact Except.ok.inj hoffset
  have hdefault : a.defaultOrigin r.now = s.position := by
    have hinactive : ¬ a.navigator.isActive r.now = true := by
      rw [Navigator.isActive, hlast]
      exact Bool.eq_false_iff.mp h.inactive
    rw [Autopilot.defaultOrigin, if_neg hinactive,
      PositionController.stoppingPoint_of_rest (hvelocity.trans h.rest)]
    exact hseen.trans h.seen
  have htarget : (s.setOut c).1.autopilot.navigator.segment.origin + Vec3.vertical x =
      a.defaultOrigin r.now := hbegins.target
  rw [← hdefault, ← htarget, ← hx]
  ext <;> simp

theorem Departs.progress : (s.setOut c).1.progress = 0 := by
  have hposition : (s.setOut c).1.position = s.position := rfl
  rw [Simulation.progress, h.origin, hposition]
  simp [Vec3.dot_real]

theorem Departs.follows : (s.setOut c).1.Follows := by
  set t := (s.setOut c).1
  set a := s.autopilot.start.state
  set r := (s.command .start).1.readings
  obtain ⟨hstable, hseen, -, hrequested, haccel, -⟩ :=
    Autopilot.stable_start h.controller h.speed h.speedUp
  obtain ⟨o, d, above, x, -, hrun⟩ :=
    (c.run_straight r a h.straight).resolve_left fun hr ↦ hr.1 h.accepted
  have ht : t.autopilot = a.beginStraight r o d above x := congrArg Outcome.state hrun
  have honTrack : OnTrack t.autopilot := ht ▸ Autopilot.onTrack_beginStraight a r o d above x
  have hchord : t.autopilot.navigator.segment.direction = Segment.directionOf
      (t.autopilot.navigator.segment.destination - t.autopilot.navigator.segment.origin) := by
    rw [ht]
    rfl
  refine ⟨honTrack, ?_, ?_, ?_, ?_, h.aboveOrigin, ?_, ?_, ?_, ?_, h.progress.ge, ?_⟩
  · rw [ht]
    exact ⟨⟨hstable.period, hstable.speedXY, hstable.speedUp⟩, hstable.gain, hstable.answer,
      hstable.speedDown⟩
  · rw [ht]
    exact hrequested
  · rw [ht]
    exact haccel
  · rw [ht]
    rfl
  · rw [hchord]
    refine Segment.directionOf_level ?_
    rw [Vec3.sub_up, h.origin, h.level, sub_self]
  · rw [hchord]
    exact Segment.isDirection_directionOf _
  · rw [ht]
    exact hseen.trans h.seen
  · rw [h.origin, h.progress]
    show s.position = _
    ext <;> simp
  · rw [h.progress]
    exact honTrack.nonneg

/-- The closed loop, at two moments `p` and `q` of a flight. The vehicle keeps to the track, where
it never goes back and never passes its target, which never passes the destination. A tick sees the
vehicle without an error across the track. -/
theorem closed_loop (hp : Relation.ReflTransGen Cycle (false, (s.setOut c).1) p)
    (hq : Relation.ReflTransGen Cycle p q) :
    let t := q.2
    let segment := t.autopilot.navigator.segment
    let tick := t.autopilot.tickStraight t.readings
    segment = (s.setOut c).1.autopilot.navigator.segment ∧ segment.origin = s.position ∧
      (¬ IsZero segment.length →
        segment.origin + segment.direction * segment.length = segment.destination) ∧
      t.position = segment.origin + segment.direction * t.progress ∧
      0 ≤ p.2.progress ∧ p.2.progress ≤ t.progress ∧
      t.progress ≤ t.autopilot.navigator.track.desired ∧
      t.autopilot.navigator.track.desired ≤ segment.length ∧
      tick.fault = none ∧ tick.state.navigator.track.errorXY = 0 ∧
      tick.state.navigator.track.errorZ = 0 := by
  intro t segment tick
  have hbegin : Loop (false, (s.setOut c).1) :=
    ⟨h.follows, fun hticked ↦ absurd hticked Bool.false_ne_true⟩
  obtain ⟨hloop, -, hsame⟩ := hbegin.run hp
  obtain ⟨⟨ht, -⟩, hprogress, hsame'⟩ := hloop.run hq
  have hsegment : segment = (s.setOut c).1.autopilot.navigator.segment := hsame'.trans hsame
  have hend : t.autopilot.navigator.track.desired ≤ segment.length := by
    have hle := ht.onTrack.le_end
    rwa [Navigator.trackEnd, ht.ordinary, if_neg Bool.false_ne_true] at hle
  have htrack : tick.state.navigator.track = _ :=
    Autopilot.tickStraight_track_ok t.autopilot ht.offset
  refine ⟨hsegment, hsegment ▸ h.origin, ht.onTrack.chord, ht.position, hloop.1.nonneg, hprogress,
    ht.behind, hend, congrArg Outcome.fault (Autopilot.tickStraight_ok _ ht.offset), ?_, ?_⟩
  · rw [htrack]
    show (t.autopilot.sightAt t.readings 0.0).errorXY = 0
    rw [Sight.errorXY, ht.sight_error]
    simp
  · rw [htrack]
    show (t.autopilot.sightAt t.readings 0.0).errorZ = 0
    rw [Sight.errorZ, ht.sight_error]
    simp

end Departure

theorem departs_standard :
    (Simulation.standard : Simulation ℝ).Departs (.straightTo ⟨3000, 4000, 0⟩ false) := by
  refine ⟨rfl, rfl, ⟨⟨?_, ?_, ?_⟩, ?_, ?_, ?_⟩, ?_, ?_, rfl, rfl, trivial, rfl, rfl, ?_⟩
  · show (0 : ℝ) ≤ 0.01
    norm_num
  · show (0 : ℝ) ≤ 500.0
    norm_num
  · show (0 : ℝ) ≤ 250.0
    norm_num
  · show (0 : ℝ) ≤ 1.0
    norm_num
  · show (1.0 : ℝ) * 0.01 ≤ 1
    norm_num
  · show (-150.0 : ℝ) ≤ 0
    norm_num
  · show (0 : ℝ) ≤ 500.0
    norm_num
  · show (0 : ℝ) ≤ 250.0
    norm_num
  · show (0 : ℝ) = 0.0
    norm_num

theorem closed_loop_standard :
    let s : Simulation ℝ := .standard
    let c : Command ℝ := .straightTo ⟨3000, 4000, 0⟩ false
    let u := (s.setOut c).1
    let v := (u.command .tickStraight).1
    s.Departs c ∧ Relation.ReflTransGen Cycle (false, u) (true, v) ∧
      ∃ t, Relation.ReflTransGen Cycle (true, v) (false, t) ∧
        t.position = u.autopilot.navigator.segment.origin +
          u.autopilot.navigator.segment.direction * t.progress ∧
        0 ≤ v.progress ∧ v.progress ≤ t.progress ∧
        t.progress ≤ t.autopilot.navigator.track.desired ∧
        t.autopilot.navigator.track.desired ≤ u.autopilot.navigator.segment.length := by
  intro s c u v
  have hdeparts : s.Departs c := departs_standard
  have hticked : Relation.ReflTransGen Cycle (false, u) (true, v) := .single (.tick false u)
  set w := (v.command (.requestSpeed 300)).1 with hw
  have hperiod : w.autopilot.controller.period = 0.01 := by
    have hv : v.autopilot.controller.period = 0.01 := by
      show (u.autopilot.tickStraight u.readings).state.controller.period = _
      rw [Autopilot.tickStraight_period]
      exact (Autopilot.startedController_period s.autopilot.repairAccel.controller _).trans
        (congrArg PositionController.period s.autopilot.repairAccel_controller)
    obtain hsame | ⟨-, hsame⟩ := v.command_requestSpeed 300
    · rw [hw, hsame, hv]
    · rw [hw, hsame]
      exact hv
  obtain ⟨t, ht⟩ : ∃ t, w.step = .ok t := by
    have hclock : WordRange.unsigned64.Contains (w.move.now + 10 : Nat) := by
      show WordRange.unsigned64.Contains (startTime + 10 : Nat)
      decide
    rw [step, hperiod, milliseconds_standard]
    exact ⟨_, if_pos hclock⟩
  have hflown : Relation.ReflTransGen Cycle (true, v) (false, t) :=
    .tail (.single (.request true v 300)) (.step ht)
  obtain ⟨hsegment, -, -, hposition, hnonneg, hon, hbehind, hend, -⟩ :=
    closed_loop hdeparts hticked hflown
  rw [hsegment] at hposition hend
  exact ⟨hdeparts, hticked, t, hflown, hposition, hnonneg, hon, hbehind, hend⟩

end Simulation

end WaypointFlight
