import WaypointFlight.Proofs.ClosedLoop
import WaypointFlight.Proofs.ControllerCalls
import WaypointFlight.Proofs.GovernedSpeed
import WaypointFlight.Proofs.LeanLimit
import WaypointFlight.Proofs.ItemPlaces
import WaypointFlight.Proofs.MissionFlights
import WaypointFlight.Proofs.SpeedProfile
import WaypointFlight.Proofs.StraightArrival

namespace WaypointFlight

open Scalar

namespace Vec3

/-- The points are no further from each other than `d`, seen from above. -/
def Near (d : ℝ) (u v : Vec3 ℝ) : Prop :=
  (u.north - v.north) ^ 2 + (u.east - v.east) ^ 2 ≤ d ^ 2

variable {d k : ℝ} {u v w : Vec3 ℝ}

theorem near_of_norm_le (hd : (u - v).norm ≤ d) : Near d u v := by
  have hsquare : (u - v).norm * (u - v).norm ≤ d * d :=
    mul_self_le_mul_self (u - v).norm_nonneg hd
  rw [norm_mul_self, dot_real, sub_north, sub_east] at hsquare
  have hup := mul_self_nonneg (u - v).up
  unfold Near
  linarith

theorem Near.hypot_le (h : Near d u v) (hd : 0 ≤ d) :
    Analytic.hypot (u.north - v.north) (u.east - v.east) ≤ d := by
  rw [hypot_real, Real.sqrt_le_left hd, ← sq, ← sq]
  exact h

theorem sq_mix_le (hk : 0 ≤ k) (hk' : k ≤ 1) (x y : ℝ) :
    ((1 - k) * x + k * y) ^ 2 ≤ (1 - k) * x ^ 2 + k * y ^ 2 := by
  have hgap : (1 - k) * x ^ 2 + k * y ^ 2 - ((1 - k) * x + k * y) ^ 2 =
      k * (1 - k) * (x - y) ^ 2 := by ring
  rw [← sub_nonneg, hgap]
  exact mul_nonneg (mul_nonneg hk (sub_nonneg.mpr hk')) (sq_nonneg _)

theorem Near.between {z : Vec3 ℝ} (hv : Near d u v) (hw : Near d u w) (hk : 0 ≤ k) (hk' : k ≤ 1)
    (hnorth : z.north = v.north + k * (w.north - v.north))
    (heast : z.east = v.east + k * (w.east - v.east)) : Near d u z := by
  have hn : u.north - z.north = (1 - k) * (u.north - v.north) + k * (u.north - w.north) := by
    rw [hnorth]
    ring
  have he : u.east - z.east = (1 - k) * (u.east - v.east) + k * (u.east - w.east) := by
    rw [heast]
    ring
  unfold Near at *
  calc (u.north - z.north) ^ 2 + (u.east - z.east) ^ 2
      ≤ (1 - k) * ((u.north - v.north) ^ 2 + (u.east - v.east) ^ 2) +
          k * ((u.north - w.north) ^ 2 + (u.east - w.east) ^ 2) := by
        rw [hn, he]
        linarith [sq_mix_le hk hk' (u.north - v.north) (u.north - w.north),
          sq_mix_le hk hk' (u.east - v.east) (u.east - w.east)]
    _ ≤ (1 - k) * d ^ 2 + k * d ^ 2 := by
        have hk'' := sub_nonneg.mpr hk'
        gcongr
    _ = d ^ 2 := by ring

end Vec3

namespace PositionController

theorem demand_toward {c : PositionController ℝ} (hspeed : 0 ≤ c.speedXY)
    (hgain : 0 ≤ c.gainXY * c.period) (hanswer : c.gainXY * c.period ≤ 1) (error : Vec3 ℝ) :
    ∃ k, 0 ≤ k ∧ k ≤ 1 ∧ (c.demand error).north * c.period = k * error.north ∧
      (c.demand error).east * c.period = k * error.east := by
  obtain ⟨k, hk, hk', hv⟩ := saturated_eq hspeed (error.horizontal * c.gainXY)
  refine ⟨c.gainXY * c.period * k, mul_nonneg hgain hk, mul_le_one₀ hanswer hk hk', ?_, ?_⟩
  · rw [demand, hv]
    show error.north * c.gainXY * k * c.period = _
    ring
  · rw [demand, hv]
    show error.east * c.gainXY * k * c.period = _
    ring

theorem saturated_north_pos {c : PositionController ℝ} (hspeed : 0 < c.speedXY)
    {v : Vec2 ℝ} (hv : 0 < v.north) : 0 < (c.saturated v).north := by
  unfold saturated
  split_ifs with h
  · exact mul_pos hv (div_pos hspeed (zero_literal ▸ h.2))
  · exact hv

end PositionController

namespace Autopilot

/-- An autopilot in flight, with parameters `p` and the vehicle at `x`. One period of its controller
takes the vehicle no further than to the target. -/
structure Steady (p : Params ℝ) (x : Vec3 ℝ) (a : Autopilot ℝ) : Prop where
  params : a.navigator.params = p
  vehicle : a.controller.vehiclePosition = x
  period : 0 < a.controller.period
  gain : 0 ≤ a.controller.gainXY * a.controller.period
  answer : a.controller.gainXY * a.controller.period ≤ 1
  speed : 0 ≤ a.controller.speedXY
  requested : 0 ≤ a.navigator.requestedSpeed

variable {p : Params ℝ} {x : Vec3 ℝ} {a b : Autopilot ℝ} {c : Command ℝ} {r : Readings ℝ}

theorem governed_speedXY_nonneg (hdt : 0 ≤ a.controller.period) (hs : 0 ≤ a.controller.speedXY)
    (hr : 0 ≤ a.navigator.requestedSpeed) (ha : 0 ≤ a.navigator.params.accel) :
    0 ≤ a.governed.controller.speedXY :=
  (paced_tickSpline hdt hs hr ha (Simulation.standard : Simulation ℝ).readings).2

theorem prepared_eq_governed (a : Autopilot ℝ) : a.prepared = a.pushAccels.governed := by
  have hperiod : a.pushAccels.controller.period = a.controller.period := by
    simp only [pushAccels, PositionController.limitAccelXY_eq, PositionController.limitAccelZ_eq]
  rw [prepared, governed, hperiod]

theorem speeds_effect (heff : (Event.call c r).Effect a b) (hc : c ≠ .start)
    (haccel : 0 < a.navigator.params.accel) (hdt : 0 ≤ a.controller.period)
    (hs : 0 ≤ a.controller.speedXY) (hr : 0 ≤ a.navigator.requestedSpeed) :
    0 ≤ b.controller.speedXY ∧ 0 ≤ b.navigator.requestedSpeed := by
  cases heff with
  | start => exact absurd rfl hc
  | spline r hsets _ q x =>
    have hrequested : (a.beginSpline r.now q x).navigator.requestedSpeed =
        a.navigator.requestedSpeed :=
      congrArg (·.navigator.requestedSpeed) (repairAccel_of_pos haccel)
    rw [beginSpline_controller, hrequested]
    exact ⟨hs, hr⟩
  | shift r =>
    unfold shiftToVehicle
    split_ifs <;> exact ⟨hs, hr⟩
  | tickStraight r =>
    rw [tickStraight_speedXY, tickStraight_requestedSpeed, prepared_eq_governed]
    refine ⟨governed_speedXY_nonneg ?_ ?_ hr haccel.le, hr⟩ <;>
      simpa only [pushAccels, PositionController.limitAccelXY_eq,
        PositionController.limitAccelZ_eq]
  | tickSpline r =>
    cases hk : a.navigator.segment.kind with
    | straight =>
      simp only [tickSpline, hk]
      exact ⟨hs, hr⟩
    | spline =>
      obtain ⟨_, _, _, _, _, _, _, _, _, _, hn, -⟩ := (a.splineTick r).navigator_eq
      rw [(a.splineTick r).speedXY hk, hn]
      exact ⟨governed_speedXY_nonneg hdt hs hr haccel.le, hr⟩
  | requestSpeed r h =>
    refine ⟨hs, le_trans ?_ h⟩
    norm_num [slowestRequest]
  | setSpeedUp v r =>
    unfold setSpeedUp
    rw [PositionController.limitSpeedZ_eq]
    exact ⟨hs, hr⟩
  | setSpeedDown v r =>
    unfold setSpeedDown
    rw [PositionController.limitSpeedZ_eq]
    exact ⟨hs, hr⟩
  | _ => exact ⟨hs, hr⟩

theorem Steady.run (h : a.Steady p x) (haccel : 0 < p.accel) (hc : c ≠ .start) (r : Readings ℝ) :
    (c.run r a).state.Steady p x := by
  have heff := (Event.call c r).effect a
  rw [← h.params] at haccel
  obtain ⟨hspeed, hrequested⟩ :=
    speeds_effect heff hc haccel h.period.le h.speed h.requested
  obtain ⟨-, -, hperiod, hgain, hvehicle⟩ := a.controller.receiveAll_frame (c.controllerCalls r a)
  rw [← c.run_receiveAll r a] at hperiod hgain hvehicle
  refine ⟨(params_effect heff haccel).trans h.params, hvehicle.trans h.vehicle, ?_, ?_, ?_, hspeed,
    hrequested⟩
  · rw [hperiod]
    exact h.period
  · rw [hgain, hperiod]
    exact h.gain
  · rw [hgain, hperiod]
    exact h.answer

structure Inbound (a : Autopilot ℝ) : Prop where
  chord : ∃ t origin destination, a.navigator.segment = .between .straight t origin destination
  fast : a.navigator.flags.fast = false

theorem Inbound.tickStraight (h : a.Inbound) (r : Readings ℝ) :
    (a.tickStraight r).state.Inbound := by
  obtain ⟨hchord, hfast⟩ := h
  exact ⟨by rwa [tickStraight_segment], by rwa [tickStraight_fast]⟩

/-- The end of a track without a direction is its origin, which is as good as its destination. -/
theorem near_pointAt {radius : ℝ} (hradius : 5 ≤ radius) (t : Bool) (o d : Vec3 ℝ) (x : ℝ) :
    Vec3.Near radius d ((Segment.between .straight t o d).pointAt (d - o).norm x) := by
  have hpoint : (Segment.between .straight t o d).pointAt (d - o).norm x =
      o + Segment.directionOf (d - o) * (d - o).norm + Vec3.vertical x := rfl
  rw [hpoint]
  by_cases hz : IsZero (d - o).norm
  · have hdirection : Segment.directionOf (d - o) = .zero := if_pos hz
    have hshort : (d - o).norm ≤ radius := by
      rw [isZero_real, abs_of_nonneg (d - o).norm_nonneg] at hz
      linarith
    rw [hdirection]
    simpa [Vec3.Near] using Vec3.near_of_norm_le hshort
  · rw [Segment.directionOf_mul_norm hz]
    simpa [Vec3.Near] using sq_nonneg radius

theorem Inbound.near (h : a.Inbound) (hradius : 5 ≤ a.navigator.params.radius)
    (harrives : a.ArrivesAt r) :
    let destination := a.navigator.segment.destination
    Vec3.Near a.navigator.params.radius destination r.position ∧
      Vec3.Near a.navigator.params.radius destination
        (a.tickStraight r).state.controller.positionTarget := by
  intro destination
  obtain ⟨⟨t, o, d, hsegment⟩, hfast⟩ := h
  obtain ⟨-, x, hx, hend, hnear⟩ := harrives
  have hdestination : destination = d := congrArg Segment.destination hsegment
  have hlength : 0 ≤ a.navigator.segment.length := by
    rw [hsegment]
    exact (d - o).norm_nonneg
  have hdesired : (a.tickStraight r).state.navigator.track.desired = (d - o).norm := by
    have hle : (a.tickStraight r).state.navigator.track.desired ≤ a.navigator.segment.length := by
      rw [tickStraight_track_ok a hx, Navigator.movedTrack_desired _ _ _ hlength]
      refine max_le hlength ((min_le_left _ _).trans_eq ?_)
      rw [Navigator.trackEnd, hfast]
      rfl
    rw [tickStraight_segment] at hend
    have hall := le_antisymm hle hend
    rw [hall, hsegment]
    rfl
  refine ⟨?_, ?_⟩
  · have hposition := Vec3.near_of_norm_le (hnear.resolve_left (by simp [hfast]))
    simpa only [Vec3.Near, Vec3.sub_north, Vec3.sub_east, Vec3.vertical_north, Vec3.vertical_east,
      sub_zero, sub_sq_comm] using hposition
  · rw [tickStraight_target_ok a hx, hdesired, hsegment, hdestination]
    exact near_pointAt hradius t o d x

end Autopilot

namespace Simulation

variable {p : Params ℝ} {s t : Simulation ℝ}

def Steady (p : Params ℝ) (s : Simulation ℝ) : Prop := s.autopilot.Steady p s.position

theorem Steady.command {c : Command ℝ} (h : s.Steady p) (haccel : 0 < p.accel) (hc : c ≠ .start) :
    (s.command c).1.Steady p :=
  Autopilot.Steady.run h haccel hc s.readings

theorem Steady.step (h : s.Steady p) (ht : s.step = .ok t) : t.Steady p := by
  obtain ⟨now, rfl⟩ := step_ok ht
  exact ⟨h.params, rfl, h.period, h.gain, h.answer, h.speed, h.requested⟩

/-- After a tick that arrives the vehicle is still within the radius, once it has moved. It goes
toward a target that is there too. -/
theorem Steady.near_move (h : s.Steady p) (haccel : 0 < p.accel) (hradius : 5 ≤ p.radius)
    (hinbound : s.autopilot.Inbound) (harrives : s.autopilot.ArrivesAt s.readings) :
    Vec3.Near p.radius s.autopilot.navigator.segment.destination
      (s.command .tickStraight).1.move.position := by
  set c := (s.autopilot.tickStraight s.readings).state.controller with hc
  have hticked : (s.command .tickStraight).1.Steady p := h.command haccel (by simp)
  have hvehicle : c.vehiclePosition = s.position := hticked.vehicle
  have hvelocity : c.velocityTarget = c.demand (c.positionTarget - s.position) := by
    rw [← hvehicle]
    exact s.autopilot.tickStraight_velocityTarget s.readings
  obtain ⟨k, hk, hk', hnorth, heast⟩ := PositionController.demand_toward hticked.speed
    hticked.gain hticked.answer (c.positionTarget - s.position)
  obtain ⟨hposition, htarget⟩ := hinbound.near (by rwa [h.params]) harrives
  rw [h.params] at hposition htarget
  refine hposition.between htarget hk hk' ?_ ?_
  · show s.position.north + c.velocityTarget.north * c.period = _
    rw [hvelocity]
    exact congrArg _ hnorth
  · show s.position.east + c.velocityTarget.east * c.period = _
    rw [hvelocity]
    exact congrArg _ heast

end Simulation

namespace Leg

variable {p : Params ℝ} {kind : SegmentKind} {l next : Leg ℝ}

theorem tick_ne_start (kind : SegmentKind) : (kind.tick : Command ℝ) ≠ .start := by
  cases kind <;> simp [SegmentKind.tick]

theorem Cycled.steady (hc : Cycled kind l (.ok next)) (haccel : 0 < p.accel)
    (h : l.sim.Steady p) : next.sim.Steady p := by
  cases hc with
  | moved _ hf ht => exact (h.command haccel (tick_ne_start kind)).step ht

/-- A leg of the flight to a straight item. Where it has reached the destination, the vehicle is
there. -/
structure Inbound (p : Params ℝ) (l : Leg ℝ) : Prop where
  steady : l.sim.Steady p
  inbound : l.sim.autopilot.Inbound
  arrived : l.reached = true →
    Vec3.Near p.radius l.sim.autopilot.navigator.segment.destination l.sim.position

theorem Inbound.cycled (h : l.Inbound p) (haccel : 0 < p.accel) (hradius : 5 ≤ p.radius)
    (hreached : l.reached = false) (hc : Cycled .straight l (.ok next)) : next.Inbound p := by
  have hsteady := hc.steady haccel h.steady
  cases hc with
  | moved _ hf ht =>
    obtain ⟨now, hnext⟩ := Simulation.step_ok ht
    have hinbound : (l.sim.autopilot.tickStraight l.sim.readings).state.Inbound :=
      h.inbound.tickStraight _
    have hflags : next.sim.autopilot.navigator =
        (l.sim.autopilot.tickStraight l.sim.readings).state.navigator := by
      rw [hnext]
      rfl
    refine ⟨hsteady, ⟨hflags ▸ hinbound.chord, hflags ▸ hinbound.fast⟩, fun hnow ↦ ?_⟩
    have harrives : l.sim.autopilot.ArrivesAt l.sim.readings := by
      rw [reached, hflags, Autopilot.reached_tickStraight_iff] at hnow
      exact hnow.resolve_left fun hbefore ↦ absurd (hreached.symm.trans hbefore) Bool.false_ne_true
    have hnear := h.steady.near_move haccel hradius h.inbound harrives
    rw [hflags, Autopilot.tickStraight_segment, hnext]
    exact hnear

end Leg

namespace MissionItem

variable {p : Params ℝ} {i : MissionItem ℝ} {s t : Simulation ℝ} {origin : Location} {index : ℕ}
  {next : Option (MissionItem ℝ)} {summary : ItemSummary ℝ}

theorem steady_withSpeed (h : s.Steady p) (haccel : 0 < p.accel) (i : MissionItem ℝ) :
    (i.withSpeed s).Steady p := by
  unfold withSpeed
  cases i.speed with
  | none => exact h
  | some speed => exact h.command haccel (by simp)

theorem steady_withFast (h : s.Steady p) (haccel : 0 < p.accel) (i : MissionItem ℝ) :
    (i.withFast s).Steady p := by
  unfold withFast
  cases i.kind with
  | straight => exact h.command haccel (by simp)
  | spline => exact h

theorem Begun.steady (hb : i.Begun s origin index next (.ok t)) (haccel : 0 < p.accel)
    (h : s.Steady p) : t.Steady p := by
  cases hb with
  | set c hc hf =>
    have hstart : c ≠ .start := by
      rintro rfl
      cases command_sets hc
    exact steady_withFast ((steady_withSpeed h haccel i).command haccel hstart) haccel i

theorem Begun.inbound (hb : i.Begun s origin index next (.ok t)) (hkind : i.kind = .straight)
    (hfast : i.fast = false) (haccel : 0 < p.accel) (h : s.Steady p) (log : List (LogEntry ℝ)) :
    (Leg.start t log).Inbound p := by
  have hsteady := hb.steady haccel h
  cases hb with
  | set c hc hf =>
    have hsets := command_sets hc
    rw [hkind] at hsets
    obtain ⟨o, d, above, x, -, hrun⟩ :=
      (c.run_straight (i.withSpeed s).readings (i.withSpeed s).autopilot hsets).resolve_left
        fun hrefused ↦ hrefused.1 hf
    have hbegun : (i.withFast ((i.withSpeed s).command c).1).autopilot =
        ((i.withSpeed s).autopilot.beginStraight (i.withSpeed s).readings o d above x).setFast
          false := by
      simp only [withFast, hkind, hfast, Simulation.command, Simulation.commandWith, hrun]
      rfl
    refine ⟨hsteady, ⟨⟨above, o, d, ?_⟩, ?_⟩, fun hreached ↦ ?_⟩
    · exact congrArg (·.navigator.segment) hbegun
    · exact congrArg (·.navigator.flags.fast) hbegun
    · have hfresh := congrArg (·.navigator.flags.reached) hbegun
      exact absurd (hreached.symm.trans hfresh) Bool.false_ne_true.symm

theorem Ends.steady (hi : i.Ends s origin index next (.ok (t, summary))) (haccel : 0 < p.accel)
    (h : s.Steady p) : t.Steady p := by
  cases hi with
  | flown hb log hleg =>
    exact hleg.invariant (fun _ _ _ hc h ↦ hc.steady haccel h) rfl (hb.steady haccel h)

end MissionItem

namespace Simulation

variable {w : SimParams ℝ} {p : Params ℝ} {x : Vec3 ℝ} {s : Simulation ℝ}

/-- The worlds between the items of flights that start at `x`. -/
inductive Underway (w : SimParams ℝ) (p : Params ℝ) (x : Vec3 ℝ) : Simulation ℝ → Prop where
  | started : Underway w p x ((create w p x).command .start).1
  | flown {s t : Simulation ℝ} {i : MissionItem ℝ} {origin : Location} {index : ℕ}
      {next : Option (MissionItem ℝ)} {timeout : ℝ} {summary : ItemSummary ℝ}
      (hs : Underway w p x s)
      (h : (i.fly s origin index next timeout).result = .ok (t, summary)) : Underway w p x t

theorem steady_started (hdt : 0 < w.period) (hgain : 0 ≤ w.gainXY * w.period)
    (hanswer : w.gainXY * w.period ≤ 1) (hspeed : 0 ≤ p.speed) :
    ∃ q : Params ℝ, 0 < q.accel ∧ 5 ≤ q.radius ∧ ((create w p x).command .start).1.Steady q := by
  set a := (create w p x).autopilot with ha
  obtain ⟨accel, hparams⟩ := a.repairAccel_params_eq
  have hspeed' : 0 ≤ a.repairAccel.navigator.params.speed := by
    rw [hparams]
    exact hspeed
  have hlimit : 0 ≤ a.controller.speedXY := by
    show (0 : ℝ) ≤ 500.0
    norm_num
  obtain ⟨-, -, hperiod, hgainXY, hvehicle⟩ :=
    a.controller.receiveAll_frame (Autopilot.startCalls a.start.state.navigator.params)
  rw [← a.start_receiveAll] at hperiod hgainXY hvehicle
  refine ⟨a.repairAccel.navigator.params, a.repairAccel_pos, ?_, rfl, hvehicle, ?_, ?_, ?_, ?_,
    hspeed'⟩
  · rw [hparams]
    show (5 : ℝ) ≤ maxNum p.radius 5.0
    rw [maxNum_real]
    exact le_max_of_le_right (by norm_num)
  · exact hdt.trans_eq hperiod.symm
  · show 0 ≤ a.start.state.controller.gainXY * a.start.state.controller.period
    rw [hgainXY, hperiod]
    exact hgain
  · show a.start.state.controller.gainXY * a.start.state.controller.period ≤ 1
    rw [hgainXY, hperiod]
    exact hanswer
  · have hc : 0 ≤ a.repairAccel.controller.speedXY := by rwa [a.repairAccel_controller]
    exact Autopilot.startedController_speedXY_nonneg hc hspeed'

theorem Underway.steady (hs : Underway w p x s) (hdt : 0 < w.period)
    (hgain : 0 ≤ w.gainXY * w.period) (hanswer : w.gainXY * w.period ≤ 1) (hspeed : 0 ≤ p.speed) :
    ∃ q : Params ℝ, 0 < q.accel ∧ 5 ≤ q.radius ∧ s.Steady q := by
  induction hs with
  | started => exact steady_started hdt hgain hanswer hspeed
  | @flown s t i origin index next timeout summary _ h ih =>
    obtain ⟨q, haccel, hradius, hsteady⟩ := ih
    have hends := i.fly_ends s origin index next timeout
    rw [h] at hends
    exact ⟨q, haccel, hradius, hends.steady haccel hsteady⟩

end Simulation

/-- A straight item that has been reached, and is not flown through, ends within the radius of
arrival, at the end of any flight to it from a world between two items. -/
theorem MissionItem.reached_within_radius (w : SimParams ℝ) (p : Params ℝ) (x : Vec3 ℝ)
    (hdt : 0 < w.period) (hgain : 0 ≤ w.gainXY * w.period) (hanswer : w.gainXY * w.period ≤ 1)
    (hspeed : 0 ≤ p.speed) {s : Simulation ℝ} (hs : Simulation.Underway w p x s)
    {i : MissionItem ℝ} (hkind : i.kind = .straight) (hfast : i.fast = false) {origin : Location}
    {index : ℕ} {next : Option (MissionItem ℝ)} {timeout : ℝ} {t : Simulation ℝ}
    {summary : ItemSummary ℝ}
    (h : (i.fly s origin index next timeout).result = .ok (t, summary))
    (hreached : summary.reached = true) :
    summary.finalDistance ≤ s.autopilot.navigator.params.radius := by
  obtain ⟨q, haccel, hradius, hsteady⟩ := hs.steady hdt hgain hanswer hspeed
  have hends := i.fly_ends s origin index next timeout
  rw [h] at hends
  cases hends with
  | flown hb log hleg =>
    have hinbound := hb.inbound hkind hfast haccel hsteady log
    rw [hkind] at hleg
    have hlast := hleg.invariant
      (fun _ _ hopen hc hl ↦ hl.cycled haccel hradius hopen hc) rfl hinbound
    rw [hsteady.params]
    exact (hlast.arrived hreached).hypot_le (by linarith)

noncomputable def Simulation.unhurried : Simulation ℝ :=
  .create { SimParams.standard with period := 1 } .standard .zero

namespace Autopilot

/-- The autopilot of that world, set to a segment that leads north. -/
noncomputable def striding (length : ℝ) : Autopilot ℝ :=
  { northward length with controller.period := 1 }

variable {length : ℝ}

theorem striding_approach (h : IsPositive length) :
    (striding length).approachAt Simulation.standard.readings 0.0 = ⟨1300, 0, 100, 1⟩ := by
  have hlimits : (striding length).navigator.track.limits = ⟨100, 500, 1300, 625⟩ :=
    northward_limits h
  have hsight : (striding length).sightAt Simulation.standard.readings 0.0 = ⟨0, .zero⟩ :=
    northward_sight
  ext
  · rw [approachAt_furthest_of_sight hsight (by norm_num [hlimits]), hlimits]
  · exact approachAt_along_of_rest _ rfl _
  · rw [approachAt_linear_of_gain one_literal, hlimits]
  · rfl

theorem striding_targetSpeed (h : IsPositive length) (hlong : 25 ≤ length) :
    (striding length).navigator.targetSpeed
      ((striding length).approachAt Simulation.standard.readings 0.0) = 100 := by
  set n := (striding length).navigator with hn
  have hlimits : n.track.limits = ⟨100, 500, 1300, 625⟩ := northward_limits h
  have hdesired : n.track.desired = 0 := northward_desired
  have hlimited : n.track.limitedSpeed = 0 := northward_limitedSpeed
  have hleft : n.distanceLeft = length := by
    rw [Navigator.distanceLeft, hdesired, sub_zero]
    exact northward_length h.pos.le
  rw [striding_approach h]
  have hopposed : ¬ Approach.Opposed (⟨1300, 0, 100, 1⟩ : Approach ℝ) := by
    norm_num [Approach.Opposed]
  have hahead : ¬ Approach.AtLimit (⟨1300, 0, 100, 1⟩ : Approach ℝ) n.track.desired := by
    norm_num [Approach.AtLimit, hdesired]
  have hramped : n.rampedSpeed ⟨1300, 0, 100, 1⟩ = 200 := by
    rw [Navigator.rampedSpeed, if_pos ⟨by norm_num, hahead⟩, hlimited, hlimits]
    norm_num
  have happroach : 100 ≤ n.approachSpeed ⟨1300, 0, 100, 1⟩ 200 := by
    have hslow : 100 ≤ Leash.slowDownSpeed n.distanceLeft n.track.limits.accel := by
      rw [hleft, hlimits]
      refine Leash.le_slowDownSpeed (by norm_num) ?_
      rw [Leash.slowDownDistance_of_pos (by norm_num)]
      linarith
    unfold Navigator.approachSpeed
    split_ifs
    · rw [minNum_real]
      exact le_min (by norm_num) hslow
    · norm_num
  have hcapped : constrain (200 : ℝ) 0.0 n.track.limits.speed = 200 := by
    rw [hlimits, zero_literal, constrain_eq (by norm_num)]
    norm_num
  rw [Navigator.targetSpeed, if_neg hopposed, hramped, hcapped, Approach.nearVehicle,
    if_pos (by norm_num), constrain_eq (by norm_num), zero_add, min_eq_left happroach]
  norm_num

theorem striding_arrivesAt (h : IsPositive length) (hlong : 25 ≤ length) (hshort : length ≤ 100) :
    (striding length).ArrivesAt Simulation.standard.readings := by
  have hx : (striding length).offsetFor Simulation.standard.readings
      (striding length).navigator.segment.aboveTerrain = .ok 0.0 := rfl
  have hlength : (striding length).navigator.segment.length = length :=
    northward_length h.pos.le
  have hdesired : (striding length).navigator.track.desired = 0 := northward_desired
  refine ⟨congrArg Outcome.fault (tickStraight_ok _ hx), 0.0, hx, ?_, .inr ?_⟩
  · have hpulled : (striding length).navigator.pulled
        ((striding length).approachAt Simulation.standard.readings 0.0) 100 = (100, 100) := by
      rw [striding_approach h, Navigator.pulled, hdesired]
      norm_num [Approach.AtLimit]
    rw [tickStraight_segment, tickStraight_track_ok _ hx,
      Navigator.movedTrack_desired _ _ _ (hlength.ge.trans' h.pos.le), striding_targetSpeed h hlong,
      hpulled]
    refine le_max_of_le_right (le_min (Navigator.length_le_trackEnd _) ?_)
    rwa [hlength]
  · have hplace : (Simulation.standard : Simulation ℝ).readings.position - Vec3.vertical 0.0 -
        (striding length).navigator.segment.destination = ⟨-length, 0, 0⟩ := by
      show (.zero - Vec3.vertical 0.0 - ⟨length, 0, 0⟩ : Vec3 ℝ) = _
      ext <;> simp
    have hradius : (striding length).navigator.params.radius = 200 := by
      show ((Params.standard : Params ℝ).within 3000.0).radius = 200
      rw [Params.within_standard]
      norm_num [Params.standard]
    have hnorm : (⟨-length, 0, 0⟩ : Vec3 ℝ).norm = length := by
      rw [Vec3.norm_real, Vec3.dot_real]
      simp [Real.sqrt_mul_self_eq_abs, abs_of_pos h.pos]
    rw [hplace, hnorm, hradius]
    linarith

theorem striding_speedXY :
    0 < ((striding length).tickStraight
      Simulation.standard.readings).state.controller.speedXY := by
  have hsame : IsEqual (500.0 : ℝ) 500.0 := by norm_num [IsEqual]
  have hgoverns : (striding length).governs = false := not_governs _ hsame
  rw [governs, Option.isSome_eq_false_iff, Option.isNone_iff_eq_none] at hgoverns
  rw [tickStraight_speedXY, prepared, hgoverns]
  simp only [govern, pushAccels, PositionController.limitAccelXY_eq,
    PositionController.limitAccelZ_eq]
  show (0 : ℝ) < 500.0
  norm_num

theorem striding_velocity (h : IsPositive length) (hlong : 25 ≤ length) (hshort : length ≤ 100) :
    0 < ((striding length).tickStraight
      Simulation.standard.readings).state.controller.velocityTarget.north := by
  set c := ((striding length).tickStraight Simulation.standard.readings).state.controller with hc
  obtain ⟨-, x, hx, hend, -⟩ := striding_arrivesAt h hlong hshort
  have hlength : (striding length).navigator.segment.length = length :=
    northward_length h.pos.le
  rw [tickStraight_segment, hlength] at hend
  obtain ⟨hgain, -, hvehicle⟩ :=
    (striding length).tickStraight_keeps Simulation.standard.readings
  have herror : 0 < (c.positionTarget - c.vehiclePosition).north := by
    have hdirection : (striding length).navigator.segment.direction = ⟨1, 0, 0⟩ :=
      northward_direction h
    have hrest : c.vehiclePosition = .zero := hvehicle
    rw [hrest, hc, tickStraight_target_ok _ hx, Segment.pointAt, hdirection]
    show 0 < (0.0 : ℝ) + 1 * _ + 0.0 - 0.0
    rw [zero_literal]
    linarith [h.pos]
  have hvelocity : c.velocityTarget = c.demand (c.positionTarget - c.vehiclePosition) :=
    (striding length).tickStraight_velocityTarget Simulation.standard.readings
  have hone : c.gainXY = 1 := hgain.trans one_literal
  rw [hvelocity]
  refine PositionController.saturated_north_pos striding_speedXY ?_
  rw [hone]
  exact herror.trans_eq (mul_one _).symm

end Autopilot

namespace MissionItem

noncomputable def ahead : MissionItem ℝ := ⟨.straight, 0.99, 0, 0, false, false, none⟩

noncomputable def home : Location := (SimParams.standard : SimParams ℝ).origin

/-- The distance to that item, in centimetres: eighty-nine units of latitude. -/
noncomputable def aheadLength : ℝ := 8900 * Location.metresPerUnit

theorem aheadLength_mem : aheadLength ∈ Set.Icc 99 100 := by
  norm_num [aheadLength, Location.metresPerUnit]

theorem ahead_location :
    ∃ l : Location, ahead.location home = .ok l ∧
      l.vectorNEU (some home) = .ok ((⟨aheadLength, 0, 0⟩ : Vec3 ℝ), false) := by
  have hhome : home.latitude.toInt = -353632620 := rfl
  have hlatitude : home.latitudeAt ahead.north = -353632531 := by
    refine Location.nearestWord_eq ?_
    show |((home.latitude.toInt : ℤ) : ℝ) + 0.99 * Location.unitsPerMetre - (-353632531 : ℤ)| <
      1 / 2
    rw [hhome]
    norm_num [Location.unitsPerMetre, abs_lt]
  have hstep : home.longitudeStep ahead.east = 0 :=
    Location.longitudeStep_eq (by norm_num [ahead]) (by decide)
  have haltitude : Reals.nearest (ahead.altitude * 100) = 0 :=
    Reals.nearest_eq (by norm_num [ahead])
  have hnear : |ahead.east| < Location.halfTurnMetres home.latitude := by
    have heast : |ahead.east| = 0 := abs_zero
    have hscale := Location.longitudeScale_pos home.latitude
    have hunit : (0 : ℝ) < Location.metresPerUnit := by norm_num [Location.metresPerUnit]
    rw [heast, Location.halfTurnMetres]
    positivity
  obtain ⟨l, v, hl, hvector, hnorth, heast, hup⟩ := @location_vectorNEU ahead home (by decide)
    (by decide) (by norm_num [ahead, abs_le]) hnear (haltitude ▸ by decide)
  refine ⟨l, hl, hvector.trans ?_⟩
  have hunits : (-353632531 : Int32).toInt - -353632620 = 89 := by decide
  have hshort : ¬ Antipodal home.longitude.toInt 0 := by decide
  have hv : v = ⟨aheadLength, 0, 0⟩ := by
    ext
    · rw [hnorth, hlatitude, hhome, hunits, aheadLength]
      push_cast
      ring
    · rw [heast, hstep, if_neg hshort]
      norm_num
    · rw [hup, haltitude]
      norm_num
  rw [hv]
  rfl

theorem ahead_run {l : Location}
    (hl : l.vectorNEU (some home) = .ok ((⟨aheadLength, 0, 0⟩ : Vec3 ℝ), false)) :
    (Command.straightToLocation l).run Simulation.unhurried.readings
      Simulation.unhurried.autopilot = .done (.striding aheadLength) [] := by
  have hstop : Simulation.unhurried.autopilot.defaultOrigin 1000 = .zero :=
    PositionController.stoppingPoint_of_rest rfl
  have hto : Simulation.unhurried.autopilot.originFor Simulation.unhurried.readings false =
      .ok .zero := congrArg Except.ok hstop
  have horigin : Simulation.unhurried.readings.attitude.origin = some home := rfl
  rw [Command.run, Autopilot.setStraightToLocation, horigin, hl]
  show Simulation.unhurried.autopilot.setStraightTo _ ⟨aheadLength, 0, 0⟩ false = _
  rw [Autopilot.setStraightTo, hto]
  rfl

theorem cyclesIn_one {period : ℝ} (h : period ≠ 0) : cyclesIn period period = 1 := by
  have hone : Analytic.ceil (period / period) = 1 := by
    show ((⌈period / period⌉ : ℤ) : ℝ) = 1
    rw [div_self h]
    norm_num
  rw [cyclesIn, hone]
  show (WordRange.unsigned64.clamp (Reals.truncate 1)).toNat = 1
  have hwhole : Reals.truncate 1 = 1 := by simpa using Reals.truncate_intCast 1
  rw [hwhole]
  rfl

theorem ahead_begin :
    (ahead.begin Simulation.unhurried home 0 none).result =
      .ok { Simulation.unhurried with autopilot := .striding aheadLength } := by
  obtain ⟨l, hl, hvector⟩ := ahead_location
  have hcommand : ahead.command home 0 none = .ok (.straightToLocation l) := by
    rw [command, hl]
    rfl
  have hspeed : ahead.withSpeed Simulation.unhurried = Simulation.unhurried := rfl
  rw [begin, hcommand, hspeed]
  simp only [Simulation.command, Simulation.commandWith, ahead_run hvector]
  rfl

/-- One tick, and the vehicle goes all the way. -/
theorem ahead_fly :
    ∃ t summary, (ahead.fly Simulation.unhurried home 0 none 1).result = .ok (t, summary) ∧
      summary.reached = true ∧ 0 < t.position.north := by
  set world : Simulation ℝ :=
    { Simulation.unhurried with autopilot := .striding aheadLength } with hw
  have hlong := aheadLength_mem
  have hpos : IsPositive aheadLength := by
    rw [isPositive_real]
    linarith [hlong.1]
  have harrives : world.autopilot.ArrivesAt world.readings :=
    Autopilot.striding_arrivesAt hpos (by linarith [hlong.1]) hlong.2
  have hfault : (world.command .tickStraight).2.fault = none := harrives.1
  have hreached : (world.command .tickStraight).1.autopilot.navigator.flags.reached = true :=
    (world.autopilot.reached_tickStraight_iff _).mpr (.inr harrives)
  have hperiod : (world.command .tickStraight).1.autopilot.controller.period = 1 :=
    world.autopilot.tickStraight_period _
  obtain ⟨t, ht⟩ : ∃ t, (world.command .tickStraight).1.step = .ok t := by
    have hclock :
        WordRange.unsigned64.Contains ((world.command .tickStraight).1.move.now + 1000 : ℕ) := by
      show WordRange.unsigned64.Contains (Simulation.startTime + 1000 : ℕ)
      decide
    rw [Simulation.step, hperiod, Simulation.milliseconds_eq (n := 1000) (by norm_num) (by decide)]
    exact ⟨_, if_pos hclock⟩
  rcases hb : ahead.begin Simulation.unhurried home 0 none with ⟨result, log⟩
  obtain rfl : result = .ok world := (congrArg Flown.result hb).symm.trans ahead_begin
  have hcycles : cyclesIn (1 : ℝ) world.autopilot.controller.period = 1 := cyclesIn_one one_ne_zero
  have hstart : (Leg.start world log).reached = false := rfl
  obtain ⟨next, log', hcycle, hnext⟩ :=
    @Leg.cycle_ok ℝ _ .straight (Leg.start world log) t hfault ht
  have hkind : ahead.kind = .straight := rfl
  have hfly : (ahead.fly Simulation.unhurried home 0 none 1).result =
      .ok (next.sim, next.summary 0 .straight) := by
    simp only [fly, hb, hkind, hcycles, Leg.fly, hstart, hcycle, Bool.false_eq_true, if_false]
  obtain ⟨now, hmoved⟩ := Simulation.step_ok ht
  refine ⟨next.sim, next.summary 0 .straight, hfly, ?_, ?_⟩
  · show next.sim.autopilot.navigator.flags.reached = true
    rw [hnext, hmoved]
    exact hreached
  · have hvelocity := Autopilot.striding_velocity hpos (by linarith [hlong.1]) hlong.2
    rw [hnext, hmoved]
    show 0 < (0.0 : ℝ) + _ * _
    rw [zero_literal, zero_add, hperiod, mul_one]
    exact hvelocity

theorem reached_within_radius_ahead :
    let w : SimParams ℝ := { SimParams.standard with period := 1 }
    let p : Params ℝ := .standard
    let s := Simulation.unhurried
    0 < w.period ∧ 0 ≤ w.gainXY * w.period ∧ w.gainXY * w.period ≤ 1 ∧ 0 ≤ p.speed ∧
      s.Underway w p .zero ∧ ahead.kind = .straight ∧ ahead.fast = false ∧
      ∃ t summary, (ahead.fly s home 0 none 1).result = .ok (t, summary) ∧
        summary.reached = true ∧ 0 < t.position.north ∧
        summary.finalDistance ≤ s.autopilot.navigator.params.radius := by
  intro w p s
  have hdt : 0 < w.period := by norm_num [w]
  have hgain : 0 ≤ w.gainXY * w.period := by norm_num [w, SimParams.standard]
  have hanswer : w.gainXY * w.period ≤ 1 := by norm_num [w, SimParams.standard]
  have hspeed : 0 ≤ p.speed := by norm_num [p, Params.standard]
  have hs : s.Underway w p .zero := by
    have hstarted : ((Simulation.create w p .zero).command .start).1 = s :=
      congrArg (fun a ↦ ({ s with autopilot := a } : Simulation ℝ)) (Autopilot.start_create 1)
    exact hstarted ▸ .started
  obtain ⟨t, summary, hfly, hreached, hmoved⟩ := ahead_fly
  exact ⟨hdt, hgain, hanswer, hspeed, hs, rfl, rfl, t, summary, hfly, hreached, hmoved,
    reached_within_radius w p .zero hdt hgain hanswer hspeed hs rfl rfl hfly hreached⟩

end MissionItem

end WaypointFlight
