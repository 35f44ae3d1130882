import WaypointFlight.Proofs.RealLimits
import WaypointFlight.Proofs.StraightTarget
import WaypointFlight.Proofs.Ticks
import WaypointFlight.Simulation.Basic

namespace WaypointFlight

open Scalar

structure PositionController.Sound (c : PositionController ℝ) : Prop where
  period : 0 ≤ c.period
  speedXY : 0 ≤ c.speedXY
  speedUp : 0 ≤ c.speedUp

/-- The events of a flight along one straight segment. A fast waypoint stays fast. -/
def Event.OnStraight {α : Type} (a : Autopilot α) : Event α → Prop
  | .call .tickStraight _ | .call .shift _ | .call (.requestSpeed _) _ => True
  | .call (.setSpeedUp _) _ | .call (.setSpeedDown _) _ => True
  | .call (.setFast fast) _ => a.navigator.flags.fast = true → fast = true
  | .call _ _ => False
  | .moved .. | .replaced _ => True

theorem Event.OnStraight.sets_eq_none {α : Type} {a : Autopilot α} {c : Command α}
    {r : Readings α} (h : Event.OnStraight a (.call c r)) : c.sets = none := by
  cases c <;> first | rfl | cases h

/-- The target is on the track, and the track leads from the origin to the destination. -/
structure OnTrack (a : Autopilot ℝ) : Prop where
  nonneg : 0 ≤ a.navigator.track.desired
  le_end : a.navigator.track.desired ≤ a.navigator.trackEnd
  length : 0 ≤ a.navigator.segment.length
  speed : a.controller.Sound → 0 ≤ a.navigator.track.limits.speed
  chord : ¬ IsZero a.navigator.segment.length →
    a.navigator.segment.origin + a.navigator.segment.direction * a.navigator.segment.length =
      a.navigator.segment.destination

namespace Autopilot

variable {a : Autopilot ℝ} {r : Readings ℝ}

theorem trackLimits_speed_nonneg (h : a.controller.Sound) : 0 ≤ a.trackLimits.speed :=
  TrackLimits.along_speed_nonneg _ _ h.speedXY h.speedUp (abs_nonneg _)

theorem onTrack_beginStraight (a : Autopilot ℝ) (r : Readings ℝ) (origin destination : Vec3 ℝ)
    (t : Bool) (x : ℝ) : OnTrack (a.beginStraight r origin destination t x) := by
  set v := destination - origin with hv
  have hn : 0 ≤ v.norm := v.norm_nonneg
  refine ⟨?_, ?_, hn, fun h ↦ ?_, fun h ↦ ?_⟩
  · exact zero_literal.ge
  · exact zero_literal.le.trans hn
  · exact TrackLimits.along_speed_nonneg _ _ h.speedXY h.speedUp (abs_nonneg _)
  · have hd : Segment.directionOf v * v.norm = v := Segment.directionOf_mul_norm h
    show origin + Segment.directionOf v * v.norm = destination
    rw [hd, hv]
    ext <;> simp

theorem onTrack_shift (h : OnTrack a) (r : Readings ℝ) : OnTrack (a.shiftToVehicle r) := by
  unfold shiftToVehicle
  split_ifs with hd
  · exact h
  · refine ⟨zero_literal.ge, ?_, h.length, fun hc ↦ ?_, fun hl ↦ ?_⟩
    · exact zero_literal.le.trans (h.nonneg.trans h.le_end)
    · exact h.speed ⟨hc.period, hc.speedXY, hc.speedUp⟩
    · have hc := h.chord hl
      rw [Vec3.ext_iff] at hc
      simp only [Vec3.add_north, Vec3.add_east, Vec3.add_up] at hc
      ext
      · simp only [Vec3.add_north, ← hc.1]; ring
      · simp only [Vec3.add_east, ← hc.2.1]; ring
      · simp only [Vec3.add_up, ← hc.2.2]; ring

theorem tickStraight_desired_mem (h : OnTrack a) (hc : a.controller.Sound) (r : Readings ℝ) :
    a.navigator.track.desired ≤ (a.tickStraight r).state.navigator.track.desired ∧
      (a.tickStraight r).state.navigator.track.desired ≤
        a.navigator.track.desired + a.navigator.track.limits.speed * a.controller.period ∧
      (a.tickStraight r).state.navigator.track.desired ≤ a.navigator.trackEnd := by
  have hs := h.speed hc
  cases ho : a.offsetFor r a.navigator.segment.aboveTerrain with
  | error f =>
    rw [tickStraight_track_error a ho]
    exact ⟨le_rfl, le_add_of_nonneg_right (mul_nonneg hs hc.period), h.le_end⟩
  | ok x =>
    rw [tickStraight_track_ok a ho]
    set v := a.approachAt r x
    have hdt : 0 ≤ v.dt := hc.period
    have hspeed := a.navigator.targetSpeed_nonneg v hs
    have hle := a.navigator.le_pulled v hspeed hdt
    have hge := a.navigator.pulled_le v hspeed hdt
    have htop : a.navigator.targetSpeed v * v.dt ≤
        a.navigator.track.limits.speed * a.controller.period :=
      mul_le_mul_of_nonneg_right (a.navigator.targetSpeed_le v hs) hdt
    rw [a.navigator.movedTrack_desired v _ h.length]
    refine ⟨?_, ?_, ?_⟩
    · exact le_max_of_le_right (le_min h.le_end hle)
    · refine max_le ?_ ((min_le_right _ _).trans (hge.trans (by linarith)))
      exact add_nonneg h.nonneg (mul_nonneg hs hc.period)
    · exact max_le (a.navigator.trackEnd_nonneg h.length) (min_le_left _ _)

theorem onTrack_tickStraight (h : OnTrack a) (hc : a.controller.Sound) (r : Readings ℝ) :
    OnTrack (a.tickStraight r).state := by
  have hd := tickStraight_desired_mem h hc r
  refine ⟨h.nonneg.trans hd.1, ?_, ?_, fun hc' ↦ ?_, ?_⟩
  · simpa only [Navigator.trackEnd, tickStraight_fast, tickStraight_segment] using hd.2.2
  · simpa only [tickStraight_segment] using h.length
  · rw [tickStraight_limits]
    split_ifs
    · exact trackLimits_speed_nonneg hc'
    · exact h.speed hc
  · simpa only [tickStraight_segment] using h.chord

theorem sound_tickStraight (h : a.controller.Sound) (hr : 0 ≤ a.navigator.requestedSpeed)
    (ha : 0 ≤ a.navigator.params.accel) (r : Readings ℝ) :
    (a.tickStraight r).state.controller.Sound := by
  have hpush : a.pushAccels.controller.Sound := by
    simp only [pushAccels, PositionController.limitAccelXY_eq, PositionController.limitAccelZ_eq]
    exact ⟨h.period, h.speedXY, h.speedUp⟩
  have hprepared : a.prepared.controller.Sound := by
    unfold prepared
    cases hg : a.pushAccels.governedSpeed a.controller.period with
    | none => exact hpush
    | some speed =>
      have hs : 0 ≤ speed :=
        Governor.step_nonneg hpush.speedXY hr (mul_nonneg ha h.period) hg
      simp only [govern, PositionController.limitSpeedXY_eq]
      refine ⟨hpush.period, ?_, hpush.speedUp⟩
      split_ifs
      · exact hs
      · exact hpush.speedXY
  obtain ⟨_, _, hc⟩ := a.tickStraight_controller r
  rw [hc]
  refine ⟨?_, ?_, ?_⟩
  · simpa only [PositionController.update_period] using hprepared.period
  · simpa only [PositionController.update_speedXY] using hprepared.speedXY
  · simpa only [PositionController.update_speedUp] using hprepared.speedUp

theorem onTrack_effect {b : Autopilot ℝ} {e : Event ℝ} (heff : e.Effect a b)
    (he : e.OnStraight a) (hc : a.controller.Sound) (h : OnTrack a) :
    OnTrack b ∧ a.navigator.track.desired ≤ b.navigator.track.desired := by
  cases heff with
  | refused r hset => exact ⟨h, le_rfl⟩
  | straight r hset => exact absurd hset (by simp [he.sets_eq_none])
  | spline r hset => exact absurd hset (by simp [he.sets_eq_none])
  | start r => cases he
  | tickSpline r => cases he
  | tickStraight r =>
    exact ⟨onTrack_tickStraight h hc r, (tickStraight_desired_mem h hc r).1⟩
  | shift r =>
    refine ⟨onTrack_shift h r, ?_⟩
    unfold shiftToVehicle
    split_ifs with hd
    · exact le_rfl
    · exact not_lt.mp hd
  | tooSlow => exact ⟨h, le_rfl⟩
  | requestSpeed => exact ⟨⟨h.nonneg, h.le_end, h.length, h.speed, h.chord⟩, le_rfl⟩
  | setFast fast r =>
    refine ⟨⟨h.nonneg, h.le_end.trans ?_, h.length, h.speed, h.chord⟩, le_rfl⟩
    cases fast with
    | true => exact a.navigator.trackEnd_le
    | false =>
      have hf : a.navigator.flags.fast = false := Bool.eq_false_iff.mpr fun h ↦ by cases he h
      simp only [Navigator.trackEnd, setFast, hf]
      exact le_rfl
  | _ => exact ⟨⟨h.nonneg, h.le_end, h.length, fun _ ↦ h.speed hc, h.chord⟩, le_rfl⟩

theorem onTrack_after {es : List (Event ℝ)}
    (hes : a.Along (fun a e ↦ a.controller.Sound ∧ e.OnStraight a) es) (h : OnTrack a) :
    OnTrack (a.after es) ∧
      a.navigator.track.desired ≤ (a.after es).navigator.track.desired := by
  refine hes.invariant (I := fun b ↦
    OnTrack b ∧ a.navigator.track.desired ≤ b.navigator.track.desired) ?_ ⟨h, le_rfl⟩
  intro b e he hb
  have hstep := onTrack_effect (e.effect b) he.2 he.1 hb.1
  exact ⟨hstep.1, hb.2.trans hstep.2⟩

theorem pointAt_length (h : OnTrack a) (hl : IsPositive a.navigator.segment.length)
    (hd : a.navigator.track.desired = a.navigator.segment.length) (x : ℝ) :
    a.navigator.segment.pointAt a.navigator.track.desired x =
      a.navigator.segment.destination + Vec3.vertical x := by
  rw [Segment.pointAt, hd, h.chord (not_isZero_of_isPositive hl)]

/-- The progress law of a straight segment. The run `es` leads from the call that set the segment
to a state of the flight, and `es'` to a later one, where a tick follows. -/
theorem straight_progress {c : Command ℝ} (hset : c.sets = some .straight) (a₀ : Autopilot ℝ)
    (r₀ : Readings ℝ) (hok : (c.run r₀ a₀).fault = none) (es es' : List (Event ℝ))
    (hes : (c.run r₀ a₀).state.Along (fun a e ↦ a.controller.Sound ∧ e.OnStraight a) (es ++ es'))
    (hsound : ((c.run r₀ a₀).state.after (es ++ es')).controller.Sound) (r : Readings ℝ) :
    let a := (c.run r₀ a₀).state.after es
    let b := (c.run r₀ a₀).state.after (es ++ es')
    let b' := (b.tickStraight r).state
    (c.run r₀ a₀).state.navigator.track.desired = 0 ∧
      a.navigator.track.desired ≤ b.navigator.track.desired ∧
      0 ≤ b.navigator.track.desired ∧
      b.navigator.track.desired ≤
        (if b.navigator.flags.fast then b.navigator.segment.length + 200
          else b.navigator.segment.length) ∧
      b.navigator.track.desired ≤ b'.navigator.track.desired ∧
      b'.navigator.track.desired ≤
        b.navigator.track.desired + b.navigator.track.limits.speed * b.controller.period ∧
      ((b.tickStraight r).fault = none →
        ∃ x, b.offsetFor r b.navigator.segment.aboveTerrain = .ok x ∧
          b'.controller.positionTarget =
            b'.navigator.segment.origin +
              b'.navigator.segment.direction * b'.navigator.track.desired + Vec3.vertical x ∧
          (IsPositive b'.navigator.segment.length →
            b'.navigator.track.desired = b'.navigator.segment.length →
            b'.controller.positionTarget =
              b'.navigator.segment.destination + Vec3.vertical x)) := by
  intro a b b'
  obtain ⟨o, d, t, y, -, hrun⟩ := (c.run_straight r₀ a₀ hset).resolve_left fun h ↦ h.1 hok
  have hbegin : OnTrack (c.run r₀ a₀).state := by
    rw [hrun]
    exact onTrack_beginStraight a₀ r₀ o d t y
  obtain ⟨hfirst, hlast⟩ := Autopilot.along_append.mp hes
  have ha := onTrack_after hfirst hbegin
  have hb : OnTrack b ∧ a.navigator.track.desired ≤ b.navigator.track.desired := by
    have h := onTrack_after hlast ha.1
    rwa [← after_append] at h
  have htick := tickStraight_desired_mem hb.1 hsound r
  have hb' : OnTrack b' := onTrack_tickStraight hb.1 hsound r
  refine ⟨?_, hb.2, hb.1.nonneg, ?_, htick.1, htick.2.1, fun hfault ↦ ?_⟩
  · rw [hrun]
    exact zero_literal
  · have hend := hb.1.le_end
    norm_num [Navigator.trackEnd, Navigator.fastOvershoot] at hend
    exact hend
  · obtain ⟨x, hx⟩ := exists_offset_of_tickStraight b hfault
    have htarget := tickStraight_target_ok b hx
    have hseg : b'.navigator.segment = b.navigator.segment := tickStraight_segment b r
    rw [← hseg] at htarget
    refine ⟨x, hx, htarget, fun hl hd ↦ ?_⟩
    rw [htarget]
    exact pointAt_length hb' hl hd x

theorem straight_progress_flight :
    let s : Simulation ℝ := .standard
    let c : Command ℝ := .straight .zero ⟨3000, 4000, 0⟩ false
    let x := (c.run s.readings s.autopilot).state
    let es : List (Event ℝ) := [.call .tickStraight s.readings]
    let es' : List (Event ℝ) := [.call (.setFast true) s.readings]
    c.sets = some .straight ∧ (c.run s.readings s.autopilot).fault = none ∧
      x.Along (fun a e ↦ a.controller.Sound ∧ e.OnStraight a) (es ++ es') ∧
      (x.after (es ++ es')).controller.Sound ∧
      (x.after es).navigator.track.desired ≤ (x.after (es ++ es')).navigator.track.desired ∧
      (x.after (es ++ es')).navigator.track.desired ≤
        ((x.after (es ++ es')).tickStraight s.readings).state.navigator.track.desired := by
  intro s c x es es'
  have hx : x.controller.Sound := by
    refine ⟨?_, ?_, ?_⟩
    · show (0 : ℝ) ≤ 0.01
      norm_num
    · show (0 : ℝ) ≤ 500.0
      norm_num
    · show (0 : ℝ) ≤ 250.0
      norm_num
  have hrequest : 0 ≤ x.navigator.requestedSpeed := by
    show (0 : ℝ) ≤ 500.0
    norm_num
  have haccel : 0 ≤ x.navigator.params.accel := by
    show 0 ≤ ((Params.standard : Params ℝ).within 3000.0).accel
    rw [Params.within_standard]
    norm_num [Params.standard]
  have htick : (x.after es).controller.Sound := sound_tickStraight hx hrequest haccel s.readings
  have hes : x.Along (fun a e ↦ a.controller.Sound ∧ e.OnStraight a) (es ++ es') :=
    ⟨⟨hx, trivial⟩, ⟨htick, fun _ ↦ rfl⟩, trivial⟩
  have h := straight_progress (c := c) rfl s.autopilot s.readings rfl es es' hes htick s.readings
  exact ⟨rfl, rfl, hes, htick, h.2.1, h.2.2.2.2.1⟩

end Autopilot

end WaypointFlight
