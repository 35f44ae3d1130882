import WaypointFlight.Proofs.SlowDownLaw

namespace WaypointFlight

open Scalar

namespace Approach

variable (v : Approach ℝ) {speed : ℝ}

theorem not_opposed_of_near (h : |v.along| < v.linear) : ¬ v.Opposed :=
  (abs_lt.mp h).1.not_gt

theorem nearVehicle_le_of_near (h : |v.along| < v.linear) :
    v.nearVehicle speed ≤ v.along + v.linear := by
  have hlinear : 0 < v.linear := (abs_nonneg _).trans_lt h
  rw [nearVehicle, abs_real, if_pos h]
  exact constrain_le (by linarith)

end Approach

namespace Navigator

variable (n : Navigator ℝ) (v : Approach ℝ) {speed : ℝ}

theorem rampedSpeed_le (ha : 0 ≤ n.track.limits.accel) (hdt : 0 ≤ v.dt) :
    n.rampedSpeed v ≤ n.track.limitedSpeed + 2 * n.track.limits.accel * v.dt := by
  have hramp : 0 ≤ 2 * n.track.limits.accel * v.dt := by positivity
  unfold rampedSpeed
  split_ifs
  · norm_num
  · exact le_add_of_nonneg_right hramp

theorem approachSpeed_of_slows (hfast : n.flags.fast = false) (hslows : n.slowsDown v = true) :
    n.approachSpeed v speed ≤ Leash.slowDownSpeed n.distanceLeft n.track.limits.accel := by
  have hordinary : ¬ n.flags.fast = true ∧ n.slowsDown v = true := ⟨by simp [hfast], hslows⟩
  rw [approachSpeed, if_pos hordinary, minNum_real]
  exact min_le_right _ _

theorem targetSpeed_of_opposed (h : v.Opposed) : n.targetSpeed v = 0 := by
  rw [targetSpeed, if_pos h, zero_literal]

theorem targetSpeed_le_of_near (h : |v.along| < v.linear) :
    n.targetSpeed v ≤ v.along + v.linear := by
  rw [targetSpeed, if_neg (v.not_opposed_of_near h)]
  exact v.nearVehicle_le_of_near h

theorem targetSpeed_le_ramp (hs : 0 ≤ n.track.limits.speed) (hv : 0 ≤ n.track.limitedSpeed)
    (ha : 0 ≤ n.track.limits.accel) (hdt : 0 ≤ v.dt) :
    n.targetSpeed v ≤ n.track.limitedSpeed + 2 * n.track.limits.accel * v.dt := by
  have htop : 0 ≤ n.track.limitedSpeed + 2 * n.track.limits.accel * v.dt := by positivity
  calc
    n.targetSpeed v
        ≤ n.approachSpeed v (constrain (n.rampedSpeed v) 0 n.track.limits.speed) :=
      n.targetSpeed_le_approachSpeed v hs
    _ ≤ constrain (n.rampedSpeed v) 0 n.track.limits.speed := n.approachSpeed_le v
    _ ≤ n.track.limitedSpeed + 2 * n.track.limits.accel * v.dt := by
      rw [constrain_eq hs]
      exact max_le htop ((min_le_right _ _).trans (n.rampedSpeed_le v ha hdt))

/-- A target that the leash stops only loses speed, and none that it does not have. -/
theorem pulled_speed_mem (h : 0 ≤ speed) (ha : 0 ≤ n.track.limits.accel) (hdt : 0 ≤ v.dt) :
    (n.pulled v speed).2 ∈ Set.Icc 0 speed := by
  have hloss : 0 ≤ 2.0 * n.track.limits.accel * v.dt := by positivity
  unfold pulled
  split_ifs
  · exact ⟨h, le_rfl⟩
  · dsimp only
    split_ifs
    · rw [maxNum_real, zero_literal]
      exact ⟨le_max_right _ _, max_le (by linarith) h⟩
    · exact ⟨h, le_rfl⟩

theorem movedTrack_speed_mem (s : Sight ℝ) (hs : 0 ≤ n.track.limits.speed)
    (ha : 0 ≤ n.track.limits.accel) (hdt : 0 ≤ v.dt) :
    (n.movedTrack s v).limitedSpeed ∈ Set.Icc 0 (n.targetSpeed v) :=
  n.pulled_speed_mem v (n.targetSpeed_nonneg v hs) ha hdt

end Navigator

section Ticks

variable {α : Type} [Analytic α]

namespace Autopilot

/-- The speed of the vehicle along the track. -/
def trackSpeed (a : Autopilot α) (r : Readings α) : α :=
  r.velocity.dot a.navigator.segment.direction

/-- The speed up to which the controller answers linearly. Without a gain that is its speed limit,
as the tick has moved it. -/
def linearRange (a : Autopilot α) (r : Readings α) : α :=
  if IsPositive a.controller.gainXY then a.navigator.track.limits.accel / a.controller.gainXY
  else (a.tickStraight r).state.controller.speedXY

/-- The tick has the target of an ordinary waypoint slow down, since no more of the track is left
than the slow-down distance. -/
def EntersSlowDown (a : Autopilot α) (r : Readings α) : Prop :=
  (a.tickStraight r).fault = none ∧ a.navigator.flags.fast = false ∧
    ¬ a.trackSpeed r < -a.linearRange r ∧
    a.navigator.distanceLeft ≤ a.navigator.track.limits.slowDownDistance

variable (a : Autopilot α) (r : Readings α)

theorem approachAt_along (x : α) : (a.approachAt r x).along = a.trackSpeed r := by
  simp only [approachAt, approach, prepared_navigator]
  rfl

theorem approachAt_linear (x : α) : (a.approachAt r x).linear = a.linearRange r := by
  have hspeed : (a.tickStraight r).state.controller.speedXY = a.prepared.controller.speedXY := by
    obtain ⟨_, _, hc⟩ := a.tickStraight_controller r
    rw [hc, PositionController.update_speedXY]
  have hgain : a.prepared.controller.gainXY = a.controller.gainXY := by
    obtain ⟨_, _, _, _, _, hc⟩ := a.prepared_controller
    rw [hc]
  rw [linearRange, hspeed, ← hgain]
  simp only [approachAt, approach, linearSpeed, prepared_navigator]

variable {r} {x : α} {f : TerrainFault}

theorem tickStraight_slowingDown_ok (hx : a.offsetFor r a.navigator.segment.aboveTerrain = .ok x) :
    (a.tickStraight r).state.navigator.flags.slowingDown =
      a.navigator.slowsDown (a.approachAt r x) := by
  rw [tickStraight_ok a hx]
  simp only [Outcome.done, settleTick_navigator, advanceStraight_navigator, Navigator.choose_eq]

theorem tickStraight_slowingDown_error
    (hf : a.offsetFor r a.navigator.segment.aboveTerrain = .error f) :
    (a.tickStraight r).state.navigator.flags.slowingDown = a.navigator.flags.slowingDown := by
  rw [tickStraight_error a hf]
  simp only [settleTick_navigator, prepared_navigator]

theorem slowingDown_tickStraight_iff (r : Readings α) :
    (a.tickStraight r).state.navigator.flags.slowingDown = true ↔
      a.navigator.flags.slowingDown = true ∨ a.EntersSlowDown r := by
  cases hx : a.offsetFor r a.navigator.segment.aboveTerrain with
  | error f =>
    have hnot : ¬ a.EntersSlowDown r := by
      rintro ⟨hok, -⟩
      rw [tickStraight_error a hx] at hok
      cases hok
    rw [tickStraight_slowingDown_error a hx, or_iff_left hnot]
  | ok x =>
    have hok : (a.tickStraight r).fault = none := congrArg Outcome.fault (tickStraight_ok a hx)
    rw [tickStraight_slowingDown_ok a hx]
    simp only [Navigator.slowsDown, EntersSlowDown, Approach.Opposed, approachAt_along,
      approachAt_linear, hok, Bool.or_eq_true, Bool.and_eq_true, Bool.not_eq_true',
      decide_eq_true_eq, true_and]
    tauto

end Autopilot

/-- A call that puts the autopilot on a straight segment. -/
def Event.SetsStraight (a : Autopilot α) : Event α → Prop
  | .call c r => c.sets = some .straight ∧ (c.run r a).fault = none
  | _ => False

theorem Event.not_setsStraight_tick (a : Autopilot α) (r : Readings α) :
    ¬ (Event.call .tickStraight r).SetsStraight a :=
  fun h ↦ by cases h.1

def Event.EntersSlowDown (a : Autopilot α) : Event α → Prop
  | .call .tickStraight r => a.EntersSlowDown r
  | _ => False

namespace Autopilot

variable {a b : Autopilot α} {e : Event α} {es : List (Event α)}

theorem slowingDown_effect_iff (h : e.Effect a b) (hset : ¬ e.SetsStraight a) :
    b.navigator.flags.slowingDown = true ↔
      a.navigator.flags.slowingDown = true ∨ e.EntersSlowDown a := by
  cases h with
  | straight r hc hf => exact absurd ⟨hc, hf⟩ hset
  | @spline c r hc hf q x hx =>
    have hnot : ¬ (Event.call c r).EntersSlowDown a := by
      cases c <;> first | exact id | cases hc
    have hkept := congrArg Flags.slowingDown a.repairAccel_flags
    rw [or_iff_left hnot, ← hkept]
    exact Iff.rfl
  | @refused c r hc =>
    cases c with
    | tickStraight => exact absurd rfl hc
    | _ => exact (or_iff_left id).symm
  | start r =>
    rw [start_flags]
    exact (or_iff_left id).symm
  | shift r =>
    rw [shiftToVehicle_flags]
    exact (or_iff_left id).symm
  | tickStraight r => exact a.slowingDown_tickStraight_iff r
  | tickSpline r =>
    obtain ⟨_, _, _, hflags⟩ := (a.splineTick r).flags_eq
    rw [hflags]
    exact (or_iff_left id).symm
  | _ => exact (or_iff_left id).symm

theorem slowingDown_after_iff (hes : a.Along (fun a e ↦ ¬ e.SetsStraight a) es) :
    (a.after es).navigator.flags.slowingDown = true ↔
      a.navigator.flags.slowingDown = true ∨
        ¬ a.Along (fun a e ↦ ¬ e.EntersSlowDown a) es := by
  induction es generalizing a with
  | nil => simp [Along]
  | cons e es ih =>
    obtain ⟨hset, htail⟩ := hes
    rw [after_cons, ih htail, slowingDown_effect_iff (e.effect a) hset]
    simp only [Along, not_and_or, not_not, or_assoc]

theorem exists_entersSlowDown_iff :
    (¬ a.Along (fun a e ↦ ¬ e.EntersSlowDown a) es) ↔
      ∃ es₁ r es₂, es = es₁ ++ .call .tickStraight r :: es₂ ∧ (a.after es₁).EntersSlowDown r := by
  rw [not_along_not_iff]
  constructor
  · rintro ⟨es₁, e, es₂, rfl, h⟩
    cases e with
    | call c r =>
      cases c with
      | tickStraight => exact ⟨es₁, r, es₂, rfl, h⟩
      | _ => cases h
    | _ => cases h
  · rintro ⟨es₁, r, es₂, rfl, h⟩
    exact ⟨es₁, _, es₂, rfl, h⟩

end Autopilot

end Ticks

namespace Autopilot

/-- The speed law of a straight segment. The run `es` sets no new straight segment, and a tick
follows that succeeds. The target is slowing down after it exactly if it was before the run, or if a
tick since, this one included, has entered the slow-down distance. -/
theorem straight_speed (a₀ : Autopilot ℝ) (es : List (Event ℝ))
    (hes : a₀.Along (fun a e ↦ ¬ e.SetsStraight a) es) (r : Readings ℝ)
    (hv : 0 ≤ (a₀.after es).navigator.track.limitedSpeed)
    (hdt : 0 ≤ (a₀.after es).controller.period)
    (ha : 0 ≤ (a₀.after es).navigator.track.limits.accel)
    (hs : 0 ≤ (a₀.after es).navigator.track.limits.speed)
    (hok : ((a₀.after es).tickStraight r).fault = none) :
    let a := a₀.after es
    let b := (a.tickStraight r).state
    let limits := a.navigator.track.limits
    let left := a.navigator.segment.length - a.navigator.track.desired
    let speed := b.navigator.track.limitedSpeed
    0 ≤ speed ∧ speed ≤ limits.speed ∧
      speed ≤ a.navigator.track.limitedSpeed + 2 * limits.accel * a.controller.period ∧
      (a.trackSpeed r < -a.linearRange r → speed = 0) ∧
      (|a.trackSpeed r| < a.linearRange r → speed ≤ a.trackSpeed r + a.linearRange r) ∧
      (a.navigator.flags.fast = false → b.navigator.flags.slowingDown = true →
        speed ≤ max 50 (√(4 * limits.accel * max 0 left))) ∧
      (b.navigator.flags.slowingDown = true ↔
        a₀.navigator.flags.slowingDown = true ∨
          ∃ es₁ r₁ es₂, es ++ [.call .tickStraight r] = es₁ ++ .call .tickStraight r₁ :: es₂ ∧
            (a₀.after es₁).EntersSlowDown r₁) := by
  intro a b limits left speed
  obtain ⟨x, hx⟩ := exists_offset_of_tickStraight a hok
  set v := a.approachAt r x with hv'
  have hspeed : speed = (a.navigator.movedTrack (a.sightAt r x) v).limitedSpeed :=
    (congrArg Track.limitedSpeed (tickStraight_track_ok a hx)).trans rfl
  have hmem := a.navigator.movedTrack_speed_mem v (a.sightAt r x) hs ha hdt
  rw [← hspeed] at hmem
  have halong : v.along = a.trackSpeed r := a.approachAt_along r x
  have hlinear : v.linear = a.linearRange r := a.approachAt_linear r x
  refine ⟨hmem.1, hmem.2.trans (a.navigator.targetSpeed_le v hs),
    hmem.2.trans (a.navigator.targetSpeed_le_ramp v hs hv ha hdt), fun hback ↦ ?_, fun hnear ↦ ?_,
    fun hfast hslows ↦ ?_, ?_⟩
  · have hopposed : v.Opposed := by rwa [Approach.Opposed, halong, hlinear]
    exact le_antisymm (hmem.2.trans_eq (a.navigator.targetSpeed_of_opposed v hopposed)) hmem.1
  · rw [← halong, ← hlinear] at hnear ⊢
    exact hmem.2.trans (a.navigator.targetSpeed_le_of_near v hnear)
  · have hslows' : a.navigator.slowsDown v = true :=
      (tickStraight_slowingDown_ok a hx).symm.trans hslows
    calc
      speed ≤ a.navigator.targetSpeed v := hmem.2
      _ ≤ a.navigator.approachSpeed v _ := a.navigator.targetSpeed_le_approachSpeed v hs
      _ ≤ Leash.slowDownSpeed left limits.accel :=
        a.navigator.approachSpeed_of_slows v hfast hslows'
      _ = max 50 (√(4 * limits.accel * max 0 left)) := Leash.slowDownSpeed_real _ _
  · have hall : a₀.Along (fun a e ↦ ¬ e.SetsStraight a) (es ++ [.call .tickStraight r]) :=
      along_append.mpr ⟨hes, Event.not_setsStraight_tick a r, trivial⟩
    have hlast : a₀.after (es ++ [.call .tickStraight r]) = b := after_append
    rw [← hlast, slowingDown_after_iff hall, exists_entersSlowDown_iff]

theorem northward_limitedSpeed {length : ℝ} :
    (northward length).navigator.track.limitedSpeed = 0 := by
  have hrest (u : Vec3 ℝ) : Vec3.zero.dot u = 0 := by simp [Vec3.dot_real]
  have hstart : (northward length).navigator.track.limitedSpeed =
      constrain (Vec3.zero.dot (northward length).navigator.segment.direction) 0.0 500.0 := rfl
  rw [hstart, hrest, zero_literal, constrain_eq (by norm_num)]
  norm_num

theorem northward_governs {length : ℝ} : (northward length).governs = false := by
  refine not_governs _ ?_
  have hsame : IsEqual (500.0 : ℝ) 500.0 := by norm_num [IsEqual]
  exact hsame

theorem northward_period {length : ℝ} : (northward length).controller.period = 1 / 100 := by
  have hperiod : (northward length).controller.period = 0.01 := rfl
  rw [hperiod]
  norm_num

theorem tick_ok_of_not_aboveTerrain {a : Autopilot ℝ}
    (h : a.navigator.segment.aboveTerrain = false) (r : Readings ℝ) :
    (a.tickStraight r).fault = none := by
  have hx : a.offsetFor r a.navigator.segment.aboveTerrain = .ok 0.0 := by
    rw [h]
    rfl
  rw [tickStraight_ok a hx]
  rfl

theorem northward_enters {length : ℝ} (h : IsPositive length) (hnear : length ≤ 625) :
    (northward length).EntersSlowDown Simulation.standard.readings := by
  refine ⟨tick_ok_of_not_aboveTerrain rfl _, rfl, ?_, ?_⟩
  · rw [← approachAt_along _ _ 0.0, ← approachAt_linear _ _ 0.0]
    exact northward_not_opposed h rfl 0.0
  · rw [Navigator.distanceLeft, northward_length h.pos.le, northward_desired, northward_limits h,
      sub_zero]
    exact hnear

/-- A target that sets out less than its slow-down distance before the destination slows down from
its first tick on, and ramps up within the law. -/
theorem straight_speed_northward :
    let r := (Simulation.standard : Simulation ℝ).readings
    let es : List (Event ℝ) := [.call .tickStraight r]
    let a := (northward 600).after es
    let b := (a.tickStraight r).state
    (northward 600).Along (fun a e ↦ ¬ e.SetsStraight a) es ∧
      0 ≤ a.navigator.track.limitedSpeed ∧ a.controller.period = 1 / 100 ∧
      a.navigator.track.limits = ⟨100, 500, 1300, 625⟩ ∧ (a.tickStraight r).fault = none ∧
      (northward 600).navigator.flags.slowingDown = false ∧
      b.navigator.flags.slowingDown = true ∧
      b.navigator.track.limitedSpeed ∈ Set.Icc 0 4 ∧
      b.navigator.track.limitedSpeed ≤
        max 50 (√(4 * 100 * max 0 (600 - a.navigator.track.desired))) := by
  intro r es a b
  have hpos : IsPositive (600 : ℝ) := by norm_num [isPositive_real]
  have hlimits₀ := northward_limits hpos
  have hsegment : a.navigator.segment = (northward 600).navigator.segment :=
    (northward 600).tickStraight_segment r
  have hperiod : a.controller.period = 1 / 100 :=
    ((northward 600).tickStraight_period r).trans northward_period
  have hdt : 0 ≤ a.controller.period := by
    rw [hperiod]
    norm_num
  have hlimits : a.navigator.track.limits = ⟨100, 500, 1300, 625⟩ := by
    have hfresh : (northward 600).navigator.flags.limitsStale = false := rfl
    rw [← hlimits₀]
    refine ((northward 600).tickStraight_limits r).trans ?_
    rw [hfresh, northward_governs, Bool.or_self, if_neg Bool.false_ne_true]
  have hok : (a.tickStraight r).fault = none :=
    tick_ok_of_not_aboveTerrain (congrArg Segment.aboveTerrain hsegment) r
  have hes : (northward 600).Along (fun a e ↦ ¬ e.SetsStraight a) es :=
    ⟨Event.not_setsStraight_tick _ r, trivial⟩
  obtain ⟨hnonneg₀, -, hramp₀, -⟩ := straight_speed (northward 600) [] trivial r
    northward_limitedSpeed.ge (by rw [after_nil, northward_period]; norm_num)
    (by rw [after_nil, hlimits₀]; norm_num) (by rw [after_nil, hlimits₀]; norm_num)
    (tick_ok_of_not_aboveTerrain rfl r)
  obtain ⟨hnonneg, -, hramp, -, -, hlaw, hslows⟩ := straight_speed (northward 600) es hes r
    hnonneg₀ hdt (by rw [hlimits]; norm_num) (by rw [hlimits]; norm_num) hok
  have hslowing : b.navigator.flags.slowingDown = true :=
    hslows.mpr (.inr ⟨[], r, es, rfl, northward_enters hpos (by norm_num)⟩)
  have hbound := hlaw ((northward 600).tickStraight_fast r) hslowing
  rw [hlimits, hsegment, northward_length hpos.pos.le] at hbound
  refine ⟨hes, hnonneg₀, hperiod, hlimits, hok, rfl, hslowing, ⟨hnonneg, ?_⟩, hbound⟩
  rw [after_nil, northward_limitedSpeed, hlimits₀, northward_period] at hramp₀
  rw [hlimits, hperiod] at hramp
  calc
    b.navigator.track.limitedSpeed ≤ a.navigator.track.limitedSpeed + 2 * 100 * (1 / 100) := hramp
    _ ≤ (0 + 2 * 100 * (1 / 100)) + 2 * 100 * (1 / 100) := add_le_add_left hramp₀ _
    _ = 4 := by norm_num

end Autopilot

end WaypointFlight
