import WaypointFlight.Proofs.RealLimits
import WaypointFlight.Proofs.SplineTicks

namespace WaypointFlight

variable {α : Type} [Analytic α]

namespace PositionController

/-- The controller has been given these accelerations. In some number systems a value may differ
from itself, and then its leash is owed. -/
structure Pushed (c : PositionController α) (accelXY accelZ : α) : Prop where
  xy : Differs c.accelXY accelXY → c.accelXY = accelXY ∧ c.staleXY = true
  z : Differs c.accelZ accelZ → c.accelZ = accelZ ∧ c.staleZ = true

theorem pushed_limitAccel (c : PositionController α) (accelXY accelZ : α) :
    ((c.limitAccelXY accelXY).limitAccelZ accelZ).Pushed accelXY accelZ := by
  rw [limitAccelXY_eq, limitAccelZ_eq]
  refine ⟨fun h ↦ ?_, fun h ↦ ?_⟩
  · by_cases hd : Differs c.accelXY accelXY
    · simp [hd]
    · simp only [hd, ↓reduceIte] at h
  · by_cases hd : Differs c.accelZ accelZ
    · simp [hd]
    · simp only [hd, ↓reduceIte] at h

theorem Pushed.limitSpeedXY {c : PositionController α} {accelXY accelZ : α}
    (h : c.Pushed accelXY accelZ) (speed : α) :
    (c.limitSpeedXY speed).Pushed accelXY accelZ := by
  rw [limitSpeedXY_eq]
  refine ⟨fun hd ↦ ?_, h.z⟩
  obtain ⟨ha, hs⟩ := h.xy hd
  exact ⟨ha, by simp [hs]⟩

/-- The leash that a pushed acceleration calls for is the one owed already. -/
theorem owed_leash {own accel speed gain leash : α} {stale : Bool}
    (h : Differs own accel → own = accel ∧ stale = true) :
    (if Differs own accel then
        Leash.length speed (if Differs own accel then accel else own) gain
      else if stale = true then Leash.length speed own gain else leash) =
      if stale = true then Leash.length speed own gain else leash := by
  by_cases hd : Differs own accel
  · obtain ⟨ha, hs⟩ := h hd
    rw [if_pos hd, if_pos hd, if_pos hs, ha]
  · rw [if_neg hd]

end PositionController

namespace Autopilot

variable (a : Autopilot α) (r : Readings α)

/-- The limits along the track once the controller has computed the leashes it owes. -/
def settledLimits : TrackLimits α :=
  .along a.navigator.segment.direction
    (a.pushAccels.controller.refreshStale.axisLimits
      a.navigator.params.accel a.navigator.params.accelZ)

def Settles : Prop :=
  a.navigator.flags.limitsStale = true ∨ a.navigator.track.limits = a.settledLimits

theorem settledLimits_eq :
    a.settledLimits =
      let c := a.controller
      let p := a.navigator.params
      let owedXY := c.staleXY || decide (PositionController.Differs c.accelXY p.accel)
      let owedZ := c.staleZ || decide (PositionController.Differs c.accelZ p.accelZ)
      let accelXY := if PositionController.Differs c.accelXY p.accel then p.accel else c.accelXY
      let accelZ := if PositionController.Differs c.accelZ p.accelZ then p.accelZ else c.accelZ
      .along a.navigator.segment.direction
        { speedXY := c.speedXY
          speedUp := c.speedUp
          speedDown := Scalar.abs c.speedDown
          accelXY := p.accel
          accelZ := p.accelZ
          leashXY := if owedXY then Leash.length c.speedXY accelXY c.gainXY else c.leashXY
          leashUp := if owedZ then Leash.length c.speedUp accelZ c.gainZ else c.leashUp
          leashDown :=
            if owedZ then Leash.length (-c.speedDown) accelZ c.gainZ else c.leashDown } := by
  simp only [settledLimits, PositionController.refreshStale_eq, PositionController.axisLimits,
    pushAccels, PositionController.limitAccelXY_eq, PositionController.limitAccelZ_eq]

theorem prepared_of_not_governs (h : a.governs = false) : a.prepared = a.pushAccels := by
  rw [governs, Option.isSome_eq_false_iff, Option.isNone_iff_eq_none] at h
  rw [prepared, h, govern]

theorem tickStraight_trackLimits (h : a.governs = false) :
    (a.tickStraight r).state.trackLimits = a.settledLimits := by
  obtain ⟨_, _, hc⟩ := a.tickStraight_controller r
  simp only [trackLimits, settledLimits, hc, tickStraight_segment, tickStraight_params,
    PositionController.update_axisLimits, prepared_of_not_governs a h,
    PositionController.refreshStale_eq]
  rfl

theorem prepared_pushed :
    a.prepared.controller.Pushed a.navigator.params.accel a.navigator.params.accelZ := by
  have h := a.controller.pushed_limitAccel a.navigator.params.accel a.navigator.params.accelZ
  unfold prepared
  cases a.pushAccels.governedSpeed a.controller.period with
  | none => exact h
  | some speed => exact h.limitSpeedXY speed

theorem settledLimits_tickStraight :
    (a.tickStraight r).state.settledLimits = (a.tickStraight r).state.trackLimits := by
  obtain ⟨_, _, hc⟩ := a.tickStraight_controller r
  have hp := a.prepared_pushed
  rw [settledLimits_eq, trackLimits]
  simp only [PositionController.axisLimits, hc, tickStraight_params, PositionController.update,
    PositionController.refreshStale_eq, Bool.false_or, decide_eq_true_eq,
    PositionController.owed_leash hp.xy, PositionController.owed_leash hp.z]

theorem beginStraight_limits (origin destination : Vec3 α) (t : Bool) (offset : α) :
    (a.beginStraight r origin destination t offset).navigator.track.limits =
      .along (Segment.directionOf (destination - origin))
        (a.controller.axisLimits a.navigator.params.accel a.navigator.params.accelZ) := rfl

theorem settles_tickStraight_iff :
    (a.tickStraight r).state.Settles ↔ a.Settles ∨ a.governs = true := by
  rw [Settles, Settles, tickStraight_limitsStale, settledLimits_tickStraight, tickStraight_limits]
  cases hg : a.governs with
  | true => simp
  | false =>
    rw [tickStraight_trackLimits a r hg]
    cases a.navigator.flags.limitsStale <;> simp

theorem settles_shift_iff : (a.shiftToVehicle r).Settles ↔ a.Settles := by
  unfold shiftToVehicle
  split_ifs
  · rfl
  · unfold Settles
    rw [settledLimits_eq, settledLimits_eq]
    rfl

theorem settles_moved_iff (position velocity : Vec3 α) :
    ((Event.moved position velocity).apply a).Settles ↔ a.Settles := by
  unfold Settles
  rw [settledLimits_eq, settledLimits_eq]
  rfl

end Autopilot

/-- The event has the limits computed again, at once or in the next tick. -/
def Event.MarksLimits (a : Autopilot α) : Event α → Prop
  | .call (.setSpeedUp _) _ | .call (.setSpeedDown _) _ => True
  | .call .tickStraight _ => a.governs = true
  | _ => False

namespace Autopilot

variable {a b : Autopilot α} {e : Event α} {es : List (Event α)}

theorem settles_effect_iff (h : e.Effect a b) (hk : a.navigator.segment.kind = .straight)
    (he : e.InFlight) (hkeep : a.Keeps e) : b.Settles ↔ a.Settles ∨ e.MarksLimits a := by
  cases h with
  | replaced c => cases he
  | start r => cases he
  | straight r hc hf => exact absurd hf (hkeep (by simp [hc]))
  | spline r hc hf => exact absurd hf (hkeep (by simp [hc]))
  | @refused c r hc =>
    have hm : ¬ (Event.call c r).MarksLimits a := by
      cases c <;> first | exact id | exact absurd rfl hc
    exact (or_iff_left hm).symm
  | moved p v => exact (a.settles_moved_iff p v).trans (or_iff_left id).symm
  | shift r => exact (a.settles_shift_iff r).trans (or_iff_left id).symm
  | tickStraight r => exact a.settles_tickStraight_iff r
  | tickSpline r =>
    have hs : a.tickSpline r = ⟨some (.error .notSpline), a, []⟩ := by
      simp only [tickSpline, hk]
    rw [hs]
    exact (or_iff_left id).symm
  | tooSlow => exact (or_iff_left id).symm
  | requestSpeed => exact (or_iff_left id).symm
  | setSpeedUp v r => exact iff_of_true (.inl rfl) (.inr trivial)
  | setSpeedDown v r => exact iff_of_true (.inl rfl) (.inr trivial)
  | setFast fast r => exact (or_iff_left id).symm

theorem settles_after_iff (hk : a.navigator.segment.kind = .straight)
    (hes : a.Along (fun a e ↦ e.InFlight ∧ a.Keeps e) es) :
    (a.after es).Settles ↔ a.Settles ∨ ¬ a.Along (fun a e ↦ ¬ e.MarksLimits a) es := by
  induction es generalizing a with
  | nil => simp [Along]
  | cons e es ih =>
    obtain ⟨⟨he, hkeep⟩, htail⟩ := hes
    rw [after_cons, ih (((e.effect a).kind hkeep).trans hk) htail,
      settles_effect_iff (e.effect a) hk he hkeep]
    simp only [Along, not_and_or, not_not, or_assoc]

/-- A run begins a straight segment where it has not begun, or with a call that set one. -/
def BeginsStraight (a : Autopilot α) (es : List (Event α)) : Prop :=
  es = [] ∨ ∃ es' c r, es = es' ++ [.call c r] ∧ c.sets = some .straight ∧
    (c.run r (a.after es')).fault = none

theorem exists_beginsStraight (hes : ∀ e ∈ es, e.InFlight)
    (hk : (a.after es).navigator.segment.kind = .straight) :
    ∃ es₁ es₂, es = es₁ ++ es₂ ∧ a.BeginsStraight es₁ ∧
      (a.after es₁).navigator.segment.kind = .straight ∧
      (a.after es₁).Along (fun a e ↦ e.InFlight ∧ a.Keeps e) es₂ := by
  -- from the end of the run: the last event that sets a segment has begun this one
  induction es using List.reverseRecOn with
  | nil => exact ⟨[], [], rfl, .inl rfl, hk, trivial⟩
  | append_singleton es e ih =>
    have hlast : (a.after (es ++ [e])) = e.apply (a.after es) := after_append
    by_cases hkeep : (a.after es).Keeps e
    · rw [hlast, (e.effect _).kind hkeep] at hk
      obtain ⟨es₁, es₂, rfl, hb, hk₁, hes₂⟩ :=
        ih (fun e he ↦ hes e (List.mem_append_left _ he)) hk
      refine ⟨es₁, es₂ ++ [e], List.append_assoc _ _ _, hb, hk₁, along_append.mpr ⟨hes₂, ?_⟩⟩
      rw [← after_append]
      exact ⟨⟨hes e (by simp), hkeep⟩, trivial⟩
    · refine ⟨es ++ [e], [], (List.append_nil _).symm, ?_, hk, trivial⟩
      cases e with
      | replaced c => exact absurd trivial hkeep
      | moved p v => exact absurd trivial hkeep
      | call c r =>
        simp only [Keeps, not_forall, ne_eq, not_not] at hkeep
        obtain ⟨hc, hf⟩ := hkeep
        refine .inr ⟨es, c, r, rfl, ?_, hf⟩
        cases hs : c.sets with
        | none => exact absurd hs hc
        | some kind =>
          cases kind with
          | straight => rfl
          | spline =>
            obtain ⟨q, x, -, h⟩ := (c.run_spline r _ hs).resolve_left fun h ↦ h.1 hf
            rw [hlast, Event.apply, h] at hk
            cases hk

/-- The limits along a straight segment are those of the updated controller after a tick exactly
if the segment began with the settled limits, or if some event since, this tick included, has had
them computed again. Setting a segment computes them from the leashes that the controller has at
that moment, also where a changed speed calls for others. -/
theorem limits_fresh_iff (a₀ : Autopilot α) (es : List (Event α)) (hes : ∀ e ∈ es, e.InFlight)
    (hk : (a₀.start.state.after es).navigator.segment.kind = .straight) (r : Readings α) :
    let b := ((a₀.start.state.after es).tickStraight r).state
    ∃ es₁ es₂, es = es₁ ++ es₂ ∧ a₀.start.state.BeginsStraight es₁ ∧
      (a₀.start.state.after es₁).Along (fun a e ↦ a.Keeps e) es₂ ∧
      (b.navigator.track.limits = b.trackLimits ↔
        (a₀.start.state.after es₁).Settles ∨
          ¬ (a₀.start.state.after es₁).Along (fun a e ↦ ¬ e.MarksLimits a)
            (es₂ ++ [.call .tickStraight r])) := by
  intro b
  obtain ⟨es₁, es₂, rfl, hb, hk₁, hes₂⟩ := exists_beginsStraight hes hk
  refine ⟨es₁, es₂, rfl, hb, hes₂.mono fun _ _ h ↦ h.2, ?_⟩
  have hall : (a₀.start.state.after es₁).Along (fun a e ↦ e.InFlight ∧ a.Keeps e)
      (es₂ ++ [.call .tickStraight r]) :=
    along_append.mpr ⟨hes₂, ⟨trivial, fun h ↦ absurd rfl h⟩, trivial⟩
  have hb' : (a₀.start.state.after es₁).after (es₂ ++ [.call .tickStraight r]) = b := by
    rw [after_append]
    simp only [b, after_append, after_cons, after_nil]
    rfl
  have hfresh : b.Settles ↔ b.navigator.track.limits = b.trackLimits := by
    rw [Settles, tickStraight_limitsStale, settledLimits_tickStraight]
    simp only [Bool.false_eq_true, false_or, b]
  rw [← settles_after_iff hk₁ hall, hb', hfresh]

noncomputable def climb : List (Event ℝ) :=
  [.call (.setSpeedUp 500) Simulation.standard.readings,
    .call (.straight .zero ⟨0, 0, 1000⟩ false) Simulation.standard.readings]

theorem climb_inFlight : ∀ e ∈ climb, e.InFlight := by simp [climb, Event.InFlight]

theorem limits_fresh_iff_climb :
    let a := (Simulation.standard : Simulation ℝ).autopilot
    let b := ((a.start.state.after climb).tickStraight Simulation.standard.readings).state
    (∀ e ∈ climb, e.InFlight) ∧ (a.start.state.after climb).navigator.segment.kind = .straight ∧
    ∃ es₁ es₂, climb = es₁ ++ es₂ ∧ a.start.state.BeginsStraight es₁ ∧
      (a.start.state.after es₁).Along (fun a e ↦ a.Keeps e) es₂ ∧
      (b.navigator.track.limits = b.trackLimits ↔
        (a.start.state.after es₁).Settles ∨
          ¬ (a.start.state.after es₁).Along (fun a e ↦ ¬ e.MarksLimits a)
            (es₂ ++ [.call .tickStraight Simulation.standard.readings])) :=
  ⟨climb_inFlight, rfl, limits_fresh_iff _ climb climb_inFlight rfl _⟩

theorem climb_direction :
    Segment.directionOf (⟨0, 0, 1000⟩ - .zero : Vec3 ℝ) = ⟨0, 0, 1⟩ := by
  rw [Vec3.sub_zero, Segment.directionOf_up (by norm_num [Scalar.isPositive_real])]

theorem after_climb :
    let a := (Simulation.standard : Simulation ℝ).autopilot
    let b := a.after climb
    b.governs = false ∧ b.navigator.flags.limitsStale = false ∧
      b.navigator.track.limits.leash = 362.5 ∧ b.settledLimits.leash = 1300 := by
  intro a b
  have hb : b = (a.setSpeedUp 500).beginStraight Simulation.standard.readings .zero ⟨0, 0, 1000⟩
      false 0.0 := rfl
  have hd : PositionController.Differs a.controller.speedUp 500 := by
    show PositionController.Differs (250.0 : ℝ) 500
    norm_num [PositionController.Differs]
  have hc : b.controller =
      { a.controller.limitSpeedZ a.controller.speedDown 500 with
        positionTarget := .zero + Vec3.vertical 0.0 } := rfl
  simp only [PositionController.limitSpeedZ_eq, hd, true_or, if_true, decide_true,
    Bool.or_true] at hc
  refine ⟨?_, rfl, ?_, ?_⟩
  · refine b.not_governs ?_
    rw [hc]
    show |(500.0 : ℝ) - 500.0| < _
    norm_num [Scalar.tolerance]
  · have hl : (a.setSpeedUp 500).controller.leashUp = Leash.length 250.0 100.0 1.0 := by
      rw [setSpeedUp, PositionController.limitSpeedZ_eq]
      rfl
    rw [hb, beginStraight_limits, climb_direction, TrackLimits.along_up_leash,
      PositionController.axisLimits, hl]
    norm_num [Leash.length, Leash.shortest]
  · have hz : b.navigator.params.accelZ = a.controller.accelZ := rfl
    have hv : b.navigator.segment.direction = ⟨0, 0, 1⟩ := climb_direction
    have hl : Leash.length 500 a.controller.accelZ a.controller.gainZ = (1300 : ℝ) := by
      show Leash.length (500 : ℝ) 100.0 1.0 = 1300
      norm_num [Leash.length, Leash.shortest]
    simp only [settledLimits_eq, hv, TrackLimits.along_up_leash, hc, hz, Bool.true_or, if_true,
      ite_self, hl]
    norm_num [Leash.shortest]

/-- The leash of the slower climb stays in force after the tick, although the controller has the
longer one by then. -/
theorem limits_stale_climb :
    let a := (Simulation.standard : Simulation ℝ).autopilot
    let b := ((a.start.state.after climb).tickStraight Simulation.standard.readings).state
    (∀ e ∈ climb, e.InFlight) ∧ (a.start.state.after climb).navigator.segment.kind = .straight ∧
      b.navigator.track.limits.leash = 362.5 ∧ b.trackLimits.leash = 1300 := by
  intro a b
  obtain ⟨hg, hs, hold, hnew⟩ := after_climb
  refine ⟨climb_inFlight, rfl, ?_, ?_⟩
  · simp only [b, a, start_standard, tickStraight_limits, hg, hs]
    exact hold
  · simp only [b, a, start_standard]
    rw [tickStraight_trackLimits _ _ hg]
    exact hnew

end Autopilot

end WaypointFlight
