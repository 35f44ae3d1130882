import WaypointFlight.Binary64.Scalar
import WaypointFlight.Proofs.LocationFaults
import WaypointFlight.Proofs.SplineArrival

namespace WaypointFlight

variable {α : Type} [Analytic α]

/-- The outcomes of a refused call. -/
inductive Refusal (r : Readings α) (a : Autopilot α) : Outcome α → Prop where
  | noTerrain (f : TerrainFault) (h : a.offsetFor r true = .error f) :
      Refusal r a (.noTerrain a f)
  | badLocation (f : Fault LocationError) (h : ConversionFault r f) :
      Refusal r a (.badLocation a f)
  | notSpline (h : a.navigator.segment.kind = .straight) :
      Refusal r a ⟨some (.error .notSpline), a, []⟩

theorem Refusal.state {r : Readings α} {a : Autopilot α} {o : Outcome α} (h : Refusal r a o) :
    o.state = a := by
  cases h <;> rfl

namespace Autopilot

variable (a : Autopilot α) (r : Readings α)

theorem aboveTerrain_of_offsetFor_error {t : Bool} {f : TerrainFault}
    (h : a.offsetFor r t = .error f) : t = true := by
  cases t with
  | true => rfl
  | false => cases h

theorem offsetFor_of_originFor_error {t : Bool} {f : TerrainFault}
    (h : a.originFor r t = .error f) : a.offsetFor r t = .error f := by
  cases t with
  | false => cases h
  | true =>
    rcases bind_error h with hx | ⟨x, -, hok⟩
    · exact hx
    · cases hok

variable {a r}

theorem refusal_setStraight {origin destination : Vec3 α} {t : Bool}
    (hf : (a.setStraight r origin destination t).fault ≠ none) :
    Refusal r a (a.setStraight r origin destination t) := by
  unfold setStraight at hf ⊢
  cases hx : a.offsetFor r t with
  | ok x => simp [hx, Outcome.done] at hf
  | error f =>
    obtain rfl := a.aboveTerrain_of_offsetFor_error r hx
    exact .noTerrain f hx

theorem refusal_setSpline {q : SplineRequest α} (hf : (a.setSpline r q).fault ≠ none) :
    Refusal r a (a.setSpline r q) := by
  unfold setSpline at hf ⊢
  cases hx : a.offsetFor r q.aboveTerrain with
  | ok x => simp [hx, Outcome.done] at hf
  | error f => exact .noTerrain f (a.aboveTerrain_of_offsetFor_error r hx ▸ hx)

theorem refusal_setStraightTo {destination : Vec3 α} {t : Bool}
    (hf : (a.setStraightTo r destination t).fault ≠ none) :
    Refusal r a (a.setStraightTo r destination t) := by
  unfold setStraightTo at hf ⊢
  cases ho : a.originFor r t with
  | ok origin =>
    simp only [ho] at hf
    exact refusal_setStraight hf
  | error f =>
    have hx := a.offsetFor_of_originFor_error r ho
    obtain rfl := a.aboveTerrain_of_offsetFor_error r hx
    exact .noTerrain f hx

theorem refusal_setSplineTo {destination : Vec3 α} {t stopped : Bool}
    {following : SegmentEnd (Vec3 α)}
    (hf : (a.setSplineTo r destination t stopped following).fault ≠ none) :
    Refusal r a (a.setSplineTo r destination t stopped following) := by
  unfold setSplineTo at hf ⊢
  cases ho : a.originFor r t with
  | ok origin =>
    simp only [ho] at hf
    exact refusal_setSpline hf
  | error f =>
    have hx := a.offsetFor_of_originFor_error r ho
    obtain rfl := a.aboveTerrain_of_offsetFor_error r hx
    exact .noTerrain f hx

theorem refusal_setStraightToLocation {destination : Location}
    (hf : (a.setStraightToLocation r destination).fault ≠ none) :
    Refusal r a (a.setStraightToLocation r destination) := by
  unfold setStraightToLocation at hf ⊢
  cases hv : destination.vectorNEU (α := α) r.attitude.origin with
  | ok v =>
    simp only [hv] at hf
    exact refusal_setStraightTo hf
  | error f => exact .badLocation f (.of_vectorNEU hv)

theorem refusal_setSplineToLocation {destination : Location} {stopped : Bool}
    {following : SegmentEnd Location}
    (hf : (a.setSplineToLocation r destination stopped following).fault ≠ none) :
    Refusal r a (a.setSplineToLocation r destination stopped following) := by
  unfold setSplineToLocation at hf ⊢
  cases hv : destination.vectorNEU (α := α) r.attitude.origin with
  | error f => exact .badLocation f (.of_vectorNEU hv)
  | ok v =>
    simp only [hv] at hf ⊢
    cases hn : followingVector r destination.frame following with
    | error f => exact .badLocation f (.of_followingVector hn)
    | ok next =>
      simp only [hn] at hf
      exact refusal_setSplineTo hf

end Autopilot

/-- A call that should set a segment and fails, or a tick for splines on a straight segment, leaves
the navigator, the controller and the saved parameters as they were. -/
theorem Command.refused_unchanged {c : Command α} {r : Readings α} {a : Autopilot α}
    (hc : c.sets ≠ none ∨ c = .tickSpline ∧ a.navigator.segment.kind = .straight)
    (hf : (c.run r a).fault ≠ none) : (c.run r a).state = a ∧ Refusal r a (c.run r a) := by
  have h : Refusal r a (c.run r a) := by
    rcases hc with hset | ⟨rfl, hk⟩
    · cases c with
      | straightTo => exact Autopilot.refusal_setStraightTo hf
      | straightToLocation => exact Autopilot.refusal_setStraightToLocation hf
      | straightToNED => exact Autopilot.refusal_setStraightTo hf
      | straight => exact Autopilot.refusal_setStraight hf
      | splineTo => exact Autopilot.refusal_setSplineTo hf
      | splineToLocation => exact Autopilot.refusal_setSplineToLocation hf
      | spline => exact Autopilot.refusal_setSpline hf
      | _ => exact absurd rfl hset
    · simp only [run, Autopilot.tickSpline, hk]
      exact .notSpline hk
  exact ⟨h.state, h⟩

def unmapped (α : Type) [Analytic α] : Readings α :=
  { (Simulation.standard : Simulation α).readings with database := .absent }

/-- A spline to the world origin, to be followed by a straight segment above the ground there. -/
def homeward (α : Type) [Analytic α] : Command α :=
  let home := (SimParams.standard : SimParams α).origin
  .splineToLocation home false (.straight { home with frame := .aboveTerrain })

theorem homeward_fault :
    ((homeward Float).run (unmapped Float) Simulation.standard.autopilot).fault =
      some (.error (.location (.noTerrainData .aboveTerrain .absolute))) := rfl

theorem Command.refused_unchanged_homeward :
    let a := (Simulation.standard : Simulation Float).autopilot
    let o := (homeward Float).run (unmapped Float) a
    (homeward Float).sets ≠ none ∧ o.fault ≠ none ∧ o.state = a ∧ Refusal (unmapped Float) a o := by
  intro a o
  have hset : (homeward Float).sets ≠ none := by simp [homeward, sets]
  have hf : o.fault ≠ none := by simp [o, a, homeward_fault]
  exact ⟨hset, hf, refused_unchanged (.inl hset) hf⟩

namespace PositionController

variable (c : PositionController α)

@[simp]
theorem update_updates : c.update.updates = c.updates + 1 := by simp [update, refreshStale_eq]

@[simp]
theorem update_freezes : c.update.freezes = c.freezes := by simp [update, refreshStale_eq]

end PositionController

namespace Autopilot

variable (a : Autopilot α) (r : Readings α)

def freezesDue : Nat := a.controller.freezes + if a.navigator.flags.newDestination then 1 else 0

theorem finishTick_controller_eq (now : Nat) :
    (a.finishTick now).controller = { a.controller with freezes := a.freezesDue }.update := by
  unfold finishTick freezeIfNew freezesDue
  split <;> rfl

theorem finishTick_saved (now : Nat) : (a.finishTick now).saved = a.saved := by
  unfold finishTick freezeIfNew
  split <;> rfl

theorem settleTick_controller_eq (now : Nat) :
    (a.settleTick now).controller = { a.controller with freezes := a.freezesDue }.update := by
  rw [settleTick, refreshStaleLimits_controller, finishTick_controller_eq]

theorem settleTick_saved (now : Nat) : (a.settleTick now).saved = a.saved := by
  rw [← a.finishTick_saved now, settleTick, refreshStaleLimits]
  split <;> rfl

theorem prepared_saved : a.prepared.saved = a.saved := by
  unfold prepared
  cases a.pushAccels.governedSpeed a.controller.period <;> rfl

theorem governed_saved : a.governed.saved = a.saved := by
  unfold governed
  cases a.governedSpeed a.controller.period <;> rfl

/-- A tick has ended without a new target: its controller has run, and the navigator differs in
what a tick computes before it looks for the ground. -/
structure Holds (now : Nat) (b : Autopilot α) : Prop where
  navigator : ∃ direction limits limitsStale,
    b.navigator =
      { a.navigator with
        segment.direction := direction
        track.limits := limits
        flags.limitsStale := limitsStale
        flags.newDestination := false
        lastTick := some now }
  controller : ∃ speedXY accelXY accelZ staleXY staleZ,
    b.controller =
      { a.controller with
        speedXY, accelXY, accelZ, staleXY, staleZ
        freezes := a.freezesDue }.update
  saved : b.saved = a.saved

variable {a r}

theorem tickStraight_holds
    (hf : (a.tickStraight r).fault = some (.error .terrainUnavailable)) :
    a.Holds r.now (a.tickStraight r).state := by
  cases hx : a.offsetFor r a.navigator.segment.aboveTerrain with
  | ok x =>
    rw [tickStraight_ok a hx] at hf
    cases hf
  | error f =>
    rw [tickStraight_error a hx]
    obtain ⟨_, _, _, _, _, hc⟩ := a.prepared_controller
    have hdue : a.prepared.freezesDue = a.freezesDue := by
      simp only [freezesDue, hc, prepared_navigator]
    refine ⟨?_, ?_, ?_⟩
    · rw [settleTick_navigator, prepared_navigator]
      exact ⟨_, _, _, rfl⟩
    · rw [settleTick_controller_eq, hdue, hc]
      exact ⟨_, _, _, _, _, rfl⟩
    · rw [settleTick_saved, prepared_saved]

theorem tickSpline_holds (hf : (a.tickSpline r).fault = some (.error .terrainUnavailable)) :
    a.Holds r.now (a.tickSpline r).state := by
  have h := a.splineTick r
  generalize a.tickSpline r = o at h hf
  -- of all ticks only one that is held for want of the ground fails in this way
  cases h with
  | held hk hr hv f hx =>
    obtain ⟨_, _, hc⟩ := a.governed_controller
    have hturned : (a.governed.turnTo a.curveVelocity).controller = a.governed.controller := rfl
    have hdue : (a.governed.turnTo a.curveVelocity).freezesDue = a.freezesDue := by
      simp only [freezesDue, turnTo, refreshLimits, hc, governed_navigator]
    refine ⟨?_, ?_, ?_⟩
    · simp only [finishTick_navigator, turnTo, refreshLimits, governed_navigator]
      exact ⟨_, _, _, rfl⟩
    · rw [finishTick_controller_eq, hdue, hturned, hc]
      exact ⟨_, _, _, _, _, rfl⟩
    · rw [finishTick_saved]
      exact a.governed_saved
  | _ => cases hf

/-- A tick without terrain data holds the last target. The controller is updated once, a frozen
feed-forward that was due is issued, and the time of the tick is taken down. Only a spline has
turned its direction of travel by then. -/
theorem failed_tick_holds {c : Command α} (hc : c = .tickStraight ∨ c = .tickSpline)
    (r : Readings α) (a : Autopilot α)
    (hf : (c.run r a).fault = some (.error .terrainUnavailable)) :
    let b := (c.run r a).state
    a.Holds r.now b ∧
      (c = .tickStraight → b.navigator.segment = a.navigator.segment) ∧
      b.controller.positionTarget = a.controller.positionTarget ∧
      b.controller.updates = a.controller.updates + 1 ∧
      b.controller.freezes =
        a.controller.freezes + if a.navigator.flags.newDestination then 1 else 0 := by
  intro b
  have hholds : a.Holds r.now b := by
    rcases hc with rfl | rfl
    · exact tickStraight_holds hf
    · exact tickSpline_holds hf
  obtain ⟨_, _, _, _, _, hcontroller⟩ := hholds.controller
  refine ⟨hholds, ?_, ?_, ?_, ?_⟩
  · rintro rfl
    exact a.tickStraight_segment r
  · rw [hcontroller, PositionController.update_positionTarget]
  · rw [hcontroller, PositionController.update_updates]
  · rw [hcontroller, PositionController.update_freezes, freezesDue]

noncomputable def lowHop : Autopilot ℝ :=
  ((Command.spline ⟨.zero, ⟨1500, 0, 0⟩, true, false, .stop⟩).run Simulation.standard.readings
    Simulation.standard.autopilot).state

theorem lowHop_moves : ¬ Scalar.IsZero lowHop.curveVelocity.norm := by
  refine beginSpline_moves rfl rfl ?_ ?_
  · show (0.001 : ℝ) ≤ 0.01
    norm_num
  · show 1 ≤ (⟨1500, 0, 0⟩ - .zero : Vec3 ℝ).norm
    rw [Vec3.sub_zero, Vec3.norm_north (by norm_num)]
    norm_num

theorem lowHop_fault :
    (lowHop.tickSpline (unmapped ℝ)).fault = some (.error .terrainUnavailable) := by
  have habove : lowHop.navigator.segment.aboveTerrain = true := rfl
  have hfinder : (unmapped ℝ).rangeFinder = none := rfl
  have hlost : lowHop.offsetFor (unmapped ℝ) lowHop.navigator.segment.aboveTerrain =
      .error .noData := by
    rw [offsetFor, if_pos habove, hfinder, ite_self]
    rfl
  have h := lowHop.splineTick (unmapped ℝ)
  generalize lowHop.tickSpline (unmapped ℝ) = o at h
  cases h with
  | refused hk => cases hk
  | reached _ hr => cases hr
  | still _ _ hv => exact absurd hv lowHop_moves
  | flown _ _ _ x hx => cases hlost.symm.trans hx
  | held => rfl

theorem failed_tick_holds_lowHop :
    let r := unmapped ℝ
    let b := (lowHop.tickSpline r).state
    (lowHop.tickSpline r).fault = some (.error .terrainUnavailable) ∧
      lowHop.navigator.flags.newDestination = true ∧ lowHop.Holds r.now b ∧
      b.controller.positionTarget = lowHop.controller.positionTarget ∧
      b.controller.updates = lowHop.controller.updates + 1 ∧
      b.controller.freezes = lowHop.controller.freezes + 1 := by
  intro r b
  obtain ⟨hholds, -, htarget, hupdates, hfreezes⟩ :=
    failed_tick_holds (.inr rfl) r lowHop lowHop_fault
  exact ⟨lowHop_fault, rfl, hholds, htarget, hupdates, hfreezes⟩

end Autopilot

end WaypointFlight
