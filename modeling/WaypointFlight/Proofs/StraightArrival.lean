import WaypointFlight.Proofs.RealLimits
import WaypointFlight.Proofs.SplineTicks
import WaypointFlight.Proofs.StraightTarget

namespace WaypointFlight

open Scalar

variable {α : Type} [Analytic α]

namespace Autopilot

section Ticks

variable (a : Autopilot α) {r : Readings α} {x : α} {f : TerrainFault}

theorem tickStraight_reached_ok (hx : a.offsetFor r a.navigator.segment.aboveTerrain = .ok x) :
    (a.tickStraight r).state.navigator.flags.reached =
      (a.navigator.flags.reached ||
        a.navigator.arrives r.position x (a.tickStraight r).state.navigator.track.desired) := by
  rw [tickStraight_track_ok a hx, tickStraight_ok a hx]
  simp only [Outcome.done, settleTick_navigator, advanceStraight_navigator, Navigator.choose_eq]

theorem tickStraight_reached_error
    (hf : a.offsetFor r a.navigator.segment.aboveTerrain = .error f) :
    (a.tickStraight r).state.navigator.flags.reached = a.navigator.flags.reached := by
  rw [tickStraight_error a hf]
  simp only [settleTick_navigator, prepared_navigator]

end Ticks

/-- The tick finds the target at the end of the track, and the vehicle near enough if the waypoint
is not a fast one. -/
def ArrivesAt (a : Autopilot α) (r : Readings α) : Prop :=
  let b := a.tickStraight r
  b.fault = none ∧ ∃ x, a.offsetFor r a.navigator.segment.aboveTerrain = .ok x ∧
    b.state.navigator.segment.length ≤ b.state.navigator.track.desired ∧
    (a.navigator.flags.fast = true ∨
      (r.position - Vec3.vertical x - a.navigator.segment.destination).norm ≤
        a.navigator.params.radius)

end Autopilot

def Event.Arrives (a : Autopilot α) : Event α → Prop
  | .call .tickStraight r => a.ArrivesAt r
  | _ => False

namespace Autopilot

variable {a b : Autopilot α} {e : Event α} {es : List (Event α)}

theorem reached_tickStraight_iff (a : Autopilot α) (r : Readings α) :
    (a.tickStraight r).state.navigator.flags.reached = true ↔
      a.navigator.flags.reached = true ∨ a.ArrivesAt r := by
  cases hx : a.offsetFor r a.navigator.segment.aboveTerrain with
  | error f =>
    have hnot : ¬ a.ArrivesAt r := by
      rintro ⟨-, x, hok, -⟩
      cases hx.symm.trans hok
    rw [tickStraight_reached_error a hx, or_iff_left hnot]
  | ok x =>
    have hfault : (a.tickStraight r).fault = none := congrArg Outcome.fault (tickStraight_ok a hx)
    rw [tickStraight_reached_ok a hx, ArrivesAt, hx]
    simp only [Navigator.arrives, hfault, tickStraight_segment, Bool.or_eq_true, Bool.and_eq_true,
      decide_eq_true_eq, Except.ok.injEq, true_and, exists_eq_left']

theorem reached_effect_iff (h : e.Effect a b) (hk : a.navigator.segment.kind = .straight)
    (hkeep : a.Keeps e) :
    b.navigator.flags.reached = true ↔ a.navigator.flags.reached = true ∨ e.Arrives a := by
  cases h with
  | straight r hc hf => exact absurd hf (hkeep (by simp [hc]))
  | spline r hc hf => exact absurd hf (hkeep (by simp [hc]))
  | @refused c r hc =>
    cases c with
    | tickStraight => exact absurd rfl hc
    | _ => exact (or_iff_left id).symm
  | start r =>
    rw [start_flags]
    exact (or_iff_left id).symm
  | shift r =>
    rw [shiftToVehicle_flags]
    exact (or_iff_left id).symm
  | tickStraight r => exact a.reached_tickStraight_iff r
  | tickSpline r =>
    have hs : a.tickSpline r = ⟨some (.error .notSpline), a, []⟩ := by
      simp only [tickSpline, hk]
    rw [hs]
    exact (or_iff_left id).symm
  | _ => exact (or_iff_left id).symm

theorem reached_after_iff (hk : a.navigator.segment.kind = .straight)
    (hes : a.Along (fun a e ↦ a.Keeps e) es) :
    (a.after es).navigator.flags.reached = true ↔
      a.navigator.flags.reached = true ∨ ¬ a.Along (fun a e ↦ ¬ e.Arrives a) es := by
  induction es generalizing a with
  | nil => simp [Along]
  | cons e es ih =>
    obtain ⟨hkeep, htail⟩ := hes
    rw [after_cons, ih (((e.effect a).kind hkeep).trans hk) htail,
      reached_effect_iff (e.effect a) hk hkeep]
    simp only [Along, not_and_or, not_not, or_assoc]

/-- A straight segment counts as reached exactly if some tick since the call that set it has found
its target at the end of the track and the vehicle near enough. From then on it stays reached, until
a call sets another segment. -/
theorem straight_arrival_iff {c : Command α} (hset : c.sets = some .straight) (a₀ : Autopilot α)
    (r₀ : Readings α) (hok : (c.run r₀ a₀).fault = none) (es es' : List (Event α))
    (hes : (c.run r₀ a₀).state.Along (fun a e ↦ a.Keeps e) (es ++ es')) :
    let a := (c.run r₀ a₀).state
    ((a.after es).navigator.flags.reached = true ↔
      ∃ es₁ r es₂, es = es₁ ++ .call .tickStraight r :: es₂ ∧ (a.after es₁).ArrivesAt r) ∧
    ((a.after es).navigator.flags.reached = true →
      (a.after (es ++ es')).navigator.flags.reached = true) := by
  intro a
  obtain ⟨o, d, t, x, -, hrun⟩ := (c.run_straight r₀ a₀ hset).resolve_left fun h ↦ h.1 hok
  have ha : a = a₀.beginStraight r₀ o d t x := congrArg Outcome.state hrun
  have hk : a.navigator.segment.kind = .straight := by rw [ha]; rfl
  have hfresh : a.navigator.flags.reached ≠ true := by rw [ha]; exact Bool.false_ne_true
  have hall := reached_after_iff hk hes
  have hfirst := reached_after_iff hk (along_append.mp hes).1
  refine ⟨?_, fun h ↦ hall.mpr (.inr fun hnot ↦ ?_)⟩
  · rw [hfirst, or_iff_right hfresh, not_along_not_iff]
    constructor
    · rintro ⟨es₁, e, es₂, rfl, h⟩
      cases e with
      | call c r =>
        cases c with
        | tickStraight => exact ⟨es₁, r, es₂, rfl, h⟩
        | _ => cases h
      | _ => cases h
    · rintro ⟨es₁, r, es₂, rfl, h⟩
      exact ⟨es₁, _, es₂, rfl, h⟩
  · exact (hfirst.mp h).elim hfresh fun hsome ↦ hsome (along_append.mp hnot).1

noncomputable def onTheSpot : Autopilot ℝ :=
  ((Command.straight .zero .zero false).run Simulation.standard.readings
    Simulation.standard.autopilot).state

theorem onTheSpot_arrivesAt : onTheSpot.ArrivesAt Simulation.standard.readings := by
  have hx : onTheSpot.offsetFor Simulation.standard.readings
      onTheSpot.navigator.segment.aboveTerrain = .ok 0.0 := rfl
  have hzero : (Vec3.zero : Vec3 ℝ).norm = 0 := by simp [Vec3.norm_real, Vec3.dot_real]
  have hlength : onTheSpot.navigator.segment.length = 0 := by
    show (.zero - .zero : Vec3 ℝ).norm = 0
    rw [Vec3.sub_zero, hzero]
  refine ⟨congrArg Outcome.fault (tickStraight_ok _ hx), 0.0, hx, ?_, .inr ?_⟩
  · rw [tickStraight_segment, tickStraight_track_ok _ hx, hlength,
      Navigator.movedTrack_desired _ _ _ hlength.ge]
    exact le_max_left _ _
  · have hradius : onTheSpot.navigator.params.radius = 200 := by
      show ((Params.standard : Params ℝ).within 3000.0).radius = 200
      rw [Params.within_standard]
      norm_num [Params.standard]
    have hplace : (Simulation.standard : Simulation ℝ).readings.position - Vec3.vertical 0.0 -
        onTheSpot.navigator.segment.destination = .zero := by
      show (.zero - Vec3.vertical 0.0 - .zero : Vec3 ℝ) = .zero
      ext <;> simp
    rw [hplace, hzero, hradius]
    norm_num

theorem straight_arrival_iff_onTheSpot :
    let r := (Simulation.standard : Simulation ℝ).readings
    let c : Command ℝ := .straight .zero .zero false
    let o := c.run r Simulation.standard.autopilot
    let es : List (Event ℝ) :=
      [.call (.setFast true) r, .call (.setFast false) r, .call .tickStraight r]
    let es' : List (Event ℝ) := [.moved ⟨0, 1000, 0⟩ .zero, .call .shift r, .call .tickStraight r]
    c.sets = some .straight ∧ o.fault = none ∧ o.state.Along (fun a e ↦ a.Keeps e) (es ++ es') ∧
      (o.state.after es).navigator.flags.reached = true ∧
      (o.state.after (es ++ es')).navigator.flags.reached = true := by
  intro r c o es es'
  have hkeeps {c : Command ℝ} (hc : c.sets = none) (a : Autopilot ℝ) : a.Keeps (.call c r) :=
    fun h ↦ absurd hc h
  have hes : o.state.Along (fun a e ↦ a.Keeps e) (es ++ es') :=
    ⟨hkeeps rfl _, hkeeps rfl _, hkeeps rfl _, trivial, hkeeps rfl _, hkeeps rfl _, trivial⟩
  obtain ⟨hiff, hstays⟩ := straight_arrival_iff (c := c) rfl _ r rfl es es' hes
  have hreached := hiff.mpr
    ⟨[.call (.setFast true) r, .call (.setFast false) r], r, [], rfl, onTheSpot_arrivesAt⟩
  exact ⟨rfl, rfl, hes, hreached, hstays hreached⟩

end Autopilot

end WaypointFlight
