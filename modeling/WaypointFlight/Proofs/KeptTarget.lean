import WaypointFlight.Proofs.LeashLaw

namespace WaypointFlight

open Scalar

/-- A call that gives a destination alone. -/
def Command.ChoosesOrigin {α : Type} : Command α → Prop
  | .straightTo .. | .straightToLocation _ | .straightToNED _ => True
  | .splineTo .. | .splineToLocation .. => True
  | _ => False

section Origins

variable {α : Type} [Analytic α]

/-- The segment after a call starts at the default origin, in its own frame of altitude, and the
target is put there. Nothing else of the controller changes. -/
structure Autopilot.BeginsAtDefault (a : Autopilot α) (r : Readings α) (b : Autopilot α)
    (x : α) : Prop where
  offset : a.offsetFor r b.navigator.segment.aboveTerrain = .ok x
  origin : a.originFor r b.navigator.segment.aboveTerrain = .ok b.navigator.segment.origin
  controller : b.controller =
    { a.controller with positionTarget := b.navigator.segment.origin + Vec3.vertical x }

namespace Autopilot

variable (a : Autopilot α) (r : Readings α)

theorem beginSpline_controller (now : Nat) (q : SplineRequest α) (x : α) :
    (a.beginSpline now q x).controller =
      { a.controller with positionTarget := q.origin + Vec3.vertical x } := by
  rw [← a.repairAccel_controller]
  rfl

theorem setStraightTo_begins (destination : Vec3 α) (t : Bool) :
    (a.setStraightTo r destination t).Refused a ∨
      ∃ x, a.BeginsAtDefault r (a.setStraightTo r destination t).state x := by
  obtain hrefused | ⟨origin, ho, hto⟩ := a.setStraightTo_cases r destination t
  · exact .inl hrefused
  · rw [hto]
    obtain hrefused | ⟨x, hx, hset⟩ := a.setStraight_cases r origin destination t
    · exact .inl hrefused
    · rw [hset]
      exact .inr ⟨x, hx, ho, rfl⟩

theorem setSplineTo_begins (destination : Vec3 α) (t stopped : Bool)
    (following : SegmentEnd (Vec3 α)) :
    (a.setSplineTo r destination t stopped following).Refused a ∨
      ∃ x, a.BeginsAtDefault r (a.setSplineTo r destination t stopped following).state x := by
  obtain hrefused | ⟨origin, ho, hto⟩ := a.setSplineTo_cases r destination t stopped following
  · exact .inl hrefused
  · rw [hto]
    obtain hrefused | ⟨x, hx, hset⟩ :=
      a.setSpline_cases r ⟨origin, destination, t, stopped, following⟩
    · exact .inl hrefused
    · rw [hset]
      exact .inr ⟨x, hx, ho, a.beginSpline_controller _ _ x⟩

end Autopilot

theorem Command.run_choosesOrigin {c : Command α} (hc : c.ChoosesOrigin) (r : Readings α)
    (a : Autopilot α) :
    (c.run r a).Refused a ∨ ∃ x, a.BeginsAtDefault r (c.run r a).state x := by
  cases c with
  | straightTo destination t => exact a.setStraightTo_begins r destination t
  | straightToNED destination => exact a.setStraightTo_begins r _ false
  | straightToLocation destination =>
    simp only [run, Autopilot.setStraightToLocation]
    split
    · exact a.setStraightTo_begins r _ _
    · exact .inl (Outcome.badLocation_refused a _)
  | splineTo destination t stopped following =>
    exact a.setSplineTo_begins r destination t stopped following
  | splineToLocation destination stopped following =>
    simp only [run, Autopilot.setSplineToLocation]
    split
    · exact .inl (Outcome.badLocation_refused a _)
    · split
      · exact .inl (Outcome.badLocation_refused a _)
      · exact a.setSplineTo_begins r _ _ _ _
  | _ => cases hc

end Origins

namespace Autopilot

variable {a b : Autopilot ℝ} {r : Readings ℝ} {x : ℝ}

/-- What the origin loses to the terrain offset comes back with the target. -/
theorem BeginsAtDefault.target (h : a.BeginsAtDefault r b x) :
    b.navigator.segment.origin + Vec3.vertical x = a.defaultOrigin r.now := by
  obtain ⟨hx, ho, -⟩ := h
  cases ht : b.navigator.segment.aboveTerrain with
  | false =>
    rw [ht] at hx ho
    obtain rfl : 0.0 = x := Except.ok.inj hx
    rw [← Except.ok.inj ho]
    ext <;> simp
  | true =>
    rw [ht] at hx ho
    have horigin : (⟨(a.defaultOrigin r.now).north, (a.defaultOrigin r.now).east,
        (a.defaultOrigin r.now).up - x⟩ : Vec3 ℝ) = b.navigator.segment.origin := by
      simp only [originFor, hx] at ho
      exact Except.ok.inj ho
    rw [← horigin]
    ext <;> simp

/-- A call that gives a destination alone leaves the controller of an active autopilot as it is,
and otherwise moves the target to where the vehicle would stop. The new segment starts there. -/
theorem target_kept {c : Command ℝ} (hc : c.ChoosesOrigin) (a : Autopilot ℝ) (r : Readings ℝ)
    (hok : (c.run r a).fault = none) :
    let b := (c.run r a).state
    (∀ last, a.navigator.lastTick = some last → r.now - last < 1000 →
      b.controller = a.controller) ∧
    ((∀ last, a.navigator.lastTick = some last → 1000 ≤ r.now - last) →
      b.controller = { a.controller with positionTarget := a.controller.stoppingPoint }) ∧
    ∃ x, a.offsetFor r b.navigator.segment.aboveTerrain = .ok x ∧
      b.controller.positionTarget = b.navigator.segment.origin + Vec3.vertical x := by
  intro b
  obtain ⟨x, hbegins⟩ := (c.run_choosesOrigin hc r a).resolve_left fun h ↦ h.1 hok
  have hcontroller : b.controller =
      { a.controller with positionTarget := a.defaultOrigin r.now } := by
    rw [← hbegins.target]
    exact hbegins.controller
  refine ⟨fun last hlast hnow ↦ ?_, fun hold ↦ ?_, x, hbegins.offset, ?_⟩
  · have hactive : a.navigator.isActive r.now = true := by
      rw [Navigator.isActive, hlast]
      exact decide_eq_true hnow
    rw [hcontroller, defaultOrigin, if_pos hactive]
  · have hidle : ¬ a.navigator.isActive r.now = true := by
      intro hactive
      obtain ⟨last, hlast, hnow⟩ := (Option.any_eq_true _ _).mp hactive
      exact absurd (of_decide_eq_true hnow) (not_lt.mpr (hold last hlast))
    rw [hcontroller, defaultOrigin, if_neg hidle]
  · rw [hbegins.controller]

noncomputable def groundReadings : Readings ℝ :=
  { (Simulation.standard : Simulation ℝ).readings with
    now := 1010
    database := ⟨some 2.0, .unknown⟩ }

/-- From a straight segment above the world origin to a spline above the ground. -/
theorem target_kept_northward :
    let c : Command ℝ := .splineTo ⟨1000, 0, 300⟩ true false .stop
    let a := ((northward 5000).tickStraight Simulation.standard.readings).state
    let b := (c.run groundReadings a).state
    c.ChoosesOrigin ∧ (c.run groundReadings a).fault = none ∧
      a.navigator.lastTick = some 1000 ∧ groundReadings.now - 1000 < 1000 ∧
      b.controller = a.controller ∧
      ∃ x, a.offsetFor groundReadings b.navigator.segment.aboveTerrain = .ok x ∧
        b.controller.positionTarget = b.navigator.segment.origin + Vec3.vertical x := by
  intro c a b
  have hlast : a.navigator.lastTick = some 1000 := by
    obtain ⟨_, _, _, _, _, _, _, hn⟩ :=
      (northward 5000).tickStraight_navigator Simulation.standard.readings
    rw [hn]
    rfl
  have hoffset : a.offsetFor groundReadings true = .ok (groundReadings.altitude - 2.0 * 100.0) := by
    have hrange : groundReadings.rangeFinder = none := rfl
    simp only [offsetFor, hrange, ite_self]
    rfl
  have hok : (c.run groundReadings a).fault = none := by
    simp only [c, Command.run, setSplineTo, originFor, hoffset]
    simp only [setSpline, hoffset]
    rfl
  have hnow : groundReadings.now - 1000 < 1000 := by decide
  obtain ⟨hkept, -, htarget⟩ := target_kept (c := c) trivial a groundReadings hok
  exact ⟨trivial, hok, hlast, hnow, hkept 1000 hlast hnow, htarget⟩

end Autopilot

end WaypointFlight
