import WaypointFlight.Proofs.SplineArrival

namespace WaypointFlight

open Scalar

namespace Vec3

variable (u v w : Vec3 ℝ)

theorem add_zero : u + .zero = u := by ext <;> simp

theorem add_assoc : u + v + w = u + (v + w) := by
  ext <;> simp only [add_north, add_east, add_up] <;> ring

end Vec3

namespace HermiteCurve

variable (b : Boundary ℝ)

theorem position_solve_zero : (solve b).position 0 = b.origin := by
  ext <;> simp [position, solve]

theorem position_solve_one : (solve b).position 1 = b.destination := by
  ext <;> norm_num [position, solve] <;> ring

end HermiteCurve

namespace Boundary

variable (b : Boundary ℝ)

theorem scaled_origin : b.scaled.origin = b.origin := by
  unfold scaled
  split_ifs <;> rfl

theorem scaled_destination : b.scaled.destination = b.destination := by
  unfold scaled
  split_ifs <;> rfl

end Boundary

section Shifts

variable {α : Type} [Analytic α]

/-- How far a shift moves the segment. -/
def Autopilot.shiftBy (a : Autopilot α) (r : Readings α) : Vec3 α :=
  if 0.0 < a.navigator.track.desired then .zero else r.position - a.controller.positionTarget

/-- How far the segment has been shifted since it was set, one event later. -/
def Event.shifted (a : Autopilot α) (d : Vec3 α) : Event α → Vec3 α
  | .call .shift r => d + a.shiftBy r
  | .call c r => if c.sets.isSome && (c.run r a).fault.isNone then .zero else d
  | _ => d

/-- How far the segment has been shifted since it was set, over a run. -/
def Autopilot.shifted : Autopilot α → Vec3 α → List (Event α) → Vec3 α
  | _, d, [] => d
  | a, d, e :: es => (e.apply a).shifted (e.shifted a d) es

theorem Event.shifted_call {c : Command α} {r : Readings α} {a : Autopilot α} {d : Vec3 α}
    (hs : c ≠ .shift) :
    (Event.call c r).shifted a d =
      if c.sets.isSome && (c.run r a).fault.isNone then .zero else d := by
  cases c with
  | shift => exact absurd rfl hs
  | _ => rfl

end Shifts

namespace Autopilot

/-- The curve lies behind the segment by a displacement, if the segment is a spline. -/
def Trails (d : Vec3 ℝ) (a : Autopilot ℝ) : Prop :=
  a.navigator.segment.kind = .spline →
    a.navigator.spline.curve.position 0 + d = a.navigator.segment.origin ∧
      a.navigator.spline.curve.position 1 + d = a.navigator.segment.destination

variable {a : Autopilot ℝ} {d : Vec3 ℝ} {r : Readings ℝ}

theorem trails_of_eq {b : Autopilot ℝ} (h : Trails d a)
    (hkind : b.navigator.segment.kind = a.navigator.segment.kind)
    (horigin : b.navigator.segment.origin = a.navigator.segment.origin)
    (hdestination : b.navigator.segment.destination = a.navigator.segment.destination)
    (hcurve : b.navigator.spline.curve = a.navigator.spline.curve) : Trails d b := by
  intro hk
  rw [horigin, hdestination, hcurve]
  exact h (hkind.symm.trans hk)

theorem trails_beginSpline (a : Autopilot ℝ) (now : Nat) (q : SplineRequest ℝ) (x : ℝ) :
    Trails .zero (a.beginSpline now q x) := by
  intro _
  have hcurve : (a.beginSpline now q x).navigator.spline.curve =
      .solve (a.beginSpline now q x).boundary.scaled := rfl
  rw [hcurve, HermiteCurve.position_solve_zero, HermiteCurve.position_solve_one,
    Boundary.scaled_origin, Boundary.scaled_destination]
  refine ⟨?_, ?_⟩
  · ext <;> simp [boundary]
  · ext <;> simp [boundary]

theorem trails_shift (h : Trails d a) (r : Readings ℝ) :
    Trails (d + a.shiftBy r) (a.shiftToVehicle r) := by
  unfold shiftBy shiftToVehicle
  split_ifs
  · rw [Vec3.add_zero]
    exact h
  · intro hk
    obtain ⟨hfirst, hlast⟩ := h hk
    simp only [← Vec3.add_assoc]
    rw [hfirst, hlast]
    exact ⟨rfl, rfl⟩

theorem trails_set {c : Command ℝ} {kind : SegmentKind} (h : Trails d a)
    (hc : c.sets = some kind) :
    Trails (if (c.run r a).fault.isNone then .zero else d) (c.run r a).state := by
  have hrefused (hr : (c.run r a).Refused a) :
      Trails (if (c.run r a).fault.isNone then .zero else d) (c.run r a).state := by
    rw [hr.2, if_neg (by simpa using hr.1)]
    exact h
  cases kind with
  | straight =>
    rcases c.run_straight r a hc with hr | ⟨origin, destination, t, x, -, hset⟩
    · exact hrefused hr
    · rw [hset]
      intro hk
      cases hk
  | spline =>
    rcases c.run_spline r a hc with hr | ⟨q, x, -, hset⟩
    · exact hrefused hr
    · rw [hset]
      exact trails_beginSpline a r.now q x

theorem trails_apply (h : Trails d a) (e : Event ℝ) : Trails (e.shifted a d) (e.apply a) := by
  cases e with
  | moved position velocity => exact trails_of_eq h rfl rfl rfl rfl
  | replaced c => exact trails_of_eq h rfl rfl rfl rfl
  | call c r =>
    -- a segment begins on its curve, and of all other calls only a shift moves it away
    by_cases hs : c = .shift
    · subst hs
      exact trails_shift h r
    · rw [Event.shifted_call hs]
      cases hc : c.sets with
      | some kind => exact trails_set h hc
      | none =>
        obtain ⟨_, hsegment, hcurve⟩ := c.run_path r a hc hs
        refine trails_of_eq h ?_ ?_ ?_ hcurve <;> rw [Event.apply, hsegment]

theorem trails_after {es : List (Event ℝ)} (h : Trails d a) :
    Trails (a.shifted d es) (a.after es) := by
  induction es generalizing a d with
  | nil => exact h
  | cons e es ih => exact ih (trails_apply h e)

/-- In every state that calls lead to, the curve of a spline runs between the ends of its segment
less the shifts since it was set. Its ends are those of the segment exactly if these shifts come to
nothing. -/
theorem curve_ends (p : Params ℝ) (lean : ℝ) (c : PositionController ℝ)
    (saved : List (String × ℝ)) (es : List (Event ℝ)) :
    let a : Autopilot ℝ := ⟨.create p lean, c, saved⟩
    let b := a.after es
    let d := a.shifted .zero es
    b.navigator.segment.kind = .spline →
      b.navigator.spline.curve.position 0 + d = b.navigator.segment.origin ∧
      b.navigator.spline.curve.position 1 + d = b.navigator.segment.destination ∧
      (b.navigator.spline.curve.position 0 = b.navigator.segment.origin ∧
          b.navigator.spline.curve.position 1 = b.navigator.segment.destination ↔ d = .zero) := by
  intro a b d hk
  have hstart : Trails .zero a := fun hk ↦ by cases hk
  obtain ⟨horigin, hdestination⟩ : b.navigator.spline.curve.position 0 + d =
      b.navigator.segment.origin ∧ b.navigator.spline.curve.position 1 + d =
      b.navigator.segment.destination := trails_after hstart hk
  refine ⟨horigin, hdestination, fun ⟨hfirst, _⟩ ↦ ?_, fun hd ↦ ?_⟩
  · rw [← hfirst, Vec3.ext_iff] at horigin
    ext <;> simp_all
  · rw [← horigin, ← hdestination, hd, Vec3.add_zero, Vec3.add_zero]
    exact ⟨rfl, rfl⟩

noncomputable def northHop : SplineRequest ℝ := ⟨.zero, ⟨1200, 0, 0⟩, false, false, .stop⟩

/-- The readings after the vehicle has been moved a metre north. -/
noncomputable def nudgedReadings : Readings ℝ :=
  { (Simulation.standard : Simulation ℝ).readings with position := ⟨100, 0, 0⟩ }

noncomputable def nudged : List (Event ℝ) :=
  [.call .start Simulation.standard.readings,
    .call (.spline northHop) Simulation.standard.readings, .moved ⟨100, 0, 0⟩ .zero,
    .call .shift nudgedReadings]

noncomputable def unshifted : Autopilot ℝ :=
  (Simulation.standard : Simulation ℝ).autopilot.after (nudged.take 3)

theorem unshifted_shiftBy : unshifted.shiftBy nudgedReadings = ⟨100, 0, 0⟩ := by
  have htrack : unshifted.navigator.track.desired = 0 := by
    show (Autopilot.repairAccel
      (Simulation.standard : Simulation ℝ).autopilot.start.state).navigator.track.desired = 0
    rw [start_standard, repairAccel_track]
    exact zero_literal
  have htarget : unshifted.controller.positionTarget = .zero + Vec3.vertical 0.0 := rfl
  have hposition : nudgedReadings.position = ⟨100, 0, 0⟩ := rfl
  rw [shiftBy, htrack, htarget, hposition, if_neg (by norm_num)]
  ext <;> simp

theorem nudged_shifted :
    (Simulation.standard : Simulation ℝ).autopilot.shifted .zero nudged = ⟨100, 0, 0⟩ := by
  show .zero + unshifted.shiftBy nudgedReadings = _
  rw [unshifted_shiftBy]
  ext <;> simp

theorem nudged_kind :
    ((Simulation.standard : Simulation ℝ).autopilot.after nudged).navigator.segment.kind =
      .spline := by
  show (unshifted.shiftToVehicle nudgedReadings).navigator.segment.kind = .spline
  unfold shiftToVehicle
  split_ifs <;> rfl

theorem curve_ends_nudged :
    let a : Autopilot ℝ := Simulation.standard.autopilot
    let b := a.after nudged
    let d := a.shifted .zero nudged
    b.navigator.segment.kind = .spline ∧ d = ⟨100, 0, 0⟩ ∧
      b.navigator.spline.curve.position 0 + d = b.navigator.segment.origin ∧
      b.navigator.spline.curve.position 1 + d = b.navigator.segment.destination := by
  intro a b d
  obtain ⟨horigin, hdestination, -⟩ := curve_ends _ _ _ _ nudged nudged_kind
  exact ⟨nudged_kind, nudged_shifted, horigin, hdestination⟩

/-- The shift has taken the segment to the vehicle, and its curve begins and ends where it was. -/
theorem curve_left_behind :
    let b := (Simulation.standard : Simulation ℝ).autopilot.after nudged
    b.navigator.segment.kind = .spline ∧
      b.navigator.spline.curve.position 0 ≠ b.navigator.segment.origin ∧
      b.navigator.spline.curve.position 1 ≠ b.navigator.segment.destination := by
  intro b
  have hstart : Trails .zero (Simulation.standard : Simulation ℝ).autopilot :=
    fun hk ↦ by cases hk
  have htrails : Trails ((Simulation.standard : Simulation ℝ).autopilot.shifted .zero nudged) b :=
    trails_after hstart
  rw [nudged_shifted] at htrails
  obtain ⟨horigin, hdestination⟩ := htrails nudged_kind
  have hmoved (u v : Vec3 ℝ) (h : u + ⟨100, 0, 0⟩ = v) : u ≠ v := by
    intro huv
    have hnorth : u.north + 100 = v.north := congrArg Vec3.north h
    rw [huv] at hnorth
    linarith
  exact ⟨nudged_kind, hmoved _ _ horigin, hmoved _ _ hdestination⟩

end Autopilot

end WaypointFlight
