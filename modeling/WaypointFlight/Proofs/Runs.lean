import Mathlib.Data.List.Basic
import WaypointFlight.Autopilot.Command

namespace WaypointFlight

variable {α : Type}

/-- What happens to an autopilot. A call comes with the readings of its moment. Between calls the
vehicle moves, and the controller sees it. A controller may also be changed from outside. -/
inductive Event (α : Type) where
  | call (c : Command α) (r : Readings α)
  | moved (position velocity : Vec3 α)
  | replaced (c : PositionController α)

def Command.sets : Command α → Option SegmentKind
  | .straightTo .. | .straightToLocation .. | .straightToNED .. | .straight .. => some .straight
  | .splineTo .. | .splineToLocation .. | .spline .. => some .spline
  | _ => none

/-- Whether a call that sets a spline wants it to begin from rest. -/
def Command.stoppedAtStart : Command α → Option Bool
  | .splineTo _ _ stopped _ | .splineToLocation _ stopped _ => some stopped
  | .spline q => some q.stoppedAtStart
  | _ => none

theorem Command.sets_of_stoppedAtStart {c : Command α} {stopped : Bool}
    (h : c.stoppedAtStart = some stopped) : c.sets = some .spline := by
  cases c with
  | splineTo | splineToLocation | spline => rfl
  | _ => cases h

def Outcome.Refused (o : Outcome α) (a : Autopilot α) : Prop := o.fault ≠ none ∧ o.state = a

theorem Outcome.badLocation_refused (a : Autopilot α) (f : Fault LocationError) :
    (badLocation a f).Refused a :=
  ⟨by simp [badLocation], rfl⟩

variable [Analytic α]

namespace Event

def apply : Event α → Autopilot α → Autopilot α
  | .call c r, a => (c.run r a).state
  | .moved position velocity, a =>
    { a with
      controller.vehiclePosition := position
      controller.vehicleVelocity := velocity }
  | .replaced c, a => { a with controller := c }

/-- The events of a simulated flight after its start: nothing but calls and motion touches the
controller. -/
def InFlight : Event α → Prop
  | .replaced _ | .call .start _ => False
  | _ => True

end Event

namespace Autopilot

def after (a : Autopilot α) (es : List (Event α)) : Autopilot α :=
  es.foldl (fun a e ↦ e.apply a) a

/-- Each event of the run has a property at the state that it meets. -/
def Along (P : Autopilot α → Event α → Prop) : Autopilot α → List (Event α) → Prop
  | _, [] => True
  | a, e :: es => P a e ∧ Along P (e.apply a) es

variable {a : Autopilot α} {e : Event α} {es es' : List (Event α)}

@[simp]
theorem after_nil : a.after [] = a := rfl

@[simp]
theorem after_cons : a.after (e :: es) = (e.apply a).after es := rfl

theorem after_append : a.after (es ++ es') = (a.after es).after es' := List.foldl_append

variable {P Q : Autopilot α → Event α → Prop}

theorem along_append : a.Along P (es ++ es') ↔ a.Along P es ∧ (a.after es).Along P es' := by
  induction es generalizing a with
  | nil => simp [Along]
  | cons e es ih => simp [Along, ih, and_assoc]

theorem along_of_forall {Q : Event α → Prop} (h : ∀ e ∈ es, Q e) :
    a.Along (fun _ e ↦ Q e) es := by
  induction es generalizing a with
  | nil => trivial
  | cons e es ih =>
    exact ⟨h e List.mem_cons_self, ih fun e' he' ↦ h e' (List.mem_cons_of_mem _ he')⟩

theorem Along.mono (h : a.Along P es) (hPQ : ∀ a e, P a e → Q a e) : a.Along Q es := by
  induction es generalizing a with
  | nil => trivial
  | cons e es ih => exact ⟨hPQ _ _ h.1, ih h.2⟩

theorem Along.and (h : a.Along P es) (h' : a.Along Q es) :
    a.Along (fun a e ↦ P a e ∧ Q a e) es := by
  induction es generalizing a with
  | nil => trivial
  | cons e es ih => exact ⟨⟨h.1, h'.1⟩, ih h.2 h'.2⟩

theorem not_along_not_iff :
    ¬ a.Along (fun a e ↦ ¬ P a e) es ↔
      ∃ es₁ e es₂, es = es₁ ++ e :: es₂ ∧ P (a.after es₁) e := by
  induction es generalizing a with
  | nil => simp [Along]
  | cons e es ih =>
    rw [Along, not_and_or, not_not, ih]
    constructor
    · rintro (h | ⟨es₁, e', es₂, rfl, h⟩)
      · exact ⟨[], e, es, rfl, h⟩
      · exact ⟨e :: es₁, e', es₂, rfl, h⟩
    · rintro ⟨es₁, e', es₂, hes, h⟩
      rcases List.cons_eq_append_iff.mp hes with ⟨rfl, hcons⟩ | ⟨es₁', rfl, rfl⟩
      · obtain ⟨rfl, -⟩ := List.cons.inj hcons
        exact .inl h
      · exact .inr ⟨es₁', e', es₂, rfl, h⟩

theorem Along.invariant {I : Autopilot α → Prop} (h : a.Along P es)
    (step : ∀ a e, P a e → I a → I (e.apply a)) (hI : I a) : I (a.after es) := by
  induction es generalizing a with
  | nil => exact hI
  | cons e es ih => exact ih h.2 (step a e h.1 hI)

/-- The states of a new autopilot after calls in any order, whatever happens around it. -/
inductive Reachable : Autopilot α → Prop where
  | created (p : Params α) (lean : α) (c : PositionController α) (saved : List (String × α)) :
      Reachable ⟨.create p lean, c, saved⟩
  | event {a : Autopilot α} (h : Reachable a) (e : Event α) : Reachable (e.apply a)

theorem Reachable.after (h : Reachable a) (es : List (Event α)) : Reachable (a.after es) := by
  induction es generalizing a with
  | nil => exact h
  | cons e es ih => exact ih (h.event e)

def Keeps (a : Autopilot α) : Event α → Prop
  | .call c r => c.sets ≠ none → (c.run r a).fault ≠ none
  | _ => True

variable (a : Autopilot α) (r : Readings α)

theorem setStraight_cases (origin destination : Vec3 α) (t : Bool) :
    (a.setStraight r origin destination t).Refused a ∨
      ∃ x, a.offsetFor r t = .ok x ∧
        a.setStraight r origin destination t =
          .done (a.beginStraight r origin destination t x) [] := by
  unfold setStraight
  cases h : a.offsetFor r t with
  | error f => exact .inl ⟨by simp [Outcome.noTerrain], rfl⟩
  | ok x => exact .inr ⟨x, rfl, rfl⟩

theorem setSpline_cases (q : SplineRequest α) :
    (a.setSpline r q).Refused a ∨
      ∃ x, a.offsetFor r q.aboveTerrain = .ok x ∧
        a.setSpline r q = .done (a.beginSpline r.now q x) a.repairWarnings := by
  unfold setSpline
  cases h : a.offsetFor r q.aboveTerrain with
  | error f => exact .inl ⟨by simp [Outcome.noTerrain], rfl⟩
  | ok x => exact .inr ⟨x, rfl, rfl⟩

theorem setStraightTo_cases (destination : Vec3 α) (t : Bool) :
    (a.setStraightTo r destination t).Refused a ∨
      ∃ origin, a.originFor r t = .ok origin ∧
        a.setStraightTo r destination t = a.setStraight r origin destination t := by
  unfold setStraightTo
  cases h : a.originFor r t with
  | error f => exact .inl ⟨by simp [Outcome.noTerrain], rfl⟩
  | ok origin => exact .inr ⟨origin, rfl, rfl⟩

theorem setSplineTo_cases (destination : Vec3 α) (t stopped : Bool)
    (following : SegmentEnd (Vec3 α)) :
    (a.setSplineTo r destination t stopped following).Refused a ∨
      ∃ origin, a.originFor r t = .ok origin ∧
        a.setSplineTo r destination t stopped following =
          a.setSpline r ⟨origin, destination, t, stopped, following⟩ := by
  unfold setSplineTo
  cases h : a.originFor r t with
  | error f => exact .inl ⟨by simp [Outcome.noTerrain], rfl⟩
  | ok origin => exact .inr ⟨origin, rfl, rfl⟩

end Autopilot

namespace Command

variable {c : Command α} (r : Readings α) (a : Autopilot α)

theorem run_straight (hc : c.sets = some .straight) :
    (c.run r a).Refused a ∨ ∃ origin destination t x, a.offsetFor r t = .ok x ∧
      c.run r a = .done (a.beginStraight r origin destination t x) [] := by
  have hset (origin destination : Vec3 α) (t : Bool) := a.setStraight_cases r origin destination t
  have hto (destination : Vec3 α) (t : Bool) :
      (a.setStraightTo r destination t).Refused a ∨ ∃ origin x, a.offsetFor r t = .ok x ∧
        a.setStraightTo r destination t =
          .done (a.beginStraight r origin destination t x) [] := by
    rcases a.setStraightTo_cases r destination t with h | ⟨origin, -, h⟩
    · exact .inl h
    · rcases hset origin destination t with hr | ⟨x, hx, hd⟩
      · exact .inl (h ▸ hr)
      · exact .inr ⟨origin, x, hx, h.trans hd⟩
  cases c with
  | straightTo destination t =>
    exact (hto destination t).imp id fun ⟨o, x, h⟩ ↦ ⟨o, destination, t, x, h⟩
  | straightToNED destination => exact (hto _ _).imp id fun ⟨o, x, h⟩ ↦ ⟨o, _, _, x, h⟩
  | straight origin destination t =>
    exact (hset origin destination t).imp id fun ⟨x, h⟩ ↦ ⟨origin, destination, t, x, h⟩
  | straightToLocation destination =>
    simp only [run, Autopilot.setStraightToLocation]
    split
    · exact (hto _ _).imp id fun ⟨o, x, h⟩ ↦ ⟨o, _, _, x, h⟩
    · exact .inl (Outcome.badLocation_refused a _)
  | _ => cases hc

theorem run_splineRequest (hc : c.sets = some .spline) :
    (c.run r a).Refused a ∨ ∃ q x, c.stoppedAtStart = some q.stoppedAtStart ∧
      a.offsetFor r q.aboveTerrain = .ok x ∧
      c.run r a = .done (a.beginSpline r.now q x) a.repairWarnings := by
  have hset (q : SplineRequest α) := a.setSpline_cases r q
  have hto (destination : Vec3 α) (t stopped : Bool) (following : SegmentEnd (Vec3 α)) :
      (a.setSplineTo r destination t stopped following).Refused a ∨
        ∃ q x, some stopped = some q.stoppedAtStart ∧ a.offsetFor r q.aboveTerrain = .ok x ∧
          a.setSplineTo r destination t stopped following =
            .done (a.beginSpline r.now q x) a.repairWarnings := by
    rcases a.setSplineTo_cases r destination t stopped following with h | ⟨origin, -, h⟩
    · exact .inl h
    · rcases hset ⟨origin, destination, t, stopped, following⟩ with hr | ⟨x, hx, hd⟩
      · exact .inl (h ▸ hr)
      · exact .inr ⟨_, x, rfl, hx, h.trans hd⟩
  cases c with
  | splineTo destination t stopped following => exact hto destination t stopped following
  | spline q => exact (hset q).imp id fun ⟨x, h⟩ ↦ ⟨q, x, rfl, h⟩
  | splineToLocation destination stopped following =>
    simp only [run, Autopilot.setSplineToLocation]
    split
    · exact .inl (Outcome.badLocation_refused a _)
    · split
      · exact .inl (Outcome.badLocation_refused a _)
      · exact hto _ _ _ _
  | _ => cases hc

theorem run_spline (hc : c.sets = some .spline) :
    (c.run r a).Refused a ∨ ∃ q x, a.offsetFor r q.aboveTerrain = .ok x ∧
      c.run r a = .done (a.beginSpline r.now q x) a.repairWarnings :=
  (c.run_splineRequest r a hc).imp id fun ⟨q, x, _, h⟩ ↦ ⟨q, x, h⟩

end Command

theorem Autopilot.begins_of_not_keeps {a : Autopilot α} {e : Event α} (h : ¬ a.Keeps e) :
    (∃ r origin destination t x, e.apply a = a.beginStraight r origin destination t x) ∨
      ∃ now q x, e.apply a = a.beginSpline now q x := by
  cases e with
  | replaced c => exact absurd trivial h
  | moved p v => exact absurd trivial h
  | call c r =>
    simp only [Keeps, not_forall, ne_eq, not_not] at h
    obtain ⟨hc, hf⟩ := h
    obtain ⟨kind, hkind⟩ := Option.ne_none_iff_exists'.mp hc
    cases kind with
    | straight =>
      obtain ⟨_, _, _, _, -, hrun⟩ := (c.run_straight r a hkind).resolve_left fun h ↦ h.1 hf
      exact .inl ⟨r, _, _, _, _, congrArg Outcome.state hrun⟩
    | spline =>
      obtain ⟨_, _, -, hrun⟩ := (c.run_spline r a hkind).resolve_left fun h ↦ h.1 hf
      exact .inr ⟨r.now, _, _, congrArg Outcome.state hrun⟩

/-- What an event does. A call that sets a segment begins it, or is refused. -/
inductive Event.Effect (a : Autopilot α) : Event α → Autopilot α → Prop where
  | refused {c : Command α} (r : Readings α) (hc : c.sets ≠ none) : Effect a (.call c r) a
  | straight {c : Command α} (r : Readings α) (hc : c.sets = some .straight)
      (hf : (c.run r a).fault = none) (origin destination : Vec3 α) (t : Bool) (x : α)
      (hx : a.offsetFor r t = .ok x) :
      Effect a (.call c r) (a.beginStraight r origin destination t x)
  | spline {c : Command α} (r : Readings α) (hc : c.sets = some .spline)
      (hf : (c.run r a).fault = none) (q : SplineRequest α) (x : α)
      (hx : a.offsetFor r q.aboveTerrain = .ok x) :
      Effect a (.call c r) (a.beginSpline r.now q x)
  | start (r : Readings α) : Effect a (.call .start r) a.start.state
  | shift (r : Readings α) : Effect a (.call .shift r) (a.shiftToVehicle r)
  | tickStraight (r : Readings α) : Effect a (.call .tickStraight r) (a.tickStraight r).state
  | tickSpline (r : Readings α) : Effect a (.call .tickSpline r) (a.tickSpline r).state
  | tooSlow {v : α} (r : Readings α) (h : ¬ Autopilot.slowestRequest ≤ v) :
      Effect a (.call (.requestSpeed v) r) a
  | requestSpeed {v : α} (r : Readings α) (h : Autopilot.slowestRequest ≤ v) :
      Effect a (.call (.requestSpeed v) r) { a with navigator.requestedSpeed := v }
  | setSpeedUp (v : α) (r : Readings α) : Effect a (.call (.setSpeedUp v) r) (a.setSpeedUp v)
  | setSpeedDown (v : α) (r : Readings α) :
      Effect a (.call (.setSpeedDown v) r) (a.setSpeedDown v)
  | setFast (fast : Bool) (r : Readings α) : Effect a (.call (.setFast fast) r) (a.setFast fast)
  | moved (position velocity : Vec3 α) :
      Effect a (.moved position velocity)
        { a with
          controller.vehiclePosition := position
          controller.vehicleVelocity := velocity }
  | replaced (c : PositionController α) : Effect a (.replaced c) { a with controller := c }

theorem Event.effect (e : Event α) (a : Autopilot α) : Effect a e (e.apply a) := by
  cases e with
  | moved p v => exact .moved p v
  | replaced c => exact .replaced c
  | call c r =>
    cases hc : c.sets with
    | some kind =>
      have hset : c.sets ≠ none := by simp [hc]
      cases kind with
      | straight =>
        rcases c.run_straight r a hc with h | ⟨o, d, t, x, hx, h⟩
        · rw [apply, h.2]
          exact .refused r hset
        · rw [apply, h]
          exact .straight r hc (congrArg Outcome.fault h) o d t x hx
      | spline =>
        rcases c.run_spline r a hc with h | ⟨q, x, hx, h⟩
        · rw [apply, h.2]
          exact .refused r hset
        · rw [apply, h]
          exact .spline r hc (congrArg Outcome.fault h) q x hx
    | none =>
      cases c with
      | start => exact .start r
      | shift => exact .shift r
      | tickStraight => exact .tickStraight r
      | tickSpline => exact .tickSpline r
      | requestSpeed v =>
        simp only [apply, Command.run, Outcome.done, Autopilot.requestSpeed]
        split_ifs with h
        · exact .requestSpeed r h
        · exact .tooSlow r h
      | setSpeedUp v => exact .setSpeedUp v r
      | setSpeedDown v => exact .setSpeedDown v r
      | setFast fast => exact .setFast fast r
      | _ => cases hc

end WaypointFlight
