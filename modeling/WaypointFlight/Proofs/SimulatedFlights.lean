import WaypointFlight.Simulation.Basic

namespace WaypointFlight

variable {α : Type}

/-- What happens in a simulated flight. Beside calls and steps of the world, the ground and the
sensors that see it may change. -/
inductive Action (α : Type) where
  | call (c : Command α)
  | step
  | ground (g : Ground α)

@[ext]
structure Moment (α : Type) where
  now : Nat
  position : Vec3 α
  velocity : Vec3 α
  controller : PositionController α
  track : Track α
  splineTime : α
  splineSpeed : α
  flags : Flags
  heading : α

/-- The error that a call reports. An overflow is not reported, it ends the program. -/
def Outcome.report (o : Outcome α) : Except Overflow (Option NavigationError) :=
  match o.fault with
  | none => .ok none
  | some (.error e) => .ok (some e)
  | some (.overflow o) => .error o

variable [Analytic α]

namespace Simulation

def moment (s : Simulation α) : Moment α where
  now := s.now
  position := s.position
  velocity := s.velocity
  controller := s.autopilot.controller
  track := s.autopilot.navigator.track
  splineTime := s.autopilot.navigator.spline.time
  splineSpeed := s.autopilot.navigator.spline.speed
  flags := s.autopilot.navigator.flags
  heading := s.autopilot.navigator.headingOr s.attitude.heading

def act (s : Simulation α) :
    Action α → Except Overflow (Simulation α × Option NavigationError)
  | .call c =>
    let (t, o) := s.command c
    o.report.map (t, ·)
  | .step => s.step.map (·, none)
  | .ground g => .ok ({ s with ground := g }, none)

/-- What is reported and seen after each action. An overflow ends the flight. -/
def log : Simulation α → List (Action α) →
    List (Except Overflow (Option NavigationError × Moment α))
  | _, [] => []
  | s, a :: as =>
    match s.act a with
    | .ok (t, e) => .ok (e, t.moment) :: t.log as
    | .error o => [.error o]

def Along (P : Simulation α → Action α → Prop) : Simulation α → List (Action α) → Prop
  | _, [] => True
  | s, a :: as => P s a ∧ ∀ t e, s.act a = .ok (t, e) → t.Along P as

variable {P : Simulation α → Action α → Prop} {s t : Simulation α} {a : Action α}
  {as : List (Action α)} {e : Option NavigationError}

theorem step_ok (h : s.step = .ok t) : ∃ now, t = { s.move with now } := by
  unfold step wait at h
  split at h
  · exact ⟨_, (Except.ok.inj h).symm⟩
  · cases h

theorem act_step (h : s.act .step = .ok (t, e)) : ∃ now, t = { s.move with now } := by
  simp only [act] at h
  cases hstep : s.step with
  | error o => simp [hstep, Except.map] at h
  | ok u =>
    simp only [hstep, Except.map, Except.ok.injEq, Prod.mk.injEq] at h
    exact step_ok (hstep.trans (congrArg _ h.1))

theorem act_call {c : Command α} (h : s.act (.call c) = .ok (t, e)) : t = (s.command c).1 := by
  simp only [act] at h
  cases ho : (s.command c).2.report with
  | error o => simp [ho, Except.map] at h
  | ok e' =>
    simp only [ho, Except.map, Except.ok.injEq, Prod.mk.injEq] at h
    exact h.1.symm

theorem along_of_invariant {I : Simulation α → Prop} (hs : I s)
    (hP : ∀ s, I s → ∀ a ∈ as, P s a)
    (hact : ∀ s t a e, a ∈ as → I s → s.act a = .ok (t, e) → I t) : s.Along P as := by
  induction as generalizing s with
  | nil => trivial
  | cons a as ih =>
    refine ⟨hP s hs a List.mem_cons_self, fun t e ht ↦ ?_⟩
    refine ih (hact s t a e List.mem_cons_self hs ht) (fun s hs b hb ↦ ?_) fun s t b e hb ↦ ?_
    · exact hP s hs b (List.mem_cons_of_mem _ hb)
    · exact hact s t b e (List.mem_cons_of_mem _ hb)

end Simulation

end WaypointFlight
