import WaypointFlight.Proofs.PlacedCalls
import WaypointFlight.Proofs.RealLimits
import WaypointFlight.Proofs.SimulatedFlights

namespace WaypointFlight

open Scalar

namespace Action

variable {α : Type}

noncomputable def placed (m : Placement) : Action ℝ → Action ℝ
  | .call c => .call (c.placed m)
  | a => a

def ByVectors : Action α → Prop
  | .call c => c.ByVectors
  | _ => True

def SetsDestination : Action α → Prop
  | .call c => c.sets ≠ none
  | _ => False

def IsTick : Action α → Prop
  | .call c => c.IsTick
  | _ => False

theorem not_isTick_of_setsDestination {a : Action α} (h : a.SetsDestination) : ¬ a.IsTick := by
  cases a with
  | call c =>
    cases c with
    | tickStraight | tickSpline => exact absurd rfl h
    | _ => exact id
  | step | ground => exact id

def DestinationFirst : List (Action α) → Prop
  | [] => True
  | a :: as => a.SetsDestination ∨ ¬ a.IsTick ∧ DestinationFirst as

end Action

namespace Placement

/-- The second flight has what the first has, as seen from the other world origin. -/
structure Carries (m : Placement) (s t : Simulation ℝ) : Prop where
  now : t.now = s.now
  position : t.position = m.place s.position
  velocity : t.velocity = m.turn s.velocity
  controller : t.autopilot.controller = s.autopilot.controller.placed m
  params : t.autopilot.navigator.params = s.autopilot.navigator.params
  requestedSpeed : t.autopilot.navigator.requestedSpeed = s.autopilot.navigator.requestedSpeed
  track : t.autopilot.navigator.track = s.autopilot.navigator.track
  originVel : t.autopilot.navigator.spline.originVel =
    m.turn s.autopilot.navigator.spline.originVel
  destinationVel : t.autopilot.navigator.spline.destinationVel =
    m.turn s.autopilot.navigator.spline.destinationVel
  splineTime : t.autopilot.navigator.spline.time = s.autopilot.navigator.spline.time
  splineSpeed : t.autopilot.navigator.spline.speed = s.autopilot.navigator.spline.speed
  timeScale : t.autopilot.navigator.spline.timeScale = s.autopilot.navigator.spline.timeScale
  flags : t.autopilot.navigator.flags = s.autopilot.navigator.flags
  lastTick : t.autopilot.navigator.lastTick = s.autopilot.navigator.lastTick
  saved : t.autopilot.saved = s.autopilot.saved

/-- The second world is the first as seen from the other world origin, but for its ground. -/
structure Shows (m : Placement) (set : Prop) (s t : Simulation ℝ) : Prop where
  now : t.now = s.now
  position : t.position = m.place s.position
  velocity : t.velocity = m.turn s.velocity
  autopilot : m.Sees set s.autopilot t.autopilot

theorem Shows.carries {m : Placement} {set : Prop} {s t : Simulation ℝ} (h : m.Shows set s t) :
    m.Carries s t := by
  obtain ⟨segment, curve, heading, himage⟩ := h.autopilot.image
  constructor
  case now => exact h.now
  case position => exact h.position
  case velocity => exact h.velocity
  all_goals
    rw [himage]
    rfl

/-- Two flights end alike: in worlds that correspond, with the same reports, or in the same
overflow. -/
inductive EndsAlike {β : Type} (m : Placement) (set : Prop) :
    Except Overflow (Simulation ℝ × β) → Except Overflow (Simulation ℝ × β) → Prop where
  | ok {s t : Simulation ℝ} (h : m.Shows set s t) (report : β) :
      EndsAlike m set (.ok (s, report)) (.ok (t, report))
  | error (o : Overflow) : EndsAlike m set (.error o) (.error o)

theorem EndsAlike.eq_error {β : Type} {m : Placement} {set : Prop} {o : Overflow}
    {y : Except Overflow (Simulation ℝ × β)} (h : m.EndsAlike set (.error o) y) : y = .error o := by
  cases h
  rfl

theorem EndsAlike.exists_ok {β : Type} {m : Placement} {set : Prop} {s : Simulation ℝ} {report : β}
    {y : Except Overflow (Simulation ℝ × β)} (h : m.EndsAlike set (.ok (s, report)) y) :
    ∃ t, y = .ok (t, report) ∧ m.Shows set s t := by
  cases h with
  | ok h => exact ⟨_, rfl, h⟩

theorem EndsAlike.map {β γ : Type} {m : Placement} {set : Prop}
    {x y : Except Overflow (Simulation ℝ × β)} (h : m.EndsAlike set x y) (f : β → γ) :
    m.EndsAlike set (x.map fun (s, report) ↦ (s, f report))
      (y.map fun (s, report) ↦ (s, f report)) := by
  cases h with
  | ok h report => exact .ok h (f report)
  | error o => exact .error o

namespace Shows

variable {m : Placement} {set : Prop} {s t : Simulation ℝ}

theorem create (m : Placement) (w : SimParams ℝ) (p : Params ℝ) (x : Vec3 ℝ) :
    m.Shows False (Simulation.create w p x) (Simulation.create w p (m.place x)) where
  now := rfl
  position := rfl
  velocity := m.turn_zero.symm
  autopilot := .create m p w.leanLimit w.period w.gainXY w.gainZ x []

theorem move (h : m.Shows set s t) : m.Shows set s.move t.move := by
  have hposition : t.position + t.autopilot.controller.velocityTarget *
      t.autopilot.controller.period = m.place (s.position +
        s.autopilot.controller.velocityTarget * s.autopilot.controller.period) := by
    rw [h.position, h.carries.controller, ← m.place_add_turn, m.turn_mul]
    rfl
  have hvelocity : t.autopilot.controller.velocityTarget =
      m.turn s.autopilot.controller.velocityTarget := by
    rw [h.carries.controller]
    rfl
  refine ⟨h.now, hposition, hvelocity, ?_⟩
  have hmoved := h.autopilot.moved (s.position +
    s.autopilot.controller.velocityTarget * s.autopilot.controller.period)
    s.autopilot.controller.velocityTarget
  rwa [← hposition, ← hvelocity] at hmoved

theorem step (h : m.Shows set s t) : m.EndsAlike set (s.act .step) (t.act .step) := by
  have hperiod : t.autopilot.controller.period = s.autopilot.controller.period := by
    rw [h.carries.controller]
    rfl
  have hmove := h.move
  have hwaited (now : Nat) : m.Shows set { s.move with now } { t.move with now } :=
    ⟨rfl, hmove.position, hmove.velocity, hmove.autopilot⟩
  simp only [Simulation.act, Simulation.step, Simulation.wait, hperiod, hmove.now]
  split_ifs
  · exact .ok (hwaited _) none
  · exact .error _

theorem call (h : m.Shows set s t) {c : Command ℝ} (hc : c.ByVectors) (htick : c.IsTick → set) :
    m.EndsAlike (set ∨ c.sets ≠ none) (s.act (.call c)) (t.act (.call (c.placed m))) := by
  have hreads : m.Reads s.readings t.readings := ⟨h.now, h.position, h.velocity⟩
  obtain ⟨hfault, hsees⟩ : ((c.placed m).run t.readings t.autopilot).fault =
        (c.run s.readings s.autopilot).fault ∧
      m.Sees (set ∨ c.sets ≠ none) (c.run s.readings s.autopilot).state
        ((c.placed m).run t.readings t.autopilot).state := by
    by_cases hset : c.sets = none
    · simpa [hset] using h.autopilot.run_keeps hreads hset htick
    · simpa [hset] using h.autopilot.run_sets hreads hc hset
  simp only [Simulation.act, Simulation.command, Simulation.commandWith, Outcome.report, hfault]
  have hshows : m.Shows (set ∨ c.sets ≠ none)
      { s with autopilot := (c.run s.readings s.autopilot).state }
      { t with autopilot := ((c.placed m).run t.readings t.autopilot).state } :=
    ⟨h.now, h.position, h.velocity, hsees⟩
  rcases (c.run s.readings s.autopilot).fault with _ | e | o
  · exact .ok hshows none
  · exact .ok hshows (some e)
  · exact .error o

theorem act (h : m.Shows set s t) {a : Action ℝ} (ha : a.ByVectors) (htick : a.IsTick → set) :
    m.EndsAlike (set ∨ a.SetsDestination) (s.act a) (t.act (a.placed m)) := by
  cases a with
  | call c => exact h.call ha htick
  | step => exact (or_false set).symm ▸ h.step
  | ground g =>
    have hground : m.Shows set { s with ground := g } { t with ground := g } :=
      ⟨h.now, h.position, h.velocity, h.autopilot⟩
    exact (or_false set).symm ▸ .ok hground none

end Shows

end Placement

namespace Simulation

/-- The flight to its end, with what each action reported. An overflow is its end. -/
def fly {α : Type} [Analytic α] : Simulation α → List (Action α) →
    Except Overflow (Simulation α × List (Option NavigationError))
  | s, [] => .ok (s, [])
  | s, a :: as =>
    match s.act a with
    | .error o => .error o
    | .ok (t, e) => (t.fly as).map fun (u, es) ↦ (u, e :: es)

theorem fly_placed {m : Placement} {set : Prop} {s t : Simulation ℝ} {as : List (Action ℝ)}
    (h : m.Shows set s t) (has : ∀ a ∈ as, a.ByVectors)
    (hfirst : set ∨ Action.DestinationFirst as) :
    m.EndsAlike (set ∨ ∃ a ∈ as, a.SetsDestination) (s.fly as)
      (t.fly (as.map (·.placed m))) := by
  -- `set` is general, since it comes to hold with the first destination of the flight
  induction as generalizing set s t with
  | nil => simpa [fly] using Placement.EndsAlike.ok h []
  | cons a as ih =>
    have hset : (set ∨ ∃ b ∈ a :: as, b.SetsDestination) =
        ((set ∨ a.SetsDestination) ∨ ∃ b ∈ as, b.SetsDestination) := by
      simp [or_assoc]
    have htick : a.IsTick → set := by
      intro ht
      rcases hfirst with hset | hset | ⟨hidle, -⟩
      · exact hset
      · exact absurd ht (a.not_isTick_of_setsDestination hset)
      · exact absurd ht hidle
    have hrest : (set ∨ a.SetsDestination) ∨ Action.DestinationFirst as := by
      rcases hfirst with hset | hset | ⟨-, hfirst⟩
      · exact .inl (.inl hset)
      · exact .inl (.inr hset)
      · exact .inr hfirst
    have hact := h.act (has a List.mem_cons_self) htick
    rw [hset, List.map_cons, fly, fly]
    cases hs : s.act a with
    | error o =>
      rw [hs] at hact
      rw [hact.eq_error]
      exact .error o
    | ok p =>
      rw [hs] at hact
      obtain ⟨u, hu, hshows⟩ := hact.exists_ok
      rw [hu]
      exact (ih hshows (fun b hb ↦ has b (List.mem_cons_of_mem _ hb)) hrest).map (p.2 :: ·)

/-- Where the world origin and north are does not matter to a flight by vectors. Seen from elsewhere
it is the flight for the vectors as they are seen from there: points and velocities follow, and all
that is measured stays. -/
theorem flight_placed (m : Placement) (w : SimParams ℝ) (p : Params ℝ) (x : Vec3 ℝ)
    {as : List (Action ℝ)} (has : ∀ a ∈ as, a.ByVectors) (hfirst : Action.DestinationFirst as) :
    let flight := (create w p x).fly as
    let flight' := (create w p (m.place x)).fly (as.map (·.placed m))
    (∀ o, flight = .error o → flight' = .error o) ∧
      ∀ t es, flight = .ok (t, es) →
        ∃ t', flight' = .ok (t', es) ∧ m.Carries t t' ∧
          ((∃ a ∈ as, a.SetsDestination) →
            t'.autopilot.navigator.segment = t.autopilot.navigator.segment.placed m) := by
  intro flight flight'
  have hends : m.EndsAlike (False ∨ ∃ a ∈ as, a.SetsDestination) flight flight' :=
    fly_placed (.create m w p x) has (.inr hfirst)
  refine ⟨fun o ho ↦ (ho ▸ hends).eq_error, fun t es ht ↦ ?_⟩
  obtain ⟨t', ht', hshows⟩ := (ht ▸ hends).exists_ok
  exact ⟨t', ht', hshows.carries, fun hset ↦ hshows.autopilot.segment (.inr hset)⟩

theorem exists_report {c : Command ℝ} (hc : c.ByVectors) (r : Readings ℝ) (a : Autopilot ℝ) :
    ∃ e, (c.run r a).report = .ok e := by
  cases c with
  | straightTo _ t | straight _ _ t | splineTo _ t =>
    obtain rfl : t = false := hc
    exact ⟨none, rfl⟩
  | spline q =>
    rw [Command.run, Autopilot.setSpline, Autopilot.offsetFor_level hc]
    exact ⟨none, rfl⟩
  | tickStraight =>
    rw [Command.run, Autopilot.tickStraight_eq, Autopilot.tryAdvanceStraight]
    split
    · exact ⟨none, rfl⟩
    · exact ⟨some .terrainUnavailable, rfl⟩
  | tickSpline =>
    rw [Command.run]
    have htick := a.splineTick r
    generalize a.tickSpline r = o at htick ⊢
    cases htick <;> exact ⟨_, rfl⟩
  | straightToLocation | straightToNED | splineToLocation => exact hc.elim
  | _ => exact ⟨none, rfl⟩

theorem exists_fly_call {s : Simulation ℝ} {as : List (Action ℝ)} {c : Command ℝ}
    (hc : c.ByVectors) (h : ∃ t es, (s.command c).1.fly as = .ok (t, es)) :
    ∃ t es, s.fly (.call c :: as) = .ok (t, es) := by
  obtain ⟨t, es, hflown⟩ := h
  obtain ⟨e, he⟩ := exists_report hc s.readings s.autopilot
  have hact : s.act (.call c) = .ok ((s.command c).1, e) :=
    congrArg (Except.map ((s.command c).1, ·)) he
  refine ⟨t, e :: es, ?_⟩
  simp only [fly, hact, hflown]
  rfl

theorem exists_fly_step {s t : Simulation ℝ} {as : List (Action ℝ)} (hstep : s.step = .ok t)
    (h : ∃ u es, t.fly as = .ok (u, es)) : ∃ u es, s.fly (.step :: as) = .ok (u, es) := by
  obtain ⟨u, es, hflown⟩ := h
  refine ⟨u, none :: es, ?_⟩
  simp only [fly, act, hstep, Except.map, hflown]

noncomputable def quarterTurn : Placement := ⟨0, 1, by norm_num, ⟨700, -400, 30⟩⟩

theorem place_quarterTurn (north east up : ℝ) :
    quarterTurn.place ⟨north, east, up⟩ = ⟨700 - east, north - 400, up + 30⟩ := by
  ext
  · show north * 0 - east * 1 + 700 = 700 - east
    ring
  · show north * 1 + east * 0 + -400 = north - 400
    ring
  · rfl

noncomputable def bend : List (Action ℝ) :=
  [.call .start, .call (.straightTo ⟨900, 0, 210⟩ false), .call .tickStraight, .step,
    .call (.spline ⟨⟨0, 0, 210⟩, ⟨900, 450, 210⟩, false, true, .spline ⟨1800, 0, 320⟩⟩),
    .call .tickSpline]

theorem exists_fly_bend : ∃ t es, (standard : Simulation ℝ).fly bend = .ok (t, es) := by
  refine exists_fly_call trivial (exists_fly_call rfl (exists_fly_call trivial ?_))
  generalize hs : ((((standard : Simulation ℝ).command .start).1.command
    (.straightTo ⟨900, 0, 210⟩ false)).1.command .tickStraight).1 = s
  obtain ⟨t, ht⟩ : ∃ t, s.step = .ok t := by
    have hperiod : s.autopilot.controller.period = 0.01 := by
      rw [← hs]
      refine (Autopilot.tickStraight_period _ _).trans ?_
      exact congrArg (·.controller.period) Autopilot.start_standard
    have hclock : WordRange.unsigned64.Contains (s.move.now + 10 : Nat) := by
      rw [← hs]
      show WordRange.unsigned64.Contains (startTime + 10 : Nat)
      decide
    rw [step, hperiod, milliseconds_standard]
    exact ⟨_, if_pos hclock⟩
  exact exists_fly_step ht (exists_fly_call rfl (exists_fly_call trivial ⟨_, _, rfl⟩))

theorem flight_placed_quarterTurn :
    (∀ a ∈ bend, a.ByVectors) ∧ Action.DestinationFirst bend ∧
      ∃ t t' es, (standard : Simulation ℝ).fly bend = .ok (t, es) ∧
        (create .standard .standard ⟨700, -400, 30⟩).fly
          [.call .start, .call (.straightTo ⟨700, 500, 240⟩ false), .call .tickStraight, .step,
            .call (.spline ⟨⟨700, -400, 240⟩, ⟨250, 500, 240⟩, false, true,
              .spline ⟨700, 1400, 350⟩⟩),
            .call .tickSpline] = .ok (t', es) ∧
        quarterTurn.Carries t t' ∧
        t'.autopilot.navigator.segment = t.autopilot.navigator.segment.placed quarterTurn := by
  have has : ∀ a ∈ bend, a.ByVectors := by simp [bend, Action.ByVectors, Command.ByVectors]
  have hfirst : Action.DestinationFirst bend := by
    simp [bend, Action.DestinationFirst, Action.SetsDestination, Action.IsTick, Command.sets,
      Command.IsTick]
  have hset : ∃ a ∈ bend, a.SetsDestination := by
    simp [bend, Action.SetsDestination, Command.sets]
  have hzero : quarterTurn.place .zero = ⟨700, -400, 30⟩ := by
    rw [Vec3.zero, place_quarterTurn]
    norm_num
  obtain ⟨t, es, hflown⟩ := exists_fly_bend
  obtain ⟨t', hflown', hcarries, hsegment⟩ :=
    (flight_placed quarterTurn .standard .standard .zero has hfirst).2 t es hflown
  refine ⟨has, hfirst, t, t', es, hflown, ?_, hcarries, hsegment hset⟩
  rw [← hflown', hzero]
  norm_num [bend, Action.placed, Command.placed, SplineRequest.placed, SegmentEnd.placed,
    place_quarterTurn]

end Simulation

end WaypointFlight
