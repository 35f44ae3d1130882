import WaypointFlight.Mission.Flight
import WaypointFlight.Proofs.DestinationLocation
import WaypointFlight.Proofs.SimulatedFlights
import WaypointFlight.Proofs.TerrainSources

namespace WaypointFlight

variable {α : Type} [Analytic α]

namespace Leg

variable (kind : SegmentKind)

inductive Cycled (l : Leg α) : Except (Fault NavigationError) (Leg α) → Prop where
  | failed (f : Fault NavigationError) (h : (l.sim.command kind.tick).2.fault = some f) :
      Cycled l (.error f)
  | stopped (o : Overflow) (hf : (l.sim.command kind.tick).2.fault = none)
      (h : (l.sim.command kind.tick).1.step = .error o) : Cycled l (.error (.overflow o))
  | moved (next : Leg α) (hf : (l.sim.command kind.tick).2.fault = none)
      (h : (l.sim.command kind.tick).1.step = .ok next.sim) : Cycled l (.ok next)

inductive Ends : Leg α → Except (Fault NavigationError) (Leg α) → Prop where
  | last (l : Leg α) : Ends l (.ok l)
  | failed {l : Leg α} {f : Fault NavigationError} (h : Cycled kind l (.error f)) :
      Ends l (.error f)
  | cycle {l next : Leg α} {result : Except (Fault NavigationError) (Leg α)}
      (hreached : l.reached = false) (h : Cycled kind l (.ok next)) (hnext : Ends next result) :
      Ends l result

theorem cycle_cycled (l : Leg α) : Cycled kind l (l.cycle kind).result := by
  unfold cycle
  cases hf : (l.sim.command kind.tick).2.fault with
  | some f =>
    simp only [hf]
    exact .failed f hf
  | none =>
    simp only [hf]
    cases hs : (l.sim.command kind.tick).1.step with
    | error o => exact .stopped o hf hs
    | ok t => exact .moved _ hf hs

variable {kind}

/-- A property that the cycles of a leg keep is one of the leg that it ends on. -/
theorem Ends.invariant {I : Leg α → Prop}
    (step : ∀ l next, l.reached = false → Cycled kind l (.ok next) → I l → I next) {l last : Leg α}
    {result : Except (Fault NavigationError) (Leg α)} (hl : Ends kind l result)
    (hlast : result = .ok last) (h : I l) : I last := by
  induction hl with
  | last => exact Except.ok.inj hlast ▸ h
  | failed => cases hlast
  | cycle hreached hc _ ih => exact ih hlast (step _ _ hreached hc h)

theorem cycle_ok {l : Leg α} {t : Simulation α}
    (hf : (l.sim.command kind.tick).2.fault = none)
    (ht : (l.sim.command kind.tick).1.step = .ok t) :
    ∃ next log, l.cycle kind = ⟨.ok next, log⟩ ∧ next.sim = t := by
  unfold cycle
  simp only [hf, ht]
  exact ⟨_, _, rfl, rfl⟩

variable (kind)

theorem fly_ends (n : Nat) (l : Leg α) : Ends kind l (l.fly kind n).result := by
  induction n generalizing l with
  | zero => exact .last l
  | succ n ih =>
    unfold fly
    cases hr : l.reached with
    | true => exact .last l
    | false =>
      have hcycled := l.cycle_cycled kind
      rcases hc : l.cycle kind with ⟨f | next, log⟩
      · rw [hc] at hcycled
        exact .failed hcycled
      · rw [hc] at hcycled
        exact .cycle hr hcycled (ih next)

end Leg

namespace MissionItem

variable (i : MissionItem α) (sim : Simulation α) (origin : Location) (index : Nat)
  (next : Option (MissionItem α))

inductive Begun : Except (Fault NavigationError) (Simulation α) → Prop where
  | misplaced (o : Overflow) (h : i.command origin index next = .error o) :
      Begun (.error (.overflow o))
  | refused (c : Command α) (hc : i.command origin index next = .ok c) (f : Fault NavigationError)
      (hf : ((i.withSpeed sim).command c).2.fault = some f) : Begun (.error f)
  | set (c : Command α) (hc : i.command origin index next = .ok c)
      (hf : ((i.withSpeed sim).command c).2.fault = none) :
      Begun (.ok (i.withFast ((i.withSpeed sim).command c).1))

inductive Ends : Except (Fault NavigationError) (Simulation α × ItemSummary α) → Prop where
  | unbegun {f : Fault NavigationError} (h : i.Begun sim origin index next (.error f)) :
      Ends (.error f)
  | failed {world : Simulation α} (h : i.Begun sim origin index next (.ok world))
      (log : List (LogEntry α)) {f : Fault NavigationError}
      (hleg : (Leg.start world log).Ends i.kind (.error f)) : Ends (.error f)
  | flown {world : Simulation α} (h : i.Begun sim origin index next (.ok world))
      (log : List (LogEntry α)) {l : Leg α} (hleg : (Leg.start world log).Ends i.kind (.ok l)) :
      Ends (.ok (l.sim, l.summary index i.kind))

theorem begin_begun : i.Begun sim origin index next (i.begin sim origin index next).result := by
  unfold begin
  cases hc : i.command origin index next with
  | error o => exact .misplaced o hc
  | ok c =>
    cases hf : ((i.withSpeed sim).command c).2.fault with
    | some f =>
      simp only [hf]
      exact .refused c hc f hf
    | none =>
      simp only [hf]
      exact .set c hc hf

theorem fly_ends (timeout : α) :
    i.Ends sim origin index next (i.fly sim origin index next timeout).result := by
  have hbegun := i.begin_begun sim origin index next
  unfold fly
  rcases hb : i.begin sim origin index next with ⟨f | world, log⟩
  · rw [hb] at hbegun
    exact .unbegun hbegun
  · rw [hb] at hbegun
    have hleg := (Leg.start world log).fly_ends i.kind
      (cyclesIn timeout world.autopilot.controller.period)
    rcases hl : (Leg.start world log).fly i.kind
      (cyclesIn timeout world.autopilot.controller.period) with ⟨f | l, log'⟩
    · rw [hl] at hleg
      simp only [hl]
      exact .failed hbegun log hleg
    · rw [hl] at hleg
      simp only [hl]
      exact .flown hbegun log hleg

variable {i origin index next}

theorem command_sets {c : Command α} (h : i.command origin index next = .ok c) :
    c.sets = some i.kind := by
  obtain ⟨destination, -, hrest⟩ := bind_ok h
  cases hk : i.kind with
  | straight =>
    simp only [hk] at hrest
    rw [← Except.ok.inj hrest]
    rfl
  | spline =>
    simp only [hk] at hrest
    obtain ⟨following, -, hc⟩ := bind_ok hrest
    rw [← Except.ok.inj hc]
    rfl

end MissionItem

namespace Simulation

/-- There is a world origin, and the sources of terrain data answer. -/
structure Equipped (s : Simulation α) : Prop where
  origin : s.attitude.origin ≠ none
  database : s.ground.databaseAvailable = true
  healthy : s.ground.rangeFinderHealthy = true

namespace Equipped

variable {s t : Simulation α}

theorem surveyed (h : s.Equipped) : s.readings.Surveyed := by
  have hheight : s.ground.height ≠ none := by simp [Ground.height, h.database]
  have helevation (l : Location) : s.ground.elevation l ≠ none := by
    simp [Ground.elevation, h.database]
  refine ⟨hheight, helevation, fun x hx ↦ ?_⟩
  have hrange : s.ground.rangeReading = some x := hx
  rw [Ground.rangeReading] at hrange
  split_ifs at hrange
  rw [← Option.some.inj hrange]
  exact h.healthy

theorem command (h : s.Equipped) (c : Command α) : (s.command c).1.Equipped :=
  ⟨h.origin, h.database, h.healthy⟩

theorem step (h : s.Equipped) (ht : s.step = .ok t) : t.Equipped := by
  obtain ⟨now, rfl⟩ := step_ok ht
  exact ⟨h.origin, h.database, h.healthy⟩

theorem withSpeed (h : s.Equipped) (i : MissionItem α) : (i.withSpeed s).Equipped := by
  unfold MissionItem.withSpeed
  cases i.speed with
  | none => exact h
  | some speed => exact h.command _

theorem withFast (h : s.Equipped) (i : MissionItem α) : (i.withFast s).Equipped := by
  unfold MissionItem.withFast
  cases i.kind with
  | straight => exact h.command _
  | spline => exact h

/-- Of the faults there are, an equipped world leaves overflows, and ticks for splines on straight
segments. -/
theorem fault (h : s.Equipped) {c : Command α} {f : Fault NavigationError}
    (hf : (s.command c).2.fault = some f) :
    (∃ o, f = .overflow o) ∨
      c = .tickSpline ∧ s.autopilot.navigator.segment.kind = .straight := by
  cases c.surveyedFault h.surveyed hf with
  | overflow o => exact .inl ⟨o, rfl⟩
  | noOrigin horigin => exact absurd horigin h.origin
  | notSpline hc hk => exact .inr ⟨hc, hk⟩

end Equipped

end Simulation

def OrOverflow {β : Type} (P : β → Prop) : Except (Fault NavigationError) β → Prop
  | .ok x => P x
  | .error f => ∃ o, f = .overflow o

namespace Leg

variable {kind : SegmentKind} {l : Leg α} {result : Except (Fault NavigationError) (Leg α)}

structure Ready (kind : SegmentKind) (l : Leg α) : Prop where
  equipped : l.sim.Equipped
  kind : l.sim.autopilot.navigator.segment.kind = kind

theorem tick_keeps (kind : SegmentKind) (a : Autopilot α) (r : Readings α) :
    a.Keeps (.call kind.tick r) := by
  cases kind <;> exact fun h ↦ absurd rfl h

theorem Ready.cycled (h : l.Ready kind) (hc : Cycled kind l result) :
    OrOverflow (Ready kind) result := by
  cases hc with
  | failed f hf =>
    rcases h.equipped.fault hf with ho | ⟨htick, hk⟩
    · exact ho
    · -- a tick for splines belongs to a spline
      rw [h.kind] at hk
      rw [hk] at htick
      cases htick
  | stopped o => exact ⟨o, rfl⟩
  | moved next hf ht =>
    refine ⟨(h.equipped.command _).step ht, ?_⟩
    obtain ⟨now, hnext⟩ := Simulation.step_ok ht
    have hkind : (l.sim.command kind.tick).1.autopilot.navigator.segment.kind =
        l.sim.autopilot.navigator.segment.kind :=
      ((Event.call kind.tick l.sim.readings).effect l.sim.autopilot).kind (tick_keeps kind _ _)
    rw [hnext]
    exact hkind.trans h.kind

theorem Ready.ends (h : l.Ready kind) (hl : Ends kind l result) :
    OrOverflow (Ready kind) result := by
  induction hl with
  | last => exact h
  | failed hc => exact h.cycled hc
  | cycle _ hc _ ih => exact ih (h.cycled hc)

end Leg

theorem Command.run_kind {c : Command α} {kind : SegmentKind} (hc : c.sets = some kind)
    (r : Readings α) (a : Autopilot α) (hf : (c.run r a).fault = none) :
    (c.run r a).state.navigator.segment.kind = kind := by
  cases kind with
  | straight =>
    obtain ⟨o, d, t, x, -, h⟩ := (c.run_straight r a hc).resolve_left fun h ↦ h.1 hf
    rw [h]
    rfl
  | spline =>
    obtain ⟨q, x, -, h⟩ := (c.run_spline r a hc).resolve_left fun h ↦ h.1 hf
    rw [h]
    rfl

namespace MissionItem

variable {i : MissionItem α} {sim : Simulation α} {origin : Location} {index : Nat}
  {next : Option (MissionItem α)}

theorem withFast_segment (i : MissionItem α) (sim : Simulation α) :
    (i.withFast sim).autopilot.navigator.segment = sim.autopilot.navigator.segment := by
  unfold withFast
  cases i.kind <;> rfl

theorem Begun.ready (hsim : sim.Equipped) {result : Except (Fault NavigationError) (Simulation α)}
    (h : i.Begun sim origin index next result) :
    OrOverflow (fun world ↦ ∀ log, (Leg.start world log).Ready i.kind) result := by
  cases h with
  | misplaced o => exact ⟨o, rfl⟩
  | refused c hc f hf =>
    rcases (hsim.withSpeed i).fault hf with ho | ⟨rfl, -⟩
    · exact ho
    · cases command_sets hc
  | set c hc hf =>
    refine fun log ↦ ⟨((hsim.withSpeed i).command c).withFast i, ?_⟩
    rw [Leg.start, withFast_segment]
    exact c.run_kind (command_sets hc) _ _ hf

theorem Ends.equipped (hsim : sim.Equipped)
    {result : Except (Fault NavigationError) (Simulation α × ItemSummary α)}
    (h : i.Ends sim origin index next result) :
    OrOverflow (fun p ↦ p.1.Equipped ∧ p.2.index = index ∧ p.2.kind = i.kind) result := by
  cases h with
  | unbegun hbegun => exact hbegun.ready hsim
  | failed hbegun log hleg => exact (hbegun.ready hsim log).ends hleg
  | flown hbegun log hleg => exact ⟨((hbegun.ready hsim log).ends hleg).equipped, rfl, rfl⟩

end MissionItem

/-- The first items have been flown, and have their summaries. There are no others, or an overflow
has ended the flight at the next one. -/
structure ItemsFlown.Covers (flown : ItemsFlown α) (first : Nat) (items : List (MissionItem α))
    (n : Nat) : Prop where
  summaries : flown.summaries.map (fun s ↦ (s.kind, s.index)) =
    ((items.take n).map (·.kind)).zipIdx first
  fault : n = items.length ∧ flown.fault = none ∨
    n < items.length ∧ ∃ o, flown.fault = some (first + n, .overflow o)

theorem flyItems_covers (origin : Location) (timeout : α) (items : List (MissionItem α))
    (index : Nat) (sim : Simulation α) (hsim : sim.Equipped) :
    ∃ n, (flyItems origin timeout index items sim).Covers index items n := by
  induction items generalizing index sim with
  | nil => exact ⟨0, rfl, .inl ⟨rfl, rfl⟩⟩
  | cons i rest ih =>
    have hends := (i.fly_ends sim origin index rest.head? timeout).equipped hsim
    unfold flyItems
    rcases hi : i.fly sim origin index rest.head? timeout with ⟨f | ⟨t, summary⟩, log⟩
    · rw [hi] at hends
      obtain ⟨o, rfl⟩ := hends
      exact ⟨0, rfl, .inr ⟨Nat.succ_pos _, o, rfl⟩⟩
    · rw [hi] at hends
      obtain ⟨ht, hindex, hkind⟩ : t.Equipped ∧ summary.index = index ∧ summary.kind = i.kind :=
        hends
      obtain ⟨n, hsummaries, hfault⟩ := ih (index + 1) t ht
      refine ⟨n + 1, by simp [hindex, hkind, hsummaries], ?_⟩
      rcases hfault with ⟨hlength, hnone⟩ | ⟨hlength, o, ho⟩
      · exact .inl ⟨congrArg Nat.succ hlength, hnone⟩
      · refine .inr ⟨Nat.succ_lt_succ hlength, o, ?_⟩
        rw [Nat.add_right_comm] at ho
        exact ho

theorem Mission.world_equipped (m : Mission α) (p : Params α) : (m.world p).Equipped :=
  ⟨Option.some_ne_none _, rfl, rfl⟩

/-- A mission flies its items in order. Each that was flown has one summary, with its kind and its
index. Nothing but an overflow ends the mission before the last item. -/
theorem Mission.fly_covers_items (m : Mission α) (p : Params α) :
    ∃ n, (m.fly p).summaries.map (fun s ↦ (s.kind, s.index)) =
        ((m.items.take n).map (·.kind)).zipIdx ∧
      (n = m.items.length ∧ (m.fly p).fault = none ∨
        n < m.items.length ∧ ∃ o, (m.fly p).fault = some (n, .overflow o)) := by
  obtain ⟨n, hsummaries, hfault⟩ := flyItems_covers m.sim.origin m.itemTimeout m.items 0
    ((m.world p).command .start).1 ((m.world_equipped p).command .start)
  rw [Nat.zero_add] at hfault
  exact ⟨n, hsummaries, hfault⟩

end WaypointFlight
