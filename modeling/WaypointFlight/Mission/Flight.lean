import WaypointFlight.Autopilot.Query
import WaypointFlight.Mission.Basic

namespace WaypointFlight

open Scalar

variable {α : Type}

/-- How the flight to one item went: times in seconds, lengths in centimetres. -/
@[ext]
structure ItemSummary (α : Type) where
  index : Nat
  kind : SegmentKind
  reached : Bool
  duration : α
  maxErrorXY : α
  maxErrorZ : α
  finalDistance : α
  finalHeading : α

inductive LogEntry (α : Type) where
  | missionLoaded (path : String) (count : Nat)
  | itemStarted (index : Nat) (item : MissionItem α)
  | itemTimedOut (index : Nat) (seconds : α)
  | warning (w : Warning α)

structure Leg (α : Type) where
  sim : Simulation α
  cycles : Nat
  maxErrorXY : α
  maxErrorZ : α
  log : List (LogEntry α)

/-- A result, or the fault that ended the flight; with the log up to there. -/
structure Flown (α β : Type) where
  result : Except (Fault NavigationError) β
  log : List (LogEntry α)

variable [Analytic α]

def SegmentKind.tick : SegmentKind → Command α
  | .straight => .tickStraight
  | .spline => .tickSpline

namespace Leg

def start (sim : Simulation α) (log : List (LogEntry α)) : Leg α := ⟨sim, 0, 0.0, 0.0, log⟩

def reached (l : Leg α) : Bool := l.sim.autopilot.navigator.flags.reached

def cycle (l : Leg α) (kind : SegmentKind) : Flown α (Leg α) :=
  let (sim, o) := l.sim.command (kind.tick)
  let log := l.log ++ o.warnings.map .warning
  match o.fault with
  | some f => ⟨.error f, log⟩
  | none =>
    match sim.step with
    | .error o => ⟨.error (.overflow o), log⟩
    | .ok sim =>
      let track := sim.autopilot.navigator.track
      ⟨.ok
        { sim, log
          cycles := l.cycles + 1
          maxErrorXY := maxNum l.maxErrorXY track.errorXY
          maxErrorZ := maxNum l.maxErrorZ track.errorZ }, log⟩

def fly (kind : SegmentKind) : Nat → Leg α → Flown α (Leg α)
  | 0, l => ⟨.ok l, l.log⟩
  | left + 1, l =>
    if l.reached then ⟨.ok l, l.log⟩
    else
      match l.cycle kind with
      | ⟨.ok next, _⟩ => fly kind left next
      | ⟨.error f, log⟩ => ⟨.error f, log⟩

def summary (l : Leg α) (index : Nat) (kind : SegmentKind) : ItemSummary α where
  index := index
  kind := kind
  reached := l.reached
  duration := Analytic.ofInt l.cycles * l.sim.autopilot.controller.period
  maxErrorXY := l.maxErrorXY
  maxErrorZ := l.maxErrorZ
  finalDistance := l.sim.autopilot.distance l.sim.position
  finalHeading := l.sim.autopilot.navigator.headingOr l.sim.attitude.heading

end Leg

namespace MissionItem

/-- The command that sets an item as the destination. A spline starts from rest only as the first
item. -/
def command (i : MissionItem α) (origin : Location) (index : Nat)
    (next : Option (MissionItem α)) : Except Overflow (Command α) := do
  let destination ← i.location origin
  match i.kind with
  | .straight => return .straightToLocation destination
  | .spline => return .splineToLocation destination (index = 0) (← following origin next)

def withSpeed (i : MissionItem α) (sim : Simulation α) : Simulation α :=
  match i.speed with
  | some speed => (sim.command (.requestSpeed speed)).1
  | none => sim

/-- A straight segment is fast or not by the word of its item. -/
def withFast (i : MissionItem α) (sim : Simulation α) : Simulation α :=
  match i.kind with
  | .straight => (sim.command (.setFast i.fast)).1
  | .spline => sim

def cyclesIn (timeout period : α) : Nat :=
  (Analytic.toWord .unsigned64 (Analytic.ceil (timeout / period))).toNat

def begin (i : MissionItem α) (sim : Simulation α) (origin : Location) (index : Nat)
    (next : Option (MissionItem α)) : Flown α (Simulation α) :=
  let sim := i.withSpeed sim
  match i.command origin index next with
  | .error o => ⟨.error (.overflow o), []⟩
  | .ok c =>
    let (sim, o) := sim.command c
    let log := o.warnings.map .warning
    match o.fault with
    | some f => ⟨.error f, log⟩
    | none => ⟨.ok (i.withFast sim), log ++ [.itemStarted index i]⟩

/-- Flies to an item until it is reached or its time is over. -/
def fly (i : MissionItem α) (sim : Simulation α) (origin : Location) (index : Nat)
    (next : Option (MissionItem α)) (timeout : α) :
    Flown α (Simulation α × ItemSummary α) :=
  match i.begin sim origin index next with
  | ⟨.error f, log⟩ => ⟨.error f, log⟩
  | ⟨.ok sim, log⟩ =>
    match (Leg.start sim log).fly i.kind (cyclesIn timeout sim.autopilot.controller.period) with
    | ⟨.error f, log⟩ => ⟨.error f, log⟩
    | ⟨.ok l, log⟩ => ⟨.ok (l.sim, l.summary index i.kind), log⟩

end MissionItem

/-- What the items of a mission have come to: their summaries, and the fault of the item at which
the flight ended. -/
structure ItemsFlown (α : Type) where
  summaries : List (ItemSummary α)
  fault : Option (Nat × Fault NavigationError)
  log : List (LogEntry α)

namespace ItemSummary

def timedOut (s : ItemSummary α) : List (LogEntry α) :=
  if s.reached then [] else [.itemTimedOut s.index s.duration]

end ItemSummary

def flyItems (origin : Location) (timeout : α) :
    Nat → List (MissionItem α) → Simulation α → ItemsFlown α
  | _, [], _ => ⟨[], none, []⟩
  | index, i :: rest, sim =>
    match i.fly sim origin index rest.head? timeout with
    | ⟨.error f, log⟩ => ⟨[], some (index, f), log⟩
    | ⟨.ok (sim, summary), log⟩ =>
      let later := flyItems origin timeout (index + 1) rest sim
      ⟨summary :: later.summaries, later.fault, log ++ summary.timedOut ++ later.log⟩

def Mission.fly (m : Mission α) (p : Params α) : ItemsFlown α :=
  let world := m.world p
  let (world, o) := world.command .start
  let warnings := p.warnings m.sim.leanLimit ++ o.warnings
  let flown := flyItems m.sim.origin m.itemTimeout 0 m.items world
  { flown with log := warnings.map .warning ++ flown.log }

end WaypointFlight
