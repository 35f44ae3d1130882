import WaypointFlight.Simulation.Basic

namespace WaypointFlight

/-- Distances in metres from the world origin, the speed in centimetres per second. -/
structure MissionItem (α : Type) where
  kind : SegmentKind
  north : α
  east : α
  altitude : α
  aboveTerrain : Bool
  fast : Bool
  speed : Option α

/-- The start in metres, the time allowed for each item in seconds. -/
structure Mission (α : Type) where
  sim : SimParams α
  start : Vec3 α
  itemTimeout : α
  items : List (MissionItem α)

variable {α : Type} [Analytic α]

namespace MissionItem

def location (i : MissionItem α) (origin : Location) : Except Overflow Location :=
  Location.offset?
    ⟨origin.latitude, origin.longitude, Location.nearestWord (i.altitude * 100.0),
      if i.aboveTerrain then .aboveTerrain else .aboveOrigin⟩
    i.north i.east

def following (origin : Location) : Option (MissionItem α) → Except Overflow (SegmentEnd Location)
  | none => .ok .stop
  | some next => do
    let location ← next.location origin
    match next.kind with
    | .spline => return .spline location
    | .straight => return .straight location

end MissionItem

def Mission.world (m : Mission α) (p : Params α) : Simulation α :=
  .create m.sim p (m.start * (100.0 : α))

end WaypointFlight
