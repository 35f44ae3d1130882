import WaypointFlight.Location.Basic
import WaypointFlight.Scalar.Basic

namespace WaypointFlight

/-- The reading of a range finder that is fitted and switched on, in centimetres. -/
structure RangeReading (α : Type) where
  healthy : Bool
  distance : α

/-- The answers of a terrain database: the height of the vehicle above the ground in metres, and
the elevation of the ground. -/
structure TerrainDatabase (α : Type) where
  height : Option α
  elevation : Elevation α

def TerrainDatabase.absent {α : Type} : TerrainDatabase α := ⟨none, .unknown⟩

inductive TerrainFault where
  | unhealthyRangeFinder
  | noData
  deriving DecidableEq, Repr

def TerrainFault.message : TerrainFault → String
  | .unhealthyRangeFinder => "Range finder unhealthy, no terrain offset available"
  | .noData => "No terrain data for the current position"

variable {α : Type} [Scalar α]

def TerrainDatabase.offset (d : TerrainDatabase α) (altitude : α) : Except TerrainFault α :=
  match d.height with
  | some height => .ok (altitude - height * 100.0)
  | none => .error .noData

/-- The terrain offset for a vehicle at an altitude. A reading of the range finder, where there is
one, is the only source asked. -/
def terrainOffset (altitude : α) (range : Option (RangeReading α)) (d : TerrainDatabase α) :
    Except TerrainFault α :=
  match range with
  | some r => if r.healthy then .ok (altitude - r.distance) else .error .unhealthyRangeFinder
  | none => d.offset altitude

end WaypointFlight
