import WaypointFlight.Terrain

namespace WaypointFlight

/-- Altitudes in centimetres: that of the ground and of the vehicle above the world origin, that
of the origin above mean sea level. The database may be wrong by its bias. -/
@[ext]
structure Ground (α : Type) where
  altitude : α
  databaseAvailable : Bool
  databaseBias : α
  rangeFinderAvailable : Bool
  rangeFinderHealthy : Bool
  originAltitude : α
  vehicleAltitude : α

namespace Ground

variable {α : Type} [Scalar α]

def height (g : Ground α) : Option α :=
  if g.databaseAvailable then
    some ((g.vehicleAltitude - g.altitude - g.databaseBias) * 0.01)
  else none

def elevation (g : Ground α) : Elevation α := fun _ =>
  if g.databaseAvailable then some (g.originAltitude + g.altitude + g.databaseBias) else none

def database (g : Ground α) : TerrainDatabase α := ⟨g.height, g.elevation⟩

/-- The distance that the range finder measures, also while it is unhealthy. -/
def distance (g : Ground α) : α := g.vehicleAltitude - g.altitude

def rangeReading (g : Ground α) : Option (RangeReading α) :=
  if g.rangeFinderAvailable then some ⟨g.rangeFinderHealthy, g.distance⟩ else none

end Ground

end WaypointFlight
