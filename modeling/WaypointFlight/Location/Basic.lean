namespace WaypointFlight

inductive AltitudeFrame where
  | absolute
  | aboveOrigin
  | aboveTerrain
  deriving DecidableEq, Repr

def AltitudeFrame.name : AltitudeFrame → String
  | .absolute => "Absolute"
  | .aboveOrigin => "AboveOrigin"
  | .aboveTerrain => "AboveTerrain"

def AltitudeFrame.ofName? : String → Option AltitudeFrame
  | "Absolute" => some .absolute
  | "AboveOrigin" => some .aboveOrigin
  | "AboveTerrain" => some .aboveTerrain
  | _ => none

/-- Latitude and longitude count ten-millionths of a degree, the altitude centimetres above the
reference of its frame. -/
@[ext]
structure Location where
  latitude : Int32
  longitude : Int32
  altitude : Int32
  frame : AltitudeFrame
  deriving DecidableEq, Repr

/-- The altitude of the ground above mean sea level in centimetres, where it is known. -/
def Elevation (α : Type) := Location → Option α

def Elevation.unknown {α : Type} : Elevation α := fun _ => none

inductive LocationError where
  | noOrigin
  | noTerrainData (source target : AltitudeFrame)
  deriving DecidableEq, Repr

def LocationError.message : LocationError → String
  | .noOrigin => "The world origin has not been set"
  | .noTerrainData source target =>
    "Cannot convert an altitude from " ++ source.name ++ " to " ++ target.name
      ++ " without terrain data"

end WaypointFlight
