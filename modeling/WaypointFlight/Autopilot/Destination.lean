import WaypointFlight.Autopilot.Spline

namespace WaypointFlight.Autopilot

variable {α : Type} [Analytic α]

def setStraight (a : Autopilot α) (r : Readings α) (origin destination : Vec3 α)
    (aboveTerrain : Bool) : Outcome α :=
  match a.offsetFor r aboveTerrain with
  | .ok offset => .done (a.beginStraight r origin destination aboveTerrain offset) []
  | .error f => .noTerrain a f

def setSpline (a : Autopilot α) (r : Readings α) (q : SplineRequest α) : Outcome α :=
  match a.offsetFor r q.aboveTerrain with
  | .ok offset => .done (a.beginSpline r.now q offset) a.repairWarnings
  | .error f => .noTerrain a f

def originFor (a : Autopilot α) (r : Readings α) (aboveTerrain : Bool) :
    Except TerrainFault (Vec3 α) :=
  let origin := a.defaultOrigin r.now
  if aboveTerrain then
    return { origin with up := origin.up - (← a.offsetFor r aboveTerrain) }
  else .ok origin

def setStraightTo (a : Autopilot α) (r : Readings α) (destination : Vec3 α)
    (aboveTerrain : Bool) : Outcome α :=
  match a.originFor r aboveTerrain with
  | .ok origin => a.setStraight r origin destination aboveTerrain
  | .error f => .noTerrain a f

def setSplineTo (a : Autopilot α) (r : Readings α) (destination : Vec3 α)
    (aboveTerrain stoppedAtStart : Bool) (following : SegmentEnd (Vec3 α)) : Outcome α :=
  match a.originFor r aboveTerrain with
  | .ok origin => a.setSpline r { origin, destination, aboveTerrain, stoppedAtStart, following }
  | .error f => .noTerrain a f

def setStraightToLocation (a : Autopilot α) (r : Readings α) (destination : Location) :
    Outcome α :=
  match destination.vectorNEU r.attitude.origin with
  | .ok (point, aboveTerrain) => a.setStraightTo r point aboveTerrain
  | .error f => .badLocation a f

/-- A destination in metres in the frame north, east, down. -/
def setStraightToNED (a : Autopilot α) (r : Readings α) (destination : Vec3 α) : Outcome α :=
  a.setStraightTo r
    ⟨destination.north * 100.0, destination.east * 100.0, -destination.up * 100.0⟩ false

/-- The next destination as a vector, with its height in the frame of this destination. -/
def followingVector (r : Readings α) (frame : AltitudeFrame) (following : SegmentEnd Location) :
    Except (Fault LocationError) (SegmentEnd (Vec3 α)) :=
  match r.attitude.origin with
  | none => .error (.error .noOrigin)
  | some origin => following.tryMap fun next => do
      let next ← next.inFrame frame origin r.database.elevation
      return (← next.vectorNEU (some origin)).1

def setSplineToLocation (a : Autopilot α) (r : Readings α) (destination : Location)
    (stoppedAtStart : Bool) (following : SegmentEnd Location) : Outcome α :=
  match destination.vectorNEU r.attitude.origin with
  | .error f => .badLocation a f
  | .ok (point, aboveTerrain) =>
    match followingVector r destination.frame following with
    | .error f => .badLocation a f
    | .ok following => a.setSplineTo r point aboveTerrain stoppedAtStart following

end WaypointFlight.Autopilot
