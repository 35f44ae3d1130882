import WaypointFlight.Autopilot.Destination

namespace WaypointFlight

inductive Command (α : Type) where
  | start
  | straightTo (destination : Vec3 α) (aboveTerrain : Bool)
  | straightToLocation (destination : Location)
  | straightToNED (destination : Vec3 α)
  | straight (origin destination : Vec3 α) (aboveTerrain : Bool)
  | splineTo (destination : Vec3 α) (aboveTerrain stoppedAtStart : Bool)
      (following : SegmentEnd (Vec3 α))
  | splineToLocation (destination : Location) (stoppedAtStart : Bool)
      (following : SegmentEnd Location)
  | spline (request : SplineRequest α)
  | shift
  | tickStraight
  | tickSpline
  | requestSpeed (speed : α)
  | setSpeedUp (speed : α)
  | setSpeedDown (speed : α)
  | setFast (fast : Bool)

variable {α : Type} [Analytic α]

def Command.run (c : Command α) (r : Readings α) (a : Autopilot α) : Outcome α :=
  match c with
  | .start => a.start
  | .straightTo destination aboveTerrain => a.setStraightTo r destination aboveTerrain
  | .straightToLocation destination => a.setStraightToLocation r destination
  | .straightToNED destination => a.setStraightToNED r destination
  | .straight origin destination aboveTerrain => a.setStraight r origin destination aboveTerrain
  | .splineTo destination aboveTerrain stoppedAtStart following =>
    a.setSplineTo r destination aboveTerrain stoppedAtStart following
  | .splineToLocation destination stoppedAtStart following =>
    a.setSplineToLocation r destination stoppedAtStart following
  | .spline request => a.setSpline r request
  | .shift => .done (a.shiftToVehicle r) []
  | .tickStraight => a.tickStraight r
  | .tickSpline => a.tickSpline r
  | .requestSpeed speed => .done (a.requestSpeed speed) []
  | .setSpeedUp speed => .done (a.setSpeedUp speed) []
  | .setSpeedDown speed => .done (a.setSpeedDown speed) []
  | .setFast fast => .done (a.setFast fast) []

end WaypointFlight
