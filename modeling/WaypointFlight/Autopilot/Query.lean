import WaypointFlight.Autopilot.Basic
import WaypointFlight.Heading

namespace WaypointFlight.Autopilot

variable {α : Type} [Analytic α]

def stoppingPointXY (a : Autopilot α) : Vec3 α :=
  let point := a.controller.stoppingPointXY
  ⟨point.north, point.east, a.controller.positionTarget.up⟩

def distance (a : Autopilot α) (position : Vec3 α) : α :=
  Analytic.hypot (a.navigator.segment.destination.north - position.north)
    (a.navigator.segment.destination.east - position.east)

def bearing (a : Autopilot α) (position : Vec3 α) : α :=
  Heading.bearing position a.navigator.segment.destination

def destinationLocation (a : Autopilot α) (origin : Option Location) :
    Except (Fault NavigationError) Location :=
  let destination := a.navigator.segment.destination
  match origin with
  | none => .error (.error (.location .noOrigin))
  | some origin =>
    Location.checked do
      let moved ← origin.offset? (destination.north * 0.01) (destination.east * 0.01)
      let height := Location.nearestWord destination.up
      if a.navigator.segment.aboveTerrain then
        return { moved with altitude := height, frame := .aboveTerrain }
      else
        return { moved with altitude := ← checkedAdd moved.altitude height }

end WaypointFlight.Autopilot
