import WaypointFlight.Scalar.Tolerance
import WaypointFlight.Scalar.Turn
import WaypointFlight.Vector

namespace WaypointFlight.Heading

open Scalar

variable {α : Type} [Analytic α]

def shortestTrack : α := 200.0

/-- The part of the leash by which the target must be ahead before the heading follows it. -/
def leashPart : α := 0.134

def direction (north east : α) : α := centidegrees (Analytic.atan2 east north)

def bearing (start finish : Vec3 α) : α :=
  wrapTurn (direction (finish.north - start.north) (finish.east - start.east))

def deadZone (leashXY : α) : α := minNum shortestTrack (leashXY * leashPart)

/-- A segment that is short on the ground chooses no heading: small corrections of position would
spin the vehicle. On a short leash the vehicle looks along the segment, otherwise to its target. -/
def onStraight (lengthXY leashXY : α) (origin destination target position : Vec3 α) : Option α :=
  if lengthXY < shortestTrack then none
  else if leashXY < shortestTrack then some (bearing origin destination)
  else
    let north := target.north - position.north
    let east := target.east - position.east
    if deadZone leashXY < Analytic.hypot north east then some (direction north east) else none

/-- On a short leash the vehicle looks along the velocity of its target, where that has both
components, otherwise to its target. `error` leads from the target to the vehicle. -/
def onSpline (lengthXY leashXY : α) (targetVel error : Vec3 α) : Option α :=
  if lengthXY < shortestTrack then none
  else if leashXY < shortestTrack then
    if ¬ IsZero targetVel.north ∧ ¬ IsZero targetVel.east then
      some (direction targetVel.north targetVel.east)
    else none
  else if deadZone leashXY < Analytic.hypot error.north error.east then
    some (direction (-error.north) (-error.east))
  else none

end WaypointFlight.Heading
