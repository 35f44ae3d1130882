import WaypointFlight.Leash.Law
import WaypointFlight.Vector

namespace WaypointFlight

open Scalar

variable {α : Type}

/-- Limits of the horizontal and vertical axes. All speeds are positive. -/
@[ext]
structure AxisLimits (α : Type) where
  speedXY : α
  speedUp : α
  speedDown : α
  accelXY : α
  accelZ : α
  leashXY : α
  leashUp : α
  leashDown : α

/-- Acceleration, speed and leash along the direction of travel, and the distance before the
destination at which the target begins to slow down. -/
@[ext]
structure TrackLimits (α : Type) where
  accel : α
  speed : α
  leash : α
  slowDownDistance : α

namespace TrackLimits

variable [Scalar α]

def initial : TrackLimits α := ⟨0.0, 0.0, Leash.shortest, 0.0⟩

/-- The largest value along a direction with horizontal part `partXY` and vertical part `partZ`
that keeps each axis within its limit; `still` for a direction without length. -/
def project (partXY partZ still limitXY limitZ : α) : α :=
  if IsZero partZ then
    if IsZero partXY then still else limitXY / partXY
  else if IsZero partXY then limitZ / partZ
  else minNum (limitZ / partZ) (limitXY / partXY)

end TrackLimits

namespace AxisLimits

variable [Scalar α]

/-- The vertical speed and leash for travel with the given vertical component. -/
def vertical (l : AxisLimits α) (up : α) : α × α :=
  if 0.0 ≤ up then (l.speedUp, l.leashUp) else (l.speedDown, l.leashDown)

end AxisLimits

variable [Analytic α]

def TrackLimits.along (u : Vec3 α) (l : AxisLimits α) : TrackLimits α :=
  let partXY := Analytic.hypot u.north u.east
  let partZ := Scalar.abs u.up
  let accel := project partXY partZ 0.0 l.accelXY l.accelZ
  let speed := project partXY partZ 0.0 l.speedXY (l.vertical u.up).1
  let leash := project partXY partZ Leash.shortest l.leashXY (l.vertical u.up).2
  { accel
    speed
    leash := maxNum leash Leash.shortest
    slowDownDistance := Leash.slowDownDistance speed accel }

end WaypointFlight
