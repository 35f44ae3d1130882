import WaypointFlight.Curve
import WaypointFlight.Scalar.Tolerance

namespace WaypointFlight.Boundary

variable {α : Type} [Scalar α]

def speedSum (b : Boundary α) : α := b.originVel.norm + b.destinationVel.norm

def speedLimit (b : Boundary α) : α := (b.destination - b.origin).norm * 4.0

/-- The factor by which velocities that are too long shrink: zero where they have no length. -/
def shrinkFactor (b : Boundary α) : α :=
  if Scalar.IsPositive b.speedSum then b.speedLimit / b.speedSum else 0.0

def scaled (b : Boundary α) : Boundary α :=
  if b.speedLimit < b.speedSum then
    { b with
      originVel := b.originVel * b.shrinkFactor
      destinationVel := b.destinationVel * b.shrinkFactor }
  else b

end WaypointFlight.Boundary
