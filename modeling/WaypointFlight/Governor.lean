import WaypointFlight.Scalar.Tolerance

namespace WaypointFlight.Governor

open Scalar

variable {α : Type} [Scalar α]

/-- The next speed limit, or none where the limit has arrived. It never passes the request. -/
def step (current requested accel dt : α) : Option α :=
  if IsEqual requested current then none
  else if current < requested then some (minNum (current + accel * dt) requested)
  else some (maxNum (current - accel * dt) requested)

end WaypointFlight.Governor
