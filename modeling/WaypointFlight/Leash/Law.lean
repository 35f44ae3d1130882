import WaypointFlight.Scalar.Tolerance

namespace WaypointFlight.Leash

open Scalar

variable {α : Type} [Scalar α]

/-- No leash is shorter, so that it may be divided by. -/
def shortest : α := 100.0

/-- The speed below which a target that is slowing down never falls. -/
def slowestApproach : α := 50.0

/-- The leash a proportional controller needs at a speed. It follows the speed linearly up to
`accel / gain` and with its square beyond. -/
def length (speed accel gain : α) : α :=
  if accel ≤ 0.0 then shortest
  else if gain ≤ 0.0 then shortest
  else if speed ≤ accel / gain then maxNum (speed / gain) shortest
  else maxNum (accel / (2.0 * gain * gain) + speed * speed / (2.0 * accel)) shortest

def slowDownDistance (speed accel : α) : α :=
  if accel ≤ 0.0 then 0.0 else speed * speed / (4.0 * accel)

def slowDownSpeed (distance accel : α) : α :=
  if distance ≤ 0.0 then slowestApproach
  else maxNum (safeSqrt (distance * 4.0 * accel)) slowestApproach

/-- The part of the track leash that an error on one axis takes up. Any error takes up all of it
where the axis has no leash. -/
def taken (trackLeash error axisLeash : α) : α :=
  if IsPositive axisLeash then trackLeash * error / axisLeash
  else if IsZero error then 0.0
  else trackLeash

def fractionLeft (error axisLeash : α) : α :=
  if IsPositive axisLeash then (axisLeash - error) / axisLeash else 0.0

end WaypointFlight.Leash
