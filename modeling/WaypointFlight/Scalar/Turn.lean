import WaypointFlight.Scalar.Basic

namespace WaypointFlight.Scalar

variable {α : Type} [Scalar α]

def residue (x y : α) : α :=
  if rem x y < 0.0 then rem x y + abs y else rem x y

def turn : α := 36000.0

/-- The angle as a heading. The residue of a tiny negative angle can round up to the full turn,
which is heading zero. -/
def wrapTurn (x : α) : α :=
  if turn ≤ residue x turn then 0.0 else residue x turn

def centidegrees (x : α) : α := x * degreesPerRadian * 100.0

end WaypointFlight.Scalar
