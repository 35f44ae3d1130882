import WaypointFlight.Binary64.Decode
import WaypointFlight.Word

namespace WaypointFlight.Binary64

namespace FiniteValue

def truncate (d : FiniteValue) : Int :=
  let magnitude := d.ratio.1 / d.ratio.2
  if d.negative then -magnitude else magnitude

end FiniteValue

/-- The integer part, moved into the range; zero for what is not a number. -/
def toWord (r : WordRange) (x : Float) : Int :=
  match decode x with
  | .nan => 0
  | .infinite negative => if negative then r.least else r.greatest
  | .finite d => r.clamp d.truncate

end WaypointFlight.Binary64
