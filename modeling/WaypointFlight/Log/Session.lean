namespace WaypointFlight

/-- The time of the start in nanoseconds. There is none before. -/
structure Session where
  epoch : Option Int

namespace Session

def elapsedSeconds (s : Session) (now : Int) : Float :=
  match s.epoch with
  | some epoch => Float.ofInt (now - epoch) / 1e9
  | none => 0.0 / 0.0

end Session

end WaypointFlight
