import WaypointFlight.Binary64.Scalar
import WaypointFlight.Decimal.Shortest
import WaypointFlight.Autopilot.Basic

namespace WaypointFlight

open Decimal

def Warning.message : Warning Float → String
  | .accelCapped configured cap =>
    "Waypoint acceleration " ++ fixed 1 configured
      ++ " cm/s/s exceeds lean angle limit, capping to " ++ fixed 1 cap
  | .accelInvalid configured =>
    "Invalid waypoint acceleration " ++ shortest configured ++ " cm/s/s, resetting to "
      ++ shortest Params.standardAccel
  | .terrain f => f.message

end WaypointFlight
