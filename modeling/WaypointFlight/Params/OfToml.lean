import WaypointFlight.Binary64.Scalar
import WaypointFlight.Params
import WaypointFlight.Toml.Record

namespace WaypointFlight

open Toml

def Params.ofToml? (v : Value) : Option (Params Float) := do
  let d : Params Float := .standard
  let r ← v.record?
    ["speed_cms", "radius_cm", "speed_up_cms", "speed_down_cms", "accel_cmss", "accel_z_cmss",
      "rangefinder_use", "spline_time_overshoot_max"]
  return {
    speed := ← r.withDefault "speed_cms" d.speed Value.float?
    radius := ← r.withDefault "radius_cm" d.radius Value.float?
    speedUp := ← r.withDefault "speed_up_cms" d.speedUp Value.float?
    speedDown := ← r.withDefault "speed_down_cms" d.speedDown Value.float?
    accel := ← r.withDefault "accel_cmss" d.accel Value.float?
    accelZ := ← r.withDefault "accel_z_cmss" d.accelZ Value.float?
    useRangeFinder := ← r.withDefault "rangefinder_use" d.useRangeFinder Value.bool?
    splineOvershoot := ← r.withDefault "spline_time_overshoot_max" d.splineOvershoot Value.float? }

end WaypointFlight
