import WaypointFlight.Binary64.Scalar
import WaypointFlight.Location.OfToml
import WaypointFlight.Simulation.Basic

namespace WaypointFlight

open Toml

def SimParams.ofToml? (v : Value) : Option (SimParams Float) := do
  let d : SimParams Float := .standard
  let r ← v.record?
    ["dt_s", "pos_xy_kp", "pos_z_kp", "lean_angle_max_cd", "origin", "ground_alt_cm",
      "rangefinder_available"]
  return {
    period := ← r.withDefault "dt_s" d.period Value.float?
    gainXY := ← r.withDefault "pos_xy_kp" d.gainXY Value.float?
    gainZ := ← r.withDefault "pos_z_kp" d.gainZ Value.float?
    leanLimit := ← r.withDefault "lean_angle_max_cd" d.leanLimit Value.float?
    origin := ← r.withDefault "origin" d.origin Location.ofToml?
    groundAltitude := ← r.withDefault "ground_alt_cm" d.groundAltitude Value.float?
    rangeFinderAvailable :=
      ← r.withDefault "rangefinder_available" d.rangeFinderAvailable Value.bool? }

end WaypointFlight
