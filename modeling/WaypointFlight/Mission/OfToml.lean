import WaypointFlight.Mission.Basic
import WaypointFlight.Simulation.OfToml

namespace WaypointFlight

open Toml

def SegmentKind.ofName? : String → Option SegmentKind
  | "straight" => some .straight
  | "spline" => some .spline
  | _ => none

def Vec3.ofToml? (v : Value) : Option (Vec3 Float) := do
  match ← v.list? Value.float? with
  | [north, east, up] => return ⟨north, east, up⟩
  | _ => none

def MissionItem.ofToml? (v : Value) : Option (MissionItem Float) := do
  let r ← v.record? ["kind", "north_m", "east_m", "alt_m", "terrain_alt", "fast", "speed_cms"]
  return {
    kind := ← r.required "kind" (Value.choice? SegmentKind.ofName?)
    north := ← r.required "north_m" Value.float?
    east := ← r.required "east_m" Value.float?
    altitude := ← r.required "alt_m" Value.float?
    aboveTerrain := ← r.withDefault "terrain_alt" false Value.bool?
    fast := ← r.withDefault "fast" false Value.bool?
    speed := ← r.optional "speed_cms" Value.float? }

def Mission.ofToml? (v : Value) : Option (Mission Float) := do
  let r ← v.record? ["sim", "start_m", "item_timeout_s", "items"]
  return {
    sim := ← r.withDefault "sim" .standard SimParams.ofToml?
    start := ← r.withDefault "start_m" .zero Vec3.ofToml?
    itemTimeout := ← r.required "item_timeout_s" Value.float?
    items := ← r.required "items" (Value.list? MissionItem.ofToml?) }

end WaypointFlight
