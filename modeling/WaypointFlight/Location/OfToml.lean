import WaypointFlight.Location.Basic
import WaypointFlight.Toml.Record

namespace WaypointFlight

open Toml

def AltitudeFrame.ofToml? : Value → Option AltitudeFrame := Value.choice? AltitudeFrame.ofName?

def Location.ofToml? (v : Value) : Option Location := do
  let r ← v.record? ["lat", "lng", "alt_cm", "frame"]
  return {
    latitude := ← r.required "lat" Value.int32?
    longitude := ← r.required "lng" Value.int32?
    altitude := ← r.required "alt_cm" Value.int32?
    frame := ← r.required "frame" AltitudeFrame.ofToml? }

end WaypointFlight
