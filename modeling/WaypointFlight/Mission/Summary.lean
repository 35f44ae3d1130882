import WaypointFlight.Decimal.Shortest
import WaypointFlight.Mission.Flight

namespace WaypointFlight

open Binary64 Decimal

/-- A positive number is positional from a hundred-thousandth up to ten to the sixteenth. -/
def jsonMagnitude (n : Nat) (k : Int) : String :=
  let size := (digitCount n : Int) + k
  if 0 ≤ k ∧ size ≤ 16 then toString n ++ zeros k.toNat ++ ".0"
  else if -5 < size ∧ size ≤ 16 then withPoint (-k).toNat n
  else withPoint (digitCount n - 1) n ++ "e" ++ toString (size - 1)

def jsonNumber (x : Float) : String :=
  match decode x with
  | .finite d =>
    signed d.negative <|
      if d.significand = 0 then "0.0"
      else jsonMagnitude (shortestDigits .toEven d).1 (shortestDigits .toEven d).2
  | _ => "null"

def SegmentKind.name : SegmentKind → String
  | .straight => "straight"
  | .spline => "spline"

namespace ItemSummary

def fields (s : ItemSummary Float) : List (String × String) :=
  [("index", toString s.index), ("kind", "\"" ++ s.kind.name ++ "\""),
    ("reached", toString s.reached), ("duration_s", jsonNumber s.duration),
    ("max_track_error_xy_cm", jsonNumber s.maxErrorXY),
    ("max_track_error_z_cm", jsonNumber s.maxErrorZ),
    ("final_distance_cm", jsonNumber s.finalDistance),
    ("final_yaw_cd", jsonNumber s.finalHeading)]

def toJson (s : ItemSummary Float) : String :=
  let lines := s.fields.map fun (name, value) => "    \"" ++ name ++ "\": " ++ value
  "  \x7b\n" ++ ",\n".intercalate lines ++ "\n  \x7d"

def listToJson (ss : List (ItemSummary Float)) : String :=
  if ss.isEmpty then "[]" else "[\n" ++ ",\n".intercalate (ss.map toJson) ++ "\n]"

end ItemSummary

end WaypointFlight
