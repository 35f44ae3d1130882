import WaypointFlight.Location.Basic
import WaypointFlight.Overflow
import WaypointFlight.Scalar.Basic
import WaypointFlight.Vector

namespace WaypointFlight

open Scalar

def halfTurn : Int := 1800000000

def fullTurn : Int := 3600000000

/-- A difference of two longitudes, taken the short way around the earth. -/
def shortWay (d : Int) : Int :=
  if halfTurn < d then d - fullTurn
  else if d < -halfTurn then d + fullTurn
  else d

namespace Location

variable {α : Type} [Analytic α]

/-- Metres in a ten-millionth of a degree of latitude. -/
def metresPerUnit : α := 0.011131884502145034

def unitsPerMetre : α := 89.83204953368922

/-- The length of a degree of longitude relative to one of latitude, kept away from zero at the
poles. -/
def longitudeScale (latitude : Int32) : α :=
  maxNum (Analytic.cos (Analytic.ofInt latitude.toInt * 1.0e-7 * Analytic.radiansPerDegree)) 0.01

def nearestWord (x : α) : Int32 :=
  Int32.ofInt (Analytic.toWord .signed32 (Analytic.round x))

def vectorFrom (l origin : Location) : Except Overflow (Vec2 α) := do
  let north ← checkedSub l.latitude origin.latitude
  let east := shortWay (l.longitude.toInt - origin.longitude.toInt)
  return {
    north := Analytic.ofInt north.toInt * metresPerUnit * 100.0
    east := Analytic.ofInt east * metresPerUnit * longitudeScale origin.latitude * 100.0 }

/-- The latitude some metres to the north. It stays within a word, and passes the pole. -/
def latitudeAt (l : Location) (north : α) : Int32 :=
  nearestWord (Analytic.ofInt l.latitude.toInt + north * unitsPerMetre)

def longitudeStep (l : Location) (east : α) : Int :=
  Analytic.toWord .signed64
    (Analytic.round (east * unitsPerMetre / longitudeScale l.latitude))

/-- The longitude some metres to the east, brought back by one turn where it has left the range. -/
def longitudeAt (l : Location) (east : α) : Except Overflow Int32 :=
  let sum := l.longitude.toInt + l.longitudeStep east
  if WordRange.signed64.Contains sum then .ok (Int32.ofInt (shortWay sum)) else .error .addition

/-- The location after a move on the ground, in metres. The latitude has moved even where the
longitude overflows. -/
def offset (l : Location) (north east : α) : Location × Option Overflow :=
  let moved := { l with latitude := l.latitudeAt north }
  match l.longitudeAt east with
  | .ok longitude => ({ moved with longitude }, none)
  | .error o => (moved, some o)

def offset? (l : Location) (north east : α) : Except Overflow Location :=
  match l.offset north east with
  | (moved, none) => .ok moved
  | (_, some o) => .error o

end Location

end WaypointFlight
