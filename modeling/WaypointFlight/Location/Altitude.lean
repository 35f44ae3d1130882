import WaypointFlight.Location.Plane

namespace WaypointFlight.Location

variable {α : Type} [Analytic α]

def checked {ε β : Type} (x : Except Overflow β) : Except (Fault ε) β :=
  x.mapError .overflow

def groundFor (l : Location) (target : AltitudeFrame) (terrain : Elevation α) :
    Except (Fault LocationError) Int32 :=
  match terrain l with
  | some ground => .ok (nearestWord ground)
  | none => .error (.error (.noTerrainData l.frame target))

/-- The altitude in another frame, by way of the one above mean sea level. An altitude that is in
the frame already needs no conversion. -/
def altitudeIn (l : Location) (target : AltitudeFrame) (origin : Location)
    (terrain : Elevation α) : Except (Fault LocationError) Int32 :=
  if target = l.frame then .ok l.altitude
  else do
    let absolute ←
      match l.frame with
      | .absolute => .ok l.altitude
      | .aboveOrigin => checked (checkedAdd l.altitude origin.altitude)
      | .aboveTerrain => do checked (checkedAdd l.altitude (← l.groundFor target terrain))
    match target with
    | .absolute => .ok absolute
    | .aboveOrigin => checked (checkedSub absolute origin.altitude)
    | .aboveTerrain => do checked (checkedSub absolute (← l.groundFor target terrain))

def inFrame (l : Location) (target : AltitudeFrame) (origin : Location) (terrain : Elevation α) :
    Except (Fault LocationError) Location := do
  return { l with altitude := ← l.altitudeIn target origin terrain, frame := target }

/-- The location after its altitude was to be moved to another frame. A conversion that fails
changes nothing. -/
def changeFrame (l : Location) (target : AltitudeFrame) (origin : Location)
    (terrain : Elevation α) : Location × Option (Fault LocationError) :=
  match l.inFrame target origin terrain with
  | .ok moved => (moved, none)
  | .error f => (l, some f)

/-- The vector from the world origin in centimetres, and whether its height is one above the
ground. -/
def vectorNEU (l : Location) (origin : Option Location) :
    Except (Fault LocationError) (Vec3 α × Bool) :=
  match origin with
  | none => .error (.error .noOrigin)
  | some origin => do
    let ground ← checked (l.vectorFrom origin)
    match l.frame with
    | .aboveTerrain => return (⟨ground.north, ground.east, Analytic.ofInt l.altitude.toInt⟩, true)
    | _ =>
      let altitude ← l.altitudeIn .aboveOrigin origin (Elevation.unknown (α := α))
      return (⟨ground.north, ground.east, Analytic.ofInt altitude.toInt⟩, false)

end WaypointFlight.Location
