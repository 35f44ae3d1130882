import WaypointFlight.Location.Altitude
import WaypointFlight.Navigator
import WaypointFlight.PositionController
import WaypointFlight.Terrain

namespace WaypointFlight

variable {α : Type}

@[ext]
structure Attitude (α : Type) where
  origin : Option Location
  heading : α
  leanLimit : α

/-- What one call reads. The time is in milliseconds. -/
structure Readings (α : Type) where
  now : Nat
  position : Vec3 α
  velocity : Vec3 α
  altitude : α
  attitude : Attitude α
  database : TerrainDatabase α
  rangeFinder : Option (RangeReading α)

inductive NavigationError where
  | terrainUnavailable
  | location (e : LocationError)
  | notSpline
  deriving DecidableEq, Repr

def NavigationError.message : NavigationError → String
  | .terrainUnavailable => "Terrain offset unavailable, no healthy range finder or terrain data"
  | .location e => "Could not convert location: " ++ e.message
  | .notSpline => "Attempted to update the spline controller on a straight segment"

inductive Warning (α : Type) where
  | accelCapped (configured cap : α)
  | accelInvalid (configured : α)
  | terrain (f : TerrainFault)

/-- A navigator with the position controller it drives and the parameters it has saved. -/
@[ext]
structure Autopilot (α : Type) where
  navigator : Navigator α
  controller : PositionController α
  saved : List (String × α)

/-- A call that fails has a state and warnings too. -/
structure Outcome (α : Type) where
  fault : Option (Fault NavigationError)
  state : Autopilot α
  warnings : List (Warning α)

namespace Outcome

def done (a : Autopilot α) (warnings : List (Warning α)) : Outcome α := ⟨none, a, warnings⟩

def noTerrain (a : Autopilot α) (f : TerrainFault) : Outcome α :=
  ⟨some (.error .terrainUnavailable), a, [.terrain f]⟩

def badLocation (a : Autopilot α) (f : Fault LocationError) : Outcome α :=
  ⟨some (f.map .location), a, []⟩

def map (f : Autopilot α → Autopilot α) (o : Outcome α) : Outcome α :=
  { o with state := f o.state }

end Outcome

namespace Autopilot

variable [Analytic α]

def offsetFor (a : Autopilot α) (r : Readings α) (aboveTerrain : Bool) : Except TerrainFault α :=
  if aboveTerrain then
    terrainOffset r.altitude (if a.navigator.params.useRangeFinder then r.rangeFinder else none)
      r.database
  else .ok 0.0

def trackLimits (a : Autopilot α) : TrackLimits α :=
  .along a.navigator.segment.direction
    (a.controller.axisLimits a.navigator.params.accel a.navigator.params.accelZ)

def refreshLimits (a : Autopilot α) : Autopilot α :=
  { a with
    navigator.track.limits := a.trackLimits
    navigator.flags.limitsStale := false }

def refreshStaleLimits (a : Autopilot α) : Autopilot α :=
  if a.navigator.flags.limitsStale then a.refreshLimits else a

def govern (a : Autopilot α) (speed : Option α) : Autopilot α :=
  match speed with
  | some speed =>
    { a with
      controller := a.controller.limitSpeedXY speed
      navigator.flags.limitsStale := true }
  | none => a

def point (a : Autopilot α) (target : Vec3 α) : Autopilot α :=
  { a with controller.positionTarget := target }

def accelName : String := "accel_cmss"

def repairAccel (a : Autopilot α) : Autopilot α :=
  if a.navigator.params.accel ≤ 0.0 then
    { a with
      navigator.params.accel := Params.standardAccel
      saved := a.saved ++ [(accelName, Params.standardAccel)] }
  else a

def repairWarnings (a : Autopilot α) : List (Warning α) :=
  if a.navigator.params.accel ≤ 0.0 then [.accelInvalid a.navigator.params.accel] else []

/-- Where a new segment starts: at the target while the navigator is active, so that segments
join up, otherwise where the vehicle would stop. -/
def defaultOrigin (a : Autopilot α) (now : Nat) : Vec3 α :=
  if a.navigator.isActive now then a.controller.positionTarget else a.controller.stoppingPoint

def startedController (c : PositionController α) (p : Params α) : PositionController α :=
  c.reset.setVelocityXY .zero
    |>.limitSpeedXY p.speed
    |>.limitAccelXY p.accel
    |>.limitSpeedZ (-p.speedDown) p.speedUp
    |>.limitAccelZ p.accelZ
    |>.refreshLeashXY
    |>.refreshLeashZ

def start (a : Autopilot α) : Outcome α :=
  let repaired := a.repairAccel
  .done
    { repaired with
      controller := startedController repaired.controller repaired.navigator.params
      navigator.requestedSpeed := repaired.navigator.params.speed
      navigator.heading := none }
    a.repairWarnings

def slowestRequest : α := 20.0

def requestSpeed (a : Autopilot α) (speed : α) : Autopilot α :=
  if slowestRequest ≤ speed then { a with navigator.requestedSpeed := speed } else a

def setSpeedUp (a : Autopilot α) (speed : α) : Autopilot α :=
  { a with
    controller := a.controller.limitSpeedZ a.controller.speedDown speed
    navigator.flags.limitsStale := true }

/-- Descent speeds are negative. -/
def setSpeedDown (a : Autopilot α) (speed : α) : Autopilot α :=
  { a with
    controller := a.controller.limitSpeedZ speed a.controller.speedUp
    navigator.flags.limitsStale := true }

def setFast (a : Autopilot α) (fast : Bool) : Autopilot α :=
  { a with navigator.flags.fast := fast }

/-- The vertical feed-forward is frozen once after each new destination. -/
def freezeIfNew (a : Autopilot α) : Autopilot α :=
  if a.navigator.flags.newDestination then
    { a with
      controller := a.controller.freeze
      navigator.flags.newDestination := false }
  else a

/-- The end of every tick, also of one whose target could not be advanced. -/
def finishTick (a : Autopilot α) (now : Nat) : Autopilot α :=
  let a := a.freezeIfNew
  { a with
    controller := a.controller.update
    navigator.lastTick := some now }

end Autopilot

end WaypointFlight
