import WaypointFlight.Autopilot.Command
import WaypointFlight.Simulation.Ground

namespace WaypointFlight

variable {α : Type}

@[ext]
structure SimParams (α : Type) where
  /-- The control period in seconds. -/
  period : α
  gainXY : α
  gainZ : α
  /-- In hundredths of a degree. -/
  leanLimit : α
  origin : Location
  groundAltitude : α
  rangeFinderAvailable : Bool

/-- A point mass over flat ground that moves at the velocity its controller demands. The clock
counts milliseconds. -/
@[ext]
structure Simulation (α : Type) where
  position : Vec3 α
  velocity : Vec3 α
  attitude : Attitude α
  ground : Ground α
  now : Nat
  autopilot : Autopilot α

variable [Analytic α]

def SimParams.standard : SimParams α where
  period := 0.01
  gainXY := 1.0
  gainZ := 1.0
  leanLimit := 3000.0
  origin := ⟨-353632620, 1491652370, 58400, .absolute⟩
  groundAltitude := 0.0
  rangeFinderAvailable := false

namespace Params

def warnings (p : Params α) (lean : α) : List (Warning α) :=
  if p.ExceedsLean lean then [.accelCapped p.accel (leanAccel lean)] else []

end Params

namespace Simulation

def startTime : Nat := 1000

def create (s : SimParams α) (p : Params α) (position : Vec3 α) : Simulation α where
  position := position
  velocity := .zero
  attitude := ⟨some s.origin, 0.0, s.leanLimit⟩
  ground :=
    { altitude := s.groundAltitude
      databaseAvailable := true
      databaseBias := 0.0
      rangeFinderAvailable := s.rangeFinderAvailable
      rangeFinderHealthy := true
      originAltitude := Analytic.ofInt s.origin.altitude.toInt
      vehicleAltitude := position.up }
  now := startTime
  autopilot :=
    { navigator := .create p s.leanLimit
      controller := .create s.period s.gainXY s.gainZ position
      saved := [] }

def readings (s : Simulation α) : Readings α where
  now := s.now
  position := s.position
  velocity := s.velocity
  altitude := s.position.up
  attitude := s.attitude
  database := s.ground.database
  rangeFinder := s.ground.rangeReading

def sync (s : Simulation α) : Simulation α :=
  { s with
    autopilot.controller.vehiclePosition := s.position
    autopilot.controller.vehicleVelocity := s.velocity
    ground.vehicleAltitude := s.position.up }

def wait (s : Simulation α) (ms : Nat) : Except Overflow (Simulation α) :=
  if WordRange.unsigned64.Contains (s.now + ms) then .ok { s with now := s.now + ms }
  else .error .addition

def milliseconds (period : α) : Nat :=
  (Analytic.toWord .unsigned64 (Analytic.round (period * 1000.0))).toNat

def move (s : Simulation α) : Simulation α :=
  let velocity := s.autopilot.controller.velocityTarget
  sync { s with velocity, position := s.position + velocity * s.autopilot.controller.period }

def step (s : Simulation α) : Except Overflow (Simulation α) :=
  s.move.wait (milliseconds s.autopilot.controller.period)

def commandWith (s : Simulation α) (r : Readings α) (c : Command α) : Simulation α × Outcome α :=
  let o := c.run r s.autopilot
  ({ s with autopilot := o.state }, o)

def command (s : Simulation α) (c : Command α) : Simulation α × Outcome α :=
  s.commandWith s.readings c

end Simulation

end WaypointFlight
