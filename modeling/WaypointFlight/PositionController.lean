import WaypointFlight.Leash.TrackLimits

namespace WaypointFlight

open Scalar

variable {α : Type}

/-- Lengths in centimetres, speeds in centimetres per second. The descent speed is negative. The
leashes are computed when they are next needed: a changed limit marks them stale. The counts of
updates and freezes are unbounded: that a word of 64 bits overflows after `2 ^ 64` calls is left
out. -/
@[ext]
structure PositionController (α : Type) where
  period : α
  gainXY : α
  gainZ : α
  positionTarget : Vec3 α
  velocityTarget : Vec3 α
  speedXY : α
  accelXY : α
  speedUp : α
  speedDown : α
  accelZ : α
  leashXY : α
  leashUp : α
  leashDown : α
  staleXY : Bool
  staleZ : Bool
  updates : Nat
  freezes : Nat
  vehiclePosition : Vec3 α
  vehicleVelocity : Vec3 α

namespace PositionController

variable [Scalar α]

/-- A limit changes only by more than the spacing of binary64 at one. -/
def Differs (x y : α) : Prop := 2.220446049250313080847263336181640625e-16 < Scalar.abs (x - y)

instance (x y : α) : Decidable (Differs x y) := inferInstanceAs (Decidable (_ < _))

def limitSpeedXY (c : PositionController α) (speed : α) : PositionController α :=
  if Differs c.speedXY speed then { c with speedXY := speed, staleXY := true } else c

def limitAccelXY (c : PositionController α) (accel : α) : PositionController α :=
  if Differs c.accelXY accel then { c with accelXY := accel, staleXY := true } else c

/-- The vertical speed limits. The descent speed is made negative, whatever its sign. -/
def limitSpeedZ (c : PositionController α) (down up : α) : PositionController α :=
  if Differs c.speedUp up ∨ Differs c.speedDown (-Scalar.abs down) then
    { c with speedUp := up, speedDown := -Scalar.abs down, staleZ := true }
  else c

def limitAccelZ (c : PositionController α) (accel : α) : PositionController α :=
  if Differs c.accelZ accel then { c with accelZ := accel, staleZ := true } else c

def refreshLeashXY (c : PositionController α) : PositionController α :=
  { c with leashXY := Leash.length c.speedXY c.accelXY c.gainXY, staleXY := false }

def refreshLeashZ (c : PositionController α) : PositionController α :=
  { c with
    leashUp := Leash.length c.speedUp c.accelZ c.gainZ
    leashDown := Leash.length (-c.speedDown) c.accelZ c.gainZ
    staleZ := false }

def refreshStale (c : PositionController α) : PositionController α :=
  let c := if c.staleXY then c.refreshLeashXY else c
  if c.staleZ then c.refreshLeashZ else c

def create (period gainXY gainZ : α) (position : Vec3 α) : PositionController α :=
  refreshLeashZ <| refreshLeashXY
    { period, gainXY, gainZ
      positionTarget := position
      velocityTarget := .zero
      speedXY := 500.0
      accelXY := 100.0
      speedUp := 250.0
      speedDown := -150.0
      accelZ := 100.0
      leashXY := Leash.shortest
      leashUp := Leash.shortest
      leashDown := Leash.shortest
      staleXY := false
      staleZ := false
      updates := 0
      freezes := 0
      vehiclePosition := position
      vehicleVelocity := .zero }

def stoppingPointXY (c : PositionController α) : Vec2 α :=
  let position := c.vehiclePosition.horizontal
  let velocity := c.vehicleVelocity.horizontal
  if c.accelXY ≤ 0.0 then position
  else position + velocity * (velocity.norm / (2.0 * c.accelXY))

def stoppingAltitude (c : PositionController α) : α :=
  let speed := c.vehicleVelocity.up
  if c.accelZ ≤ 0.0 then c.vehiclePosition.up
  else c.vehiclePosition.up + speed * Scalar.abs speed / (2.0 * c.accelZ)

def stoppingPoint (c : PositionController α) : Vec3 α :=
  ⟨c.stoppingPointXY.north, c.stoppingPointXY.east, c.stoppingAltitude⟩

def reset (c : PositionController α) : PositionController α :=
  { c with positionTarget := c.vehiclePosition, velocityTarget := c.vehicleVelocity }

def setVelocityXY (c : PositionController α) (v : Vec2 α) : PositionController α :=
  { c with velocityTarget := ⟨v.north, v.east, c.velocityTarget.up⟩ }

def freeze (c : PositionController α) : PositionController α :=
  { c with freezes := c.freezes + 1 }

def saturated (c : PositionController α) (v : Vec2 α) : Vec2 α :=
  if c.speedXY < v.norm ∧ 0.0 < v.norm then v * (c.speedXY / v.norm) else v

def demand (c : PositionController α) (error : Vec3 α) : Vec3 α :=
  let v := c.saturated (error.horizontal * c.gainXY)
  ⟨v.north, v.east, minNum (maxNum (error.up * c.gainZ) c.speedDown) c.speedUp⟩

def update (c : PositionController α) : PositionController α :=
  let c := c.refreshStale
  { c with
    velocityTarget := c.demand (c.positionTarget - c.vehiclePosition)
    updates := c.updates + 1 }

def axisLimits (c : PositionController α) (accelXY accelZ : α) : AxisLimits α where
  speedXY := c.speedXY
  speedUp := c.speedUp
  speedDown := Scalar.abs c.speedDown
  accelXY := accelXY
  accelZ := accelZ
  leashXY := c.leashXY
  leashUp := c.leashUp
  leashDown := c.leashDown

end PositionController

end WaypointFlight
