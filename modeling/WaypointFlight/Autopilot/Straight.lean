import WaypointFlight.Autopilot.Basic
import WaypointFlight.Governor
import WaypointFlight.Heading

namespace WaypointFlight

open Scalar

variable {α : Type} [Analytic α]

@[ext]
structure Sight (α : Type) where
  covered : α
  error : Vec3 α

namespace Segment

def sight (s : Segment α) (position : Vec3 α) (offset : α) : Sight α :=
  let delta := position - Vec3.vertical offset - s.origin
  let covered := delta.dot s.direction
  ⟨covered, delta - s.direction * covered⟩

def pointAt (s : Segment α) (distance offset : α) : Vec3 α :=
  s.origin + s.direction * distance + Vec3.vertical offset

end Segment

namespace PositionController

def leashZ (c : PositionController α) (error : α) : α :=
  if 0.0 ≤ error then c.leashUp else c.leashDown

end PositionController

namespace Sight

def errorXY (s : Sight α) : α := Analytic.hypot s.error.north s.error.east

def errorZ (s : Sight α) : α := Scalar.abs s.error.up

/-- The part of the track leash taken up by the error on the worse axis. -/
def taken (s : Sight α) (c : PositionController α) (leash : α) : α :=
  maxNum (Leash.taken leash s.errorZ (c.leashZ s.error.up)) (Leash.taken leash s.errorXY c.leashXY)

end Sight

def Leash.slack (leash taken : α) : α :=
  if taken < leash then safeSqrt (square leash - square taken) else 0.0

@[ext]
structure Approach (α : Type) where
  furthest : α
  /-- The speed of the vehicle along the track. -/
  along : α
  /-- The speed up to which the controller answers linearly. -/
  linear : α
  dt : α

namespace Approach

def AtLimit (v : Approach α) (desired : α) : Prop := v.furthest < desired

instance (v : Approach α) (desired : α) : Decidable (v.AtLimit desired) :=
  inferInstanceAs (Decidable (_ < _))

def Opposed (v : Approach α) : Prop := v.along < -v.linear

instance (v : Approach α) : Decidable v.Opposed := inferInstanceAs (Decidable (_ < _))

def nearVehicle (v : Approach α) (speed : α) : α :=
  if Scalar.abs v.along < v.linear then constrain speed (v.along - v.linear) (v.along + v.linear)
  else speed

end Approach

namespace Navigator

/-- The distance that a target may pass the destination of a fast waypoint. -/
def fastOvershoot : α := 200.0

def distanceLeft (n : Navigator α) : α := n.segment.length - n.track.desired

/-- Is the target slowing down after this advance? Once it does, it goes on. -/
def slowsDown (n : Navigator α) (v : Approach α) : Bool :=
  n.flags.slowingDown ||
    (decide (¬ v.Opposed) && !n.flags.fast &&
      decide (n.distanceLeft ≤ n.track.limits.slowDownDistance))

def rampedSpeed (n : Navigator α) (v : Approach α) : α :=
  if 0.0 < v.dt ∧ ¬ v.AtLimit n.track.desired then
    n.track.limitedSpeed + 2.0 * n.track.limits.accel * v.dt
  else n.track.limitedSpeed

def approachSpeed (n : Navigator α) (v : Approach α) (speed : α) : α :=
  if ¬ n.flags.fast ∧ n.slowsDown v then
    minNum speed (Leash.slowDownSpeed n.distanceLeft n.track.limits.accel)
  else speed

def targetSpeed (n : Navigator α) (v : Approach α) : α :=
  if v.Opposed then 0.0
  else v.nearVehicle
    (n.approachSpeed v (constrain (n.rampedSpeed v) 0.0 n.track.limits.speed))

/-- The progress and speed of a target that moves at a speed as far as the leash allows. A target
that the leash stops loses speed. -/
def pulled (n : Navigator α) (v : Approach α) (speed : α) : α × α :=
  if v.AtLimit n.track.desired then (n.track.desired, speed)
  else
    let desired := n.track.desired + speed * v.dt
    if v.furthest < desired then
      (v.furthest, maxNum (speed - 2.0 * n.track.limits.accel * v.dt) 0.0)
    else (desired, speed)

def trackEnd (n : Navigator α) : α :=
  if n.flags.fast then n.segment.length + fastOvershoot else n.segment.length

def movedTrack (n : Navigator α) (s : Sight α) (v : Approach α) : Track α :=
  let moved := n.pulled v (n.targetSpeed v)
  { n.track with
    desired := constrain moved.1 0.0 n.trackEnd
    limitedSpeed := moved.2
    errorXY := s.errorXY
    errorZ := s.errorZ }

/-- Has the destination been reached by a target that has come so far? An ordinary destination
also needs the vehicle within the radius. -/
def arrives (n : Navigator α) (position : Vec3 α) (offset desired : α) : Bool :=
  decide (n.segment.length ≤ desired) &&
    (n.flags.fast ||
      decide ((position - Vec3.vertical offset - n.segment.destination).norm ≤ n.params.radius))

end Navigator

namespace Autopilot

/-- Puts the navigator on a straight segment, for a known terrain offset. The target starts at the
speed of the vehicle along the track. -/
def beginStraight (a : Autopilot α) (r : Readings α) (origin destination : Vec3 α)
    (aboveTerrain : Bool) (offset : α) : Autopilot α :=
  let segment := Segment.between .straight aboveTerrain origin destination
  let a := { a with navigator.segment := segment }
  let a := a.refreshLimits.point (origin + Vec3.vertical offset)
  { a with
    navigator.track.desired := 0.0
    navigator.track.limitedSpeed :=
      constrain (r.velocity.dot segment.direction) 0.0 a.controller.speedXY
    navigator.heading := none
    navigator.flags.reached := false
    navigator.flags.fast := false
    navigator.flags.slowingDown := false
    navigator.flags.newDestination := true }

/-- Moves a segment whose target has not moved so that it starts at the vehicle. -/
def shiftToVehicle (a : Autopilot α) (r : Readings α) : Autopilot α :=
  if 0.0 < a.navigator.track.desired then a
  else
    let shift := r.position - a.controller.positionTarget
    { a with
      navigator.segment.origin := a.navigator.segment.origin + shift
      navigator.segment.destination := a.navigator.segment.destination + shift
      navigator.track.desired := 0.0
      controller := { a.controller with positionTarget := r.position }.freeze }

def linearSpeed (a : Autopilot α) : α :=
  if IsPositive a.controller.gainXY then a.navigator.track.limits.accel / a.controller.gainXY
  else a.controller.speedXY

def approach (a : Autopilot α) (r : Readings α) (s : Sight α) (dt : α) : Approach α :=
  let leash := a.navigator.track.limits.leash
  { furthest := s.covered + Leash.slack leash (s.taken a.controller leash)
    along := r.velocity.dot a.navigator.segment.direction
    linear := a.linearSpeed
    dt }

def advanceStraight (a : Autopilot α) (r : Readings α) (dt offset : α) : Autopilot α :=
  let n := a.navigator
  let sight := n.segment.sight r.position offset
  let v := a.approach r sight dt
  let track := n.movedTrack sight v
  let target := n.segment.pointAt track.desired offset
  let heading := Heading.onStraight n.segment.lengthXY a.controller.leashXY n.segment.origin
    n.segment.destination target r.position
  { a.point target with
    navigator := Navigator.choose
      { n with
        track
        flags.slowingDown := n.slowsDown v
        flags.reached := n.flags.reached || n.arrives r.position offset track.desired }
      heading }

def tryAdvanceStraight (a : Autopilot α) (r : Readings α) (dt : α) : Outcome α :=
  match a.offsetFor r a.navigator.segment.aboveTerrain with
  | .ok offset => .done (a.advanceStraight r dt offset) []
  | .error f => .noTerrain a f

def pushAccels (a : Autopilot α) : Autopilot α :=
  { a with
    controller := (a.controller.limitAccelXY a.navigator.params.accel).limitAccelZ
      a.navigator.params.accelZ }

def governedSpeed (a : Autopilot α) (dt : α) : Option α :=
  Governor.step a.controller.speedXY a.navigator.requestedSpeed a.navigator.params.accel dt

/-- One tick on a straight segment. The controller runs also where the target stays; the limits
follow it last, so that they are those of its own update. -/
def tickStraight (a : Autopilot α) (r : Readings α) : Outcome α :=
  let dt := a.controller.period
  let a := a.pushAccels
  let o := (a.govern (a.governedSpeed dt)).tryAdvanceStraight r dt
  o.map fun a => (a.finishTick r.now).refreshStaleLimits

end Autopilot

end WaypointFlight
