import WaypointFlight.Autopilot.Straight
import WaypointFlight.Curve.Boundary

namespace WaypointFlight

open Scalar

variable {α : Type}

inductive SegmentEnd (π : Type) where
  | stop
  | straight (next : π)
  | spline (next : π)
  deriving DecidableEq, Repr

def SegmentEnd.tryMap {π ρ ε : Type} (f : π → Except ε ρ) :
    SegmentEnd π → Except ε (SegmentEnd ρ)
  | .stop => .ok .stop
  | .straight next => return .straight (← f next)
  | .spline next => return .spline (← f next)

@[ext]
structure Join (α : Type) where
  originVel : Vec3 α
  time : α
  speed : α

structure SplineRequest (α : Type) where
  origin : Vec3 α
  destination : Vec3 α
  aboveTerrain : Bool
  stoppedAtStart : Bool
  following : SegmentEnd (Vec3 α)

variable [Analytic α]

namespace SegmentEnd

/-- The velocity at the destination. Before a stop it is a small vector along the segment, before
a straight segment the direction of that, before a spline the chord to its destination. -/
def velocity (following : SegmentEnd (Vec3 α)) (origin destination : Vec3 α) (dt : α) : Vec3 α :=
  match following with
  | .stop => (destination - origin) * dt
  | .straight next => next - destination
  | .spline next => next - origin

def isFast {π : Type} : SegmentEnd π → Bool
  | .stop => false
  | _ => true

end SegmentEnd

namespace SplineTrack

/-- A small overshoot of the curve parameter is carried into the next spline. -/
def carriedTime (t overshoot : α) : α :=
  if 1.0 < t ∧ t < overshoot then t - 1.0 else 0.0

end SplineTrack

namespace Autopilot

def CanJoin (a : Autopilot α) (now : Nat) : Prop :=
  a.navigator.flags.reached ∧ a.navigator.isActive now

instance (a : Autopilot α) (now : Nat) : Decidable (a.CanJoin now) :=
  inferInstanceAs (Decidable (_ ∧ _))

/-- From rest the spline starts with a small velocity along the segment, after a straight segment
with the direction of that, after a spline with the velocity at its destination. -/
def join (a : Autopilot α) (now : Nat) (q : SplineRequest α) : Join α :=
  let n := a.navigator
  if q.stoppedAtStart = true ∨ ¬ a.CanJoin now then
    ⟨(q.destination - q.origin) * a.controller.period, 0.0, 0.0⟩
  else
    match n.segment.kind with
    | .straight => ⟨n.segment.destination - n.segment.origin, 0.0, a.controller.velocityTarget.norm⟩
    | .spline =>
      ⟨n.spline.destinationVel,
        SplineTrack.carriedTime n.spline.time n.params.splineOvershoot, n.spline.speed⟩

/-- The spline track of a request. Only the curve sees the shortened velocities. -/
def joinedSpline (a : Autopilot α) (now : Nat) (q : SplineRequest α) : SplineTrack α :=
  let j := a.join now q
  let b : Boundary α :=
    { origin := q.origin
      destination := q.destination
      originVel := j.originVel
      destinationVel := q.following.velocity q.origin q.destination a.controller.period }
  { a.navigator.spline with
    originVel := b.originVel
    destinationVel := b.destinationVel
    curve := .solve b.scaled
    time := j.time
    speed := j.speed }

def beginSpline (a : Autopilot α) (now : Nat) (q : SplineRequest α) (offset : α) : Autopilot α :=
  let a := a.repairAccel
  { a.point (q.origin + Vec3.vertical offset) with
    navigator := { a.navigator with
      spline := a.joinedSpline now q
      segment := .between .spline q.aboveTerrain q.origin q.destination
      heading := none
      track.limits.slowDownDistance :=
        Leash.slowDownDistance a.controller.speedXY a.navigator.params.accel
      flags.fast := q.following.isFast
      flags.reached := false
      flags.newDestination := true } }

/-- The speed limit of the target: within one tick it may use up the slack of the leash. -/
def splineSpeedLimit (a : Autopilot α) (slack dt : α) : α :=
  if IsZero dt then a.controller.speedXY else minNum a.controller.speedXY (slack / dt)

def splineSlack (a : Autopilot α) (s : Sight α) : α :=
  let leash := a.navigator.track.limits.leash
  maxNum
    (minNum (leash * Leash.fractionLeft s.errorZ (a.controller.leashZ s.error.up))
      (leash * Leash.fractionLeft s.errorXY a.controller.leashXY))
    0.0

/-- The speed of the target before the limit: on approach to a stop it follows the law of slowing
down, otherwise it ramps up. -/
def splineRampedSpeed (a : Autopilot α) (distance limit dt : α) : α :=
  let n := a.navigator
  if ¬ n.flags.fast ∧ distance < n.track.limits.slowDownDistance then
    Leash.slowDownSpeed distance n.params.accel
  else if n.spline.speed < limit then n.spline.speed + n.params.accel * dt
  else n.spline.speed

def advanceSplineFrom (a : Autopilot α) (r : Readings α) (dt offset : α)
    (target velocity : Vec3 α) : Autopilot α :=
  let n := a.navigator
  let delta := r.position - target
  let sight : Sight α := ⟨0.0, { delta with up := delta.up - offset }⟩
  let limit := a.splineSpeedLimit (a.splineSlack sight) dt
  let distance := (n.segment.destination - target).norm
  let speed := constrain (a.splineRampedSpeed distance limit dt) 0.0 limit
  let timeScale := speed / velocity.norm
  let time := n.spline.time + timeScale * dt
  let heading := Heading.onSpline n.segment.lengthXY a.controller.leashXY velocity sight.error
  { a.point { target with up := target.up + offset } with
    navigator := Navigator.choose
      { n with
        track.errorXY := sight.errorXY
        track.errorZ := sight.errorZ
        spline.speed := speed
        spline.timeScale := timeScale
        spline.time := time
        flags.reached := n.flags.reached || decide (1.0 ≤ time) }
      heading }

def turnTo (a : Autopilot α) (velocity : Vec3 α) : Autopilot α :=
  refreshLimits { a with navigator.segment.direction := velocity / velocity.norm }

/-- A curve that stands still cannot be followed: its destination counts as reached. -/
def arriveOnSpline (a : Autopilot α) : Autopilot α :=
  { a with navigator.flags.reached := true }

def tryAdvanceSpline (a : Autopilot α) (r : Readings α) (dt : α) : Outcome α :=
  let spline := a.navigator.spline
  let velocity := spline.curve.velocity spline.time
  if a.navigator.flags.reached then .done a []
  else if IsZero velocity.norm then .done a.arriveOnSpline []
  else
    let turned := a.turnTo velocity
    match turned.offsetFor r a.navigator.segment.aboveTerrain with
    | .ok offset =>
      .done (turned.advanceSplineFrom r dt offset (spline.curve.position spline.time) velocity) []
    | .error f => .noTerrain turned f

def tickSpline (a : Autopilot α) (r : Readings α) : Outcome α :=
  match a.navigator.segment.kind with
  | .straight => ⟨some (.error .notSpline), a, []⟩
  | .spline =>
    let dt := a.controller.period
    let o := (a.govern (a.governedSpeed dt)).tryAdvanceSpline r dt
    o.map fun a => a.finishTick r.now

end Autopilot

end WaypointFlight
