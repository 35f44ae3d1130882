import WaypointFlight.Curve
import WaypointFlight.Leash.TrackLimits
import WaypointFlight.Params
import WaypointFlight.Scalar.Turn

namespace WaypointFlight

open Scalar

variable {α : Type}

inductive SegmentKind where
  | straight
  | spline
  deriving DecidableEq, Repr

/-- A segment from its origin to its destination, in centimetres from the world origin. With
`aboveTerrain` both heights are heights above the ground. -/
@[ext]
structure Segment (α : Type) where
  origin : Vec3 α
  destination : Vec3 α
  /-- The direction of travel, of length one; zero for a straight segment without length. -/
  direction : Vec3 α
  length : α
  lengthXY : α
  kind : SegmentKind
  aboveTerrain : Bool

/-- The target on a straight segment: its distance along the track and its speed. The limits and
errors are shared with splines. -/
@[ext]
structure Track (α : Type) where
  desired : α
  limitedSpeed : α
  limits : TrackLimits α
  errorXY : α
  errorZ : α

/-- The target on a spline. The next spline continues from the velocities as they were asked for,
which the curve may have had to shorten. -/
@[ext]
structure SplineTrack (α : Type) where
  originVel : Vec3 α
  destinationVel : Vec3 α
  curve : HermiteCurve α
  /-- The curve parameter of the target: one at the destination. -/
  time : α
  speed : α
  timeScale : α

structure Flags where
  reached : Bool
  /-- The destination is flown through, without a radius of arrival. -/
  fast : Bool
  slowingDown : Bool
  /-- The track limits have to be computed again after the next controller update. -/
  limitsStale : Bool
  newDestination : Bool
  deriving DecidableEq, Repr

@[ext]
structure Navigator (α : Type) where
  params : Params α
  requestedSpeed : α
  segment : Segment α
  track : Track α
  spline : SplineTrack α
  heading : Option α
  flags : Flags
  lastTick : Option Nat

variable [Analytic α]

namespace Segment

def initial : Segment α := ⟨.zero, .zero, .zero, 0.0, 0.0, .straight, false⟩

def directionOf (v : Vec3 α) : Vec3 α :=
  if IsZero v.norm then .zero else v / v.norm

def between (kind : SegmentKind) (aboveTerrain : Bool) (origin destination : Vec3 α) : Segment α :=
  let chord := destination - origin
  { origin, destination, kind, aboveTerrain
    direction := directionOf chord
    length := chord.norm
    lengthXY := Analytic.hypot chord.north chord.east }

end Segment

namespace Navigator

def activeWithin : Nat := 1000

def isActive (n : Navigator α) (now : Nat) : Bool :=
  n.lastTick.any fun t => now - t < activeWithin

def create (params : Params α) (lean : α) : Navigator α where
  params := params.within lean
  requestedSpeed := params.speed
  segment := .initial
  track := ⟨0.0, 0.0, .initial, 0.0, 0.0⟩
  spline := ⟨.zero, .zero, .zero, 0.0, 0.0, 0.0⟩
  heading := none
  flags := ⟨false, false, false, false, false⟩
  lastTick := none

def headingOr (n : Navigator α) (fallback : α) : α := n.heading.getD fallback

def choose (n : Navigator α) (heading : Option α) : Navigator α :=
  match heading with
  | some h => { n with heading := some (wrapTurn h) }
  | none => n

end Navigator

end WaypointFlight
