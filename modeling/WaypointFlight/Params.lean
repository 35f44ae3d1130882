import WaypointFlight.Scalar.Tolerance

namespace WaypointFlight

/-- Speeds in centimetres per second, accelerations in centimetres per second squared, the radius
of arrival in centimetres. A curve parameter between one and `splineOvershoot` at the end of a
spline is carried into the next. -/
@[ext]
structure Params (α : Type) where
  speed : α
  radius : α
  speedUp : α
  speedDown : α
  accel : α
  accelZ : α
  useRangeFinder : Bool
  splineOvershoot : α

namespace Params

variable {α : Type}

def standard [Scalar α] : Params α where
  speed := 500.0
  radius := 200.0
  speedUp := 250.0
  speedDown := 150.0
  accel := 100.0
  accelZ := 100.0
  useRangeFinder := true
  splineOvershoot := 1.1

variable [Analytic α]

/-- The acceleration in place of one that cannot be flown. -/
def standardAccel : α := 100.0

def smallestRadius : α := 5.0

def leanAccel (angle : α) : α :=
  9.80665 * 100.0 * Analytic.tan (angle * 0.01 * Analytic.radiansPerDegree)

def ExceedsLean (p : Params α) (lean : α) : Prop := leanAccel lean < p.accel

instance (p : Params α) (lean : α) : Decidable (p.ExceedsLean lean) :=
  inferInstanceAs (Decidable (_ < _))

theorem exceedsLean_iff {p : Params α} {lean : α} : p.ExceedsLean lean ↔ leanAccel lean < p.accel :=
  Iff.rfl

def within (p : Params α) (lean : α) : Params α :=
  { p with
    accel := if p.ExceedsLean lean then leanAccel lean else p.accel
    radius := Scalar.maxNum p.radius smallestRadius }

end Params

end WaypointFlight
