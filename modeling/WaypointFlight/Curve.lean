import WaypointFlight.Vector

namespace WaypointFlight

variable {α : Type}

@[ext]
structure HermiteCurve (α : Type) where
  c0 : Vec3 α
  c1 : Vec3 α
  c2 : Vec3 α
  c3 : Vec3 α

@[ext]
structure Boundary (α : Type) where
  origin : Vec3 α
  destination : Vec3 α
  originVel : Vec3 α
  destinationVel : Vec3 α

variable [Scalar α]

namespace HermiteCurve

def zero : HermiteCurve α := ⟨.zero, .zero, .zero, .zero⟩

def solve (b : Boundary α) : HermiteCurve α where
  c0 := b.origin
  c1 := b.originVel
  c2 :=
    b.origin * (-3.0 : α) + b.destination * (3.0 : α) - b.originVel * (2.0 : α) - b.destinationVel
  c3 := b.origin * (2.0 : α) - b.destination * (2.0 : α) + b.originVel + b.destinationVel

def position (c : HermiteCurve α) (t : α) : Vec3 α :=
  c.c0 + c.c1 * t + c.c2 * (t * t) + c.c3 * (t * (t * t))

def velocity (c : HermiteCurve α) (t : α) : Vec3 α :=
  c.c1 + c.c2 * (2.0 * t) + c.c3 * (3.0 * (t * t))

end HermiteCurve

end WaypointFlight
