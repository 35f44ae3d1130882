import WaypointFlight.Scalar.Basic

namespace WaypointFlight

variable {α : Type}

@[ext]
structure Vec2 (α : Type) where
  north : α
  east : α

@[ext]
structure Vec3 (α : Type) where
  north : α
  east : α
  up : α

variable [Scalar α]

namespace Vec2

instance : Add (Vec2 α) := ⟨fun u v => ⟨u.north + v.north, u.east + v.east⟩⟩

instance : HMul (Vec2 α) α (Vec2 α) := ⟨fun v s => ⟨v.north * s, v.east * s⟩⟩

def zero : Vec2 α := ⟨0.0, 0.0⟩

def norm (v : Vec2 α) : α := Scalar.sqrt (v.north * v.north + v.east * v.east)

end Vec2

namespace Vec3

instance : Add (Vec3 α) := ⟨fun u v => ⟨u.north + v.north, u.east + v.east, u.up + v.up⟩⟩

instance : Sub (Vec3 α) := ⟨fun u v => ⟨u.north - v.north, u.east - v.east, u.up - v.up⟩⟩

instance : HMul (Vec3 α) α (Vec3 α) := ⟨fun v s => ⟨v.north * s, v.east * s, v.up * s⟩⟩

instance : HDiv (Vec3 α) α (Vec3 α) := ⟨fun v s => ⟨v.north / s, v.east / s, v.up / s⟩⟩

def zero : Vec3 α := ⟨0.0, 0.0, 0.0⟩

def vertical (z : α) : Vec3 α := ⟨0.0, 0.0, z⟩

def horizontal (v : Vec3 α) : Vec2 α := ⟨v.north, v.east⟩

def dot (u v : Vec3 α) : α := u.north * v.north + u.east * v.east + u.up * v.up

def norm (v : Vec3 α) : α := Scalar.sqrt (v.dot v)

end Vec3

end WaypointFlight
