import WaypointFlight.Scalar.Basic

namespace WaypointFlight.Scalar

variable {α : Type} [Scalar α]

/-- The distance to zero below which a value counts as zero: the spacing of binary32 at one. -/
def tolerance : α := 1.1920928955078125e-7

def IsZero (x : α) : Prop := abs x < tolerance

def IsPositive (x : α) : Prop := tolerance ≤ x

def IsEqual (x y : α) : Prop := IsZero (x - y)

instance (x : α) : Decidable (IsZero x) := inferInstanceAs (Decidable (_ < _))

instance (x : α) : Decidable (IsPositive x) := inferInstanceAs (Decidable (_ ≤ _))

instance (x y : α) : Decidable (IsEqual x y) := inferInstanceAs (Decidable (IsZero _))

/-- The value moved into the range from `lo` to `hi`. What is not a number becomes the middle of
the range, so that it cannot spread. -/
def constrain (x lo hi : α) : α :=
  if isNaN x then (lo + hi) / (1.0 + 1.0)
  else if hi < x then hi
  else if x < lo then lo
  else x

/-- The square root, and zero where there is none. -/
def safeSqrt (x : α) : α :=
  if isNaN (sqrt x) then 0.0 else sqrt x

end WaypointFlight.Scalar
