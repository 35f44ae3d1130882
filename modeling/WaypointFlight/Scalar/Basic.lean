import WaypointFlight.Word

namespace WaypointFlight

/-- Ordered arithmetic with a square root, and with a value that stands for "no number". Every law
of flight is stated for any such number system. Literals are decimal fractions, which each of them
reads by its own rounding. -/
class Scalar (α : Type) extends Add α, Sub α, Mul α, Div α, Neg α, LT α, LE α, OfScientific α where
  decideLT (x y : α) : Decidable (x < y)
  decideLE (x y : α) : Decidable (x ≤ y)
  isNaN : α → Bool
  abs : α → α
  sqrt : α → α
  /-- The remainder of the quotient truncated toward zero. It has the sign of the dividend. -/
  rem : α → α → α
  degreesPerRadian : α

attribute [reducible, instance] Scalar.decideLT Scalar.decideLE

-- A number system that has operations of its own keeps them.
attribute [instance (low)] Scalar.toAdd Scalar.toSub Scalar.toMul Scalar.toDiv Scalar.toNeg
  Scalar.toLT Scalar.toLE Scalar.toOfScientific Scalar.decideLT Scalar.decideLE

/-- A scalar with the functions of plane geometry and the passage to and from integers. -/
class Analytic (α : Type) extends Scalar α where
  hypot : α → α → α
  /-- The angle of the point `(x, y)`, as `atan2 y x`. -/
  atan2 : α → α → α
  cos : α → α
  tan : α → α
  radiansPerDegree : α
  /-- The nearest integral value, a half going away from zero. -/
  round : α → α
  ceil : α → α
  ofInt : Int → α
  /-- The integer part, moved into the range of a word. No number gives zero. -/
  toWord : WordRange → α → Int

namespace Scalar

variable {α : Type} [Scalar α]

/-- The larger of two values; the other one where one is not a number. -/
def maxNum (x y : α) : α :=
  if isNaN x then y else if x < y then y else x

def minNum (x y : α) : α :=
  if isNaN x then y else if y < x then y else x

def square (x : α) : α := x * x

end Scalar

end WaypointFlight
