import WaypointFlight.Decimal.Fixed

namespace WaypointFlight.Decimal

def digitCount (n : Nat) : Nat := (toString n).length

/-- The power of ten of the leading digit of the positive fraction `num / den`. The lengths of
the two numbers leave a choice of two. -/
def leadingPower (num den : Nat) : Int :=
  let k : Int := (digitCount num : Int) - digitCount den
  if den * tenTo k.toNat ≤ num * tenTo (-k).toNat then k else k - 1

/-- The fraction `num / den` in units of `10 ^ k`, as a fraction. -/
def inUnits (num den : Nat) (k : Int) : Nat × Nat :=
  (num * tenTo (-k).toNat, den * tenTo k.toNat)

end WaypointFlight.Decimal
