import WaypointFlight.Decimal.Magnitude

namespace WaypointFlight.Decimal

/-- The number `digits * 10 ^ power`, negated if `negative`. Beyond 400 places it is infinite or
zero, whatever the digits are. -/
def toFloat (negative : Bool) (digits : Nat) (power : Int) : Float :=
  let size := (digitCount digits : Int) + power
  let x : Float :=
    if digits = 0 ∨ size < -400 then 0.0
    else if 400 < size then 1.0 / 0.0
    else if 0 ≤ power then Float.ofScientific digits false power.toNat
    else Float.ofScientific digits true (-power).toNat
  if negative then -x else x

end WaypointFlight.Decimal
