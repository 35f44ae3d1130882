import WaypointFlight.Binary64.Decode

namespace WaypointFlight.Decimal

open Binary64

/-- The quotient rounded to the nearest integer, a half going to the even neighbour. -/
def roundDiv (num den : Nat) : Nat :=
  let q := num / den
  let twice := 2 * (num % den)
  if twice < den ∨ (twice = den ∧ q % 2 = 0) then q else q + 1

def zeros (n : Nat) : String := String.ofList (List.replicate n '0')

def padded (width n : Nat) : String :=
  let s := toString n
  zeros (width - s.length) ++ s

/-- `n` units of `10 ^ -places`. -/
def withPoint (places n : Nat) : String :=
  if places = 0 then toString n
  else toString (n / tenTo places) ++ "." ++ padded places (n % tenTo places)

def signed (negative : Bool) (s : String) : String :=
  if negative then "-" ++ s else s

/-- The number with the given count of decimal places. The sign is kept where all digits are
zero. -/
def fixed (places : Nat) (x : Float) : String :=
  match decode x with
  | .nan => "NaN"
  | .infinite negative => signed negative "inf"
  | .finite d =>
    signed d.negative (withPoint places (roundDiv (d.ratio.1 * tenTo places) d.ratio.2))

end WaypointFlight.Decimal
