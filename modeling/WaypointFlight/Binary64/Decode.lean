import WaypointFlight.Power

namespace WaypointFlight.Binary64

/-- The number `significand * 2 ^ exponent`, negated if `negative`. -/
structure FiniteValue where
  negative : Bool
  significand : Nat
  exponent : Int
  deriving DecidableEq, Repr

inductive Value where
  | nan
  | infinite (negative : Bool)
  | finite (d : FiniteValue)
  deriving DecidableEq, Repr

def decodeBits (bits : Nat) : Value :=
  let negative : Bool := bits / twoTo 63 % 2 = 1
  let biased : Nat := bits / twoTo 52 % twoTo 11
  let fraction : Nat := bits % twoTo 52
  if biased = 2047 then
    if fraction = 0 then .infinite negative else .nan
  else if biased = 0 then .finite ⟨negative, fraction, -1074⟩
  else .finite ⟨negative, twoTo 52 + fraction, (biased : Int) - 1075⟩

def decode (x : Float) : Value := decodeBits x.toBits.toNat

namespace FiniteValue

def ratio (d : FiniteValue) : Nat × Nat :=
  if 0 ≤ d.exponent then (d.significand * twoTo d.exponent.toNat, 1)
  else (d.significand, twoTo (-d.exponent).toNat)

/-- The number itself, where its significand has at most 53 bits. -/
def toFloat (d : FiniteValue) : Float :=
  let x := (Float.ofNat d.significand).scaleB d.exponent
  if d.negative then -x else x

/-- The remainder of the truncated quotient. It is a multiple of the finer of the two spacings
and no larger than either operand, so that no digit is lost. -/
def rem (a b : FiniteValue) : FiniteValue :=
  let e := min a.exponent b.exponent
  let on (d : FiniteValue) := d.significand * twoTo (d.exponent - e).toNat
  ⟨a.negative, on a % on b, e⟩

end FiniteValue

def rem (x y : Float) : Float :=
  match decode x, decode y with
  | .finite a, .finite b => if b.significand = 0 then 0.0 / 0.0 else (a.rem b).toFloat
  | .finite _, .infinite _ => x
  | _, _ => 0.0 / 0.0

end WaypointFlight.Binary64
