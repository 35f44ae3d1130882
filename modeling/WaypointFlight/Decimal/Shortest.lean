import WaypointFlight.Decimal.Magnitude

namespace WaypointFlight.Decimal

open Binary64

/-- The reals that round to one number, in quarters of its spacing. The ends belong to it where
the significand is even. -/
structure RoundingInterval where
  lower : Nat
  upper : Nat
  closed : Bool
  deriving DecidableEq, Repr

/-- Below a power of two the spacing is half as wide. -/
def roundingInterval (d : FiniteValue) : RoundingInterval where
  lower := 4 * d.significand - (if d.significand = twoTo 52 ∧ -1074 < d.exponent then 1 else 2)
  upper := 4 * d.significand + 2
  closed := d.significand % 2 = 0

def readsBack (d : FiniteValue) (c : Nat) (k : Int) : Bool :=
  let i := roundingInterval d
  let quarter : FiniteValue := ⟨false, 1, d.exponent - 2⟩
  let on (n : Nat) := n * quarter.ratio.1 * tenTo (-k).toNat
  let value := c * tenTo k.toNat * quarter.ratio.2
  if i.closed then on i.lower ≤ value && value ≤ on i.upper
  else on i.lower < value && value < on i.upper

inductive TieRule where
  | toEven
  | up
  deriving DecidableEq, Repr

def TieRule.round (t : TieRule) (num den : Nat) : Nat :=
  match t with
  | .toEven => roundDiv num den
  | .up => (2 * num + den) / (2 * den)

/-- The neighbour of `d` on the grid of `10 ^ k` that reads back, the nearer one of two. -/
def onGrid (t : TieRule) (d : FiniteValue) (k : Int) : Option (Nat × Int) :=
  let scaled := inUnits d.ratio.1 d.ratio.2 k
  let below := scaled.1 / scaled.2
  match readsBack d below k, readsBack d (below + 1) k with
  | true, true => some (t.round scaled.1 scaled.2, k)
  | true, false => some (below, k)
  | false, true => some (below + 1, k)
  | false, false => none

/-- The fewest digits that read back as the number. On each decimal grid, from the coarsest down,
its two neighbours are tried. A number of few bits may round up to the next power of ten, which is
where the search begins; seventeen digits always suffice. -/
def shortestDigits (t : TieRule) (d : FiniteValue) : Nat × Int :=
  let top := leadingPower d.ratio.1 d.ratio.2 + 1
  ((List.range 18).findSome? fun (n : Nat) => onGrid t d (top - n)).getD (d.significand, d.exponent)

def positional (n : Nat) (k : Int) : String :=
  if 0 ≤ k then toString n ++ zeros k.toNat else withPoint (-k).toNat n

/-- The shortest text that reads back, never with an exponent. A tie goes up. -/
def shortest (x : Float) : String :=
  match decode x with
  | .nan => "NaN"
  | .infinite negative => signed negative "inf"
  | .finite d =>
    signed d.negative <|
      if d.significand = 0 then "0"
      else positional (shortestDigits .up d).1 (shortestDigits .up d).2

end WaypointFlight.Decimal
