namespace WaypointFlight

structure WordRange where
  least : Int
  greatest : Int
  deriving DecidableEq, Repr

namespace WordRange

def signed32 : WordRange := ⟨-2147483648, 2147483647⟩

def signed64 : WordRange := ⟨-9223372036854775808, 9223372036854775807⟩

def unsigned64 : WordRange := ⟨0, 18446744073709551615⟩

def Contains (r : WordRange) (n : Int) : Prop := r.least ≤ n ∧ n ≤ r.greatest

instance (r : WordRange) (n : Int) : Decidable (r.Contains n) :=
  inferInstanceAs (Decidable (_ ∧ _))

def clamp (r : WordRange) (n : Int) : Int := max r.least (min r.greatest n)

end WordRange

end WaypointFlight
