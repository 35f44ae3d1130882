import WaypointFlight.Word

namespace WaypointFlight

inductive Overflow where
  | addition
  | subtraction
  deriving DecidableEq, Repr

def Overflow.message : Overflow → String
  | .addition => "attempt to add with overflow"
  | .subtraction => "attempt to subtract with overflow"

/-- Why a call has no result: an error of its own kind, which is reported, or an overflow, which
stops the program. -/
inductive Fault (ε : Type) where
  | error (e : ε)
  | overflow (o : Overflow)
  deriving DecidableEq, Repr

def Fault.map {ε δ : Type} (f : ε → δ) : Fault ε → Fault δ
  | .error e => .error (f e)
  | .overflow o => .overflow o

def word? (o : Overflow) (n : Int) : Except Overflow Int32 :=
  if WordRange.signed32.Contains n then .ok (Int32.ofInt n) else .error o

def checkedAdd (a b : Int32) : Except Overflow Int32 := word? .addition (a.toInt + b.toInt)

def checkedSub (a b : Int32) : Except Overflow Int32 := word? .subtraction (a.toInt - b.toInt)

end WaypointFlight
