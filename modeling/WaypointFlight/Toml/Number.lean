import WaypointFlight.Decimal.Read
import WaypointFlight.Toml.Token
import WaypointFlight.Toml.Value
import WaypointFlight.Word

namespace WaypointFlight.Toml

structure DigitRun where
  negative : Bool
  digits : List Nat
  rest : List Char

def DigitRun.magnitude (r : DigitRun) (radix : Nat) : Nat :=
  r.digits.foldl (fun n d => radix * n + d) 0

def DigitRun.value (r : DigitRun) (radix : Nat) : Int :=
  if r.negative then -(r.magnitude radix) else r.magnitude radix

def digitIn? (radix : Nat) (c : Char) : Option Nat :=
  (Lexer.hexDigit? c).filter (· < radix)

def moreDigits (radix : Nat) : List Char → Option (List Nat × List Char)
  | '_' :: c :: rest => do
    let d ← digitIn? radix c
    let (ds, rest) ← moreDigits radix rest
    return (d :: ds, rest)
  | ['_'] => none
  | c :: rest =>
    match digitIn? radix c with
    | some d => do
      let (ds, rest) ← moreDigits radix rest
      return (d :: ds, rest)
    | none => some ([], c :: rest)
  | [] => some ([], [])

def digitRun (radix : Nat) (leadingZeros : Bool) (s : List Char) :
    Option (List Nat × List Char) :=
  match s with
  | [] => none
  | c :: rest => do
    let d ← digitIn? radix c
    let (ds, rest) ← moreDigits radix rest
    if d = 0 ∧ ds ≠ [] ∧ ¬ leadingZeros then none else return (d :: ds, rest)

def signedRun (leadingZeros : Bool) (s : List Char) : Option DigitRun :=
  match s with
  | '-' :: rest => do
    let (digits, rest) ← digitRun 10 leadingZeros rest
    return { negative := true, digits, rest }
  | _ => do
    let (digits, rest) ← digitRun 10 leadingZeros s
    return { negative := false, digits, rest }

def whole (r : DigitRun) : Option DigitRun := if r.rest = [] then some r else none

def asInteger (n : Int) : Option Value :=
  if WordRange.signed64.Contains n then some (.integer n) else none

def integerIn (radix : Nat) (s : List Char) : Option Value := do
  let (digits, rest) ← digitRun radix true s
  asInteger ((← whole { negative := false, digits, rest }).value radix)

def decimalInteger (s : List Char) : Option Value := do
  asInteger ((← (signedRun false s).bind whole).value 10)

/-- The exponent that follows the digits of a number. A plus sign splits it into two words. -/
def exponent (s : List Char) (ts : List Token) : Option (Int × List Token) :=
  let after (ts : List Token) : Option (Int × List Token) :=
    match ts with
    | .word w :: ts => do
      let (digits, rest) ← digitRun 10 true w.toList
      return ((← whole { negative := false, digits, rest }).value 10, ts)
    | _ => none
  match s with
  | [] => some (0, ts)
  | e :: s =>
    if e = 'e' ∨ e = 'E' then
      match s, ts with
      | [], .plus :: ts => after ts
      | [], ts => after ts
      | s, ts => do return ((← (signedRun true s).bind whole).value 10, ts)
    else none

/-- A number with a fraction, or with an exponent, or with both. It must be finite. -/
def floatOf (s : List Char) (fraction : Option (List Char)) (ts : List Token) :
    Option (Value × List Token) := do
  let integral ← signedRun false s
  let (places, rest) ←
    match fraction with
    | none => some ([], integral.rest)
    | some f => if integral.rest = [] then digitRun 10 true f else none
  let (power, ts) ← exponent rest ts
  let digits : DigitRun := { integral with digits := integral.digits ++ places }
  let x := Decimal.toFloat integral.negative (digits.magnitude 10) (power - places.length)
  if x.isFinite then return (.float x, ts) else none

def special? (s : List Char) : Option Float :=
  if s = ['i', 'n', 'f'] then some (1.0 / 0.0)
  else if s = ['-', 'i', 'n', 'f'] then some (-1.0 / 0.0)
  else if s = ['n', 'a', 'n'] ∨ s = ['-', 'n', 'a', 'n'] then some (0.0 / 0.0)
  else none

def number (s : List Char) (ts : List Token) : Option (Value × List Token) :=
  match s with
  | '0' :: 'x' :: s => (integerIn 16 s).map (·, ts)
  | '0' :: 'o' :: s => (integerIn 8 s).map (·, ts)
  | '0' :: 'b' :: s => (integerIn 2 s).map (·, ts)
  | s =>
    if s.any (fun c => c = 'e' || c = 'E') then floatOf s none ts
    else
      match ts with
      | .period :: .word fraction :: ts => floatOf s (some fraction.toList) ts
      | .period :: _ => none
      | ts =>
        match special? s with
        | some x => some (.float x, ts)
        | none => (decimalInteger s).map (·, ts)

/-- Is the word a date, or a date with a time? A dash inside it tells, unless it is the sign of an
exponent. -/
def isDate (s : List Char) : Bool :=
  let hasExponentSign := (s.zip s.tail).any fun (c, d) => (c = 'e' || c = 'E') && d = '-'
  s.any (fun c => c = 'T' || c = 't') || (s.tail.contains '-' && !hasExponentSign)

def optionalPart (sign : Token) (ts : List Token) : Option (List Token) :=
  match ts with
  | t :: rest =>
    if t = sign then
      match rest with
      | .word _ :: rest => some rest
      | _ => none
    else some ts
  | [] => some []

def timeRest (ts : List Token) : Option (List Token) :=
  match ts with
  | .word _ :: .colon :: .word _ :: ts => do
    optionalPart .colon (← optionalPart .plus (← optionalPart .period ts))
  | _ => none

/-- The rest of a date or time, after its first word, or after the colon behind it. One space may
stand between date and time. -/
def momentRest (colonRead : Bool) (ts : List Token) : Option (List Token) :=
  let ts :=
    match ts with
    | .blank s :: .word w :: rest => if s = " " then rest else .blank s :: .word w :: rest
    | ts => ts
  if colonRead then timeRest ts
  else
    match ts with
    | .colon :: ts => timeRest ts
    | ts => some ts

def numberOrMoment (s : List Char) (ts : List Token) : Option (Value × List Token) :=
  if isDate s then (momentRest false ts).map (.moment, ·)
  else
    match ts with
    | .colon :: ts => (momentRest true ts).map (.moment, ·)
    | ts => number s ts

end WaypointFlight.Toml
