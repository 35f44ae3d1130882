namespace WaypointFlight.Toml

inductive TableForm where
  | inline
  | dotted
  | header
  deriving DecidableEq, Repr

/-- A table remembers how it was written, since tables from dotted keys may grow. -/
inductive Value where
  | text (s : String)
  | integer (n : Int)
  | float (x : Float)
  | boolean (b : Bool)
  /-- A date or a time. No key of a flight takes one, and its digits are not kept. -/
  | moment
  | array (items : List Value)
  | table (form : TableForm) (entries : List (String × Value))

abbrev Entries := List (String × Value)

/-- The entries with a value added under a dotted key. A key of one part is added even where it is
there already; a longer one goes into the table that its first part has begun. -/
def insertAt : List String → Value → Entries → Option Entries
  | [], _, _ => none
  | [key], v, entries => some (entries ++ [(key, v)])
  | key :: rest, v, entries =>
    match entries.find? (·.1 = key) with
    | none => do return entries ++ [(key, .table .dotted (← insertAt rest v []))]
    | some (_, .table .dotted inner) => do
      let grown := Value.table .dotted (← insertAt rest v inner)
      return entries.takeWhile (·.1 ≠ key) ++ (key, grown)
        :: (entries.dropWhile (·.1 ≠ key)).tail
    | some _ => none

end WaypointFlight.Toml
