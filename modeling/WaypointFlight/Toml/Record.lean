import WaypointFlight.Toml.Document

namespace WaypointFlight.Toml

/-- A record is written as a table, or as an array with its fields in order. -/
structure Record where
  inOrder : Bool
  fields : List (String × Value)

namespace Value

/-- The fields with these names. None may be there twice. A date counts as a table without any. -/
def record? (names : List String) : Value → Option Record
  | .table _ entries =>
    let fields := entries.filter fun e => names.contains e.1
    if (fields.map Prod.fst).Nodup then some ⟨false, fields⟩ else none
  | .array items => if items.length ≤ names.length then some ⟨true, names.zip items⟩ else none
  | .moment => some ⟨false, []⟩
  | _ => none

def float? : Value → Option Float
  | .float x => some x
  | .integer n => some (Float.ofInt n)
  | _ => none

def int32? : Value → Option Int32
  | .integer n => if WordRange.signed32.Contains n then some (Int32.ofInt n) else none
  | _ => none

def bool? : Value → Option Bool
  | .boolean b => some b
  | _ => none

def list? {α : Type} (read : Value → Option α) : Value → Option (List α)
  | .array items => items.mapM read
  | _ => none

/-- A name out of a list of choices: a text, or an inline table with the name as its only key and
an empty table under it. -/
def choice? {α : Type} (read : String → Option α) : Value → Option α
  | .text s => read s
  | .table .inline [(s, .table .inline [])] => read s
  | _ => none

end Value

namespace Record

def get? (r : Record) (name : String) : Option Value := r.fields.lookup name

def required {α : Type} (r : Record) (name : String) (read : Value → Option α) : Option α :=
  (r.get? name).bind read

def withDefault {α : Type} (r : Record) (name : String) (default : α)
    (read : Value → Option α) : Option α :=
  match r.get? name with
  | none => some default
  | some v => read v

/-- A field that may be left out of a table. Where fields are in order it has to be there. -/
def optional {α : Type} (r : Record) (name : String) (read : Value → Option α) :
    Option (Option α) :=
  match r.get? name with
  | none => if r.inOrder then none else some none
  | some v => (read v).map some

end Record

end WaypointFlight.Toml
