import WaypointFlight.Toml.Line

namespace WaypointFlight.Toml

def Section.inner (s : Section) : Section := { s with path := s.path.tail }

def Section.isOwn (s : Section) : Bool := s.path.isEmpty

def heads (ss : List Section) : List String := (ss.filterMap (·.path.head?)).eraseDups

def elements (ss : List Section) : List (List Section) :=
  ss.foldr (fun s runs =>
    match runs with
    | [] => [[s]]
    | run :: rest =>
      if (run.head?.any fun t => t.isOwn && t.isArray) then [s] :: run :: rest
      else (s :: run) :: rest) []

def asElement : List Section → List Section
  | s :: rest => { s with isArray := false } :: rest
  | [] => []

/-- The table of some sections, whose paths have at most `depth` keys, grouped by the first of them.
A group that an array header begins is an array. The table has one section of its own at most, and
that is not an array. -/
def tableOf : Nat → List Section → Option Entries
  | 0, ss => own ss
  | depth + 1, ss => do
    let entries ← own ss
    let tables ← (heads ss).mapM fun k => do
      let group := (ss.filter (·.path.head? = some k)).map Section.inner
      if group.head?.any fun s => s.isOwn && s.isArray then
        let tables ← (elements group).mapM fun run => tableOf depth (asElement run)
        return (k, Value.array (tables.map (.table .header)))
      else return (k, Value.table .header (← tableOf depth group))
    return entries ++ tables
where
  own (ss : List Section) : Option Entries :=
    match ss.filter Section.isOwn with
    | [] => some []
    | [s] => if s.isArray then none else some s.entries
    | _ => none

def parse (text : String) : Option Value := do
  let ss ← sectionsOf (← tokens? text)
  let depth := (ss.map (·.path.length)).foldl max 0
  return .table .header (← tableOf depth ss)

end WaypointFlight.Toml
