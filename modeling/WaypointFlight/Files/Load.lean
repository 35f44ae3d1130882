import WaypointFlight.Files.Basic
import WaypointFlight.Toml.Document

namespace WaypointFlight

inductive LoadError where
  | rootNotSet
  | unreadable (f : ReadFault)
  | malformed
  deriving DecidableEq, Repr

def rootVariable : String := "WPNAV_SW_ROOT"

def rootNotSetMessage : String :=
  "The software root environment variable (" ++ rootVariable ++ ") is not set"

def LoadError.message : LoadError → String
  | .rootNotSet => rootNotSetMessage
  | .unreadable f => "Cannot load the parmeter file: " ++ f.message
  | .malformed => "Cannot read the parameter file:"

def LoadError.paramsMessage (e : LoadError) : String := "Could not load parameters: " ++ e.message

/-- Reads a file by its path; none where there is no root. -/
abbrev Reader := Option (String → Except ReadFault String)

def ofText? {α : Type} (ofToml? : Toml.Value → Option α) (text : String) : Except LoadError α :=
  match (Toml.parse text).bind ofToml? with
  | some x => .ok x
  | none => .error .malformed

def load {α : Type} (reader : Reader) (path : String) (ofToml? : Toml.Value → Option α) :
    Except LoadError α :=
  match reader with
  | none => .error .rootNotSet
  | some read =>
    match read path with
    | .ok text => ofText? ofToml? text
    | .error f => .error (.unreadable f)

end WaypointFlight
