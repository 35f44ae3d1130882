import WaypointFlight.Files.Basic

namespace WaypointFlight

/-- Each level shows all levels before it. -/
inductive LogLevel where
  | off
  | error
  | warn
  | info
  | debug
  | trace
  deriving DecidableEq, Repr

namespace LogLevel

def rank : LogLevel → Nat
  | .off => 0
  | .error => 1
  | .warn => 2
  | .info => 3
  | .debug => 4
  | .trace => 5

def name : LogLevel → String
  | .off => "OFF"
  | .error => "ERROR"
  | .warn => "WARN"
  | .info => "INFO"
  | .debug => "DEBUG"
  | .trace => "TRACE"

end LogLevel

inductive LogError where
  | levelTooLow (level : LogLevel)
  | file (f : ReadFault)
  | alreadyStarted
  deriving DecidableEq, Repr

def LogError.message : LogError → String
  | .levelTooLow level => "Expected a log level less than `INFO`, found `" ++ level.name ++ "`"
  | .file f => "Error initialising the log file: " ++ f.message
  | .alreadyStarted =>
    "An error occured while setting up the logger: attempted to set a logger after the logging "
      ++ "system was already initialized"

def startLogging (level : LogLevel) (file : Except ReadFault Unit) (started : Bool) :
    Except LogError Unit :=
  if level.rank < LogLevel.info.rank then .error (.levelTooLow level)
  else
    match file with
    | .error f => .error (.file f)
    | .ok () => if started then .error .alreadyStarted else .ok ()

end WaypointFlight
