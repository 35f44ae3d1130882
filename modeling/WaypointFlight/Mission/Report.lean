import WaypointFlight.Autopilot.Warning
import WaypointFlight.Files.Load
import WaypointFlight.Mission.Flight
import WaypointFlight.Mission.OfToml
import WaypointFlight.Params.OfToml

namespace WaypointFlight

open Decimal

def SegmentKind.title : SegmentKind → String
  | .straight => "Straight"
  | .spline => "Spline"

def LogEntry.message : LogEntry Float → String
  | .missionLoaded path count =>
    "Loaded mission \"" ++ path ++ "\" with " ++ toString count ++ " items"
  | .itemStarted index item =>
    "Item " ++ toString index ++ ": " ++ item.kind.title ++ " to " ++ fixed 1 item.north ++ " m N, "
      ++ fixed 1 item.east ++ " m E, " ++ fixed 1 item.altitude ++ " m"
  | .itemTimedOut index seconds =>
    "Item " ++ toString index ++ " timed out after " ++ fixed 2 seconds ++ " s"
  | .warning w => w.message

def LogEntry.isWarning {α : Type} : LogEntry α → Bool
  | .itemTimedOut _ _ | .warning _ => true
  | _ => false

/-- How a run ended. There is no summary and no log file where it did not come so far. The chain has
the messages of an error, the outermost first. -/
structure Report where
  exitCode : Nat
  summaries : Option (List (ItemSummary Float))
  log : List (LogEntry Float)
  hasLogFile : Bool
  chain : List String
  overflow : Option Overflow

namespace Report

def failed (chain : List String) (log : List (LogEntry Float)) : Report :=
  { exitCode := 1, summaries := none, log, hasLogFile := true, chain, overflow := none }

def notStarted : Report :=
  { failed ["Failed to create the session", rootNotSetMessage] [] with hasLogFile := false }

def stopped (o : Overflow) (log : List (LogEntry Float)) : Report :=
  { failed [] log with exitCode := 101, overflow := some o }

def finished (summaries : List (ItemSummary Float)) (log : List (LogEntry Float)) : Report :=
  { failed [] log with exitCode := 0, summaries := some summaries }

end Report

def NavigationError.chain (e : NavigationError) : List String :=
  match e with
  | .location cause => [e.message, cause.message]
  | e => [e.message]

def ItemsFlown.report (flown : ItemsFlown Float) (before : List (LogEntry Float)) : Report :=
  let log := before ++ flown.log
  match flown.fault with
  | none => .finished flown.summaries log
  | some (_, .overflow o) => .stopped o log
  | some (index, .error e) =>
    .failed (("Failed to fly mission item " ++ toString index) :: e.chain) log

namespace Mission

def standardFile : String := "mission.toml"

def paramsFile : String := "wp_nav.toml"

def fileOf : List String → Except String String
  | [] => .ok standardFile
  | [path] => .ok path
  | args => .error ("Expected zero or one argument, found " ++ toString args.length)

def run (reader : Reader) (args : List String) : Report :=
  if reader.isNone then .notStarted
  else
    match fileOf args with
    | .error message => .failed [message] []
    | .ok path =>
      match load reader path Mission.ofToml? with
      | .error e => .failed ["Could not load mission \"" ++ path ++ "\"", e.message] []
      | .ok mission =>
        let loaded := [LogEntry.missionLoaded path mission.items.length]
        match load reader paramsFile Params.ofToml? with
        | .error e => .failed ["Failed to initialise WpNav", e.paramsMessage] loaded
        | .ok params => (mission.fly params).report loaded

end Mission

end WaypointFlight
