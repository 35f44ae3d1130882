import Std.Time
import WaypointFlight.Log.Level
import WaypointFlight.Log.Session
import WaypointFlight.Mission.Report
import WaypointFlight.Mission.Summary

namespace WaypointFlight

open Decimal

/-- The code of an error of the operating system. Some calls give it negated. -/
def errorCode (code : UInt32) : UInt32 := min code (-code)

def ReadFault.ofError : IO.Error → ReadFault
  | .noFileOrDirectory .. => .notFound
  | .inappropriateType _ code details =>
    match errorCode code with
    | 20 => .notDirectory
    | 21 => .isDirectory
    | _ => .other details
  | .invalidArgument _ code details => if errorCode code = 36 then .nameTooLong else .other details
  | e => .other (toString e)

def attempt {α : Type} (action : IO α) : IO (Except ReadFault α) := do
  match ← action.toBaseIO with
  | .ok x => return .ok x
  | .error e => return .error (.ofError e)

def readText (path : String) : IO (Except ReadFault String) := do
  if let some f := pathFault? path then return .error f
  match ← attempt (IO.FS.readBinFile path) with
  | .error f => return .error f
  | .ok content =>
    match String.fromUTF8? content with
    | some text => return .ok text
    | none => return .error .notText

def readerOf (root : String) (paths : List String) : IO (String → Except ReadFault String) := do
  let directory := below root paramsDirectory
  let contents ← paths.mapM fun path => return (path, ← readText (below directory path))
  return fun path => (contents.lookup path).getD (.error .notFound)

def LogEntry.line (e : LogEntry Float) (seconds : Float) : String :=
  let stamp := fixed 6 seconds
  let pad := String.ofList (List.replicate (10 - stamp.length) ' ')
  "[" ++ pad ++ stamp ++ " " ++ (if e.isWarning then "WRN" else "INF") ++ "] " ++ e.message

def printChain (chain : List String) : IO Unit := do
  IO.eprintln "Error: "
  for (index, message) in chain.zipIdx.map Prod.swap do
    IO.eprintln ("   " ++ toString index ++ ": " ++ message)

def Report.finish (r : Report) : IO UInt32 := do
  if let some o := r.overflow then
    IO.eprintln ("The application panicked (crashed).\nMessage:  " ++ o.message)
  unless r.chain.isEmpty do
    printChain r.chain
  return r.exitCode.toUInt32

def programName : String := "nav_exec"

def sessionDirectory (root : String) : IO String := do
  let now ← Std.Time.PlainDateTime.now
  return root ++ "/sessions/" ++ programName ++ "_" ++ now.format "uuuuMMdd_HHmmss"

def runIn (directory root : String) (session : Session) (args : List String) : IO UInt32 := do
  let logPath := directory ++ "/" ++ programName ++ ".log"
  let opened ← attempt (IO.FS.writeFile logPath "")
  match startLogging .debug opened false with
  | .error e =>
    (Report.failed ["Failed to initialise logging", e.message] []).finish
  | .ok () =>
    let paths := (Mission.fileOf args).toOption.toList ++ [Mission.paramsFile]
    let report := Mission.run (some (← readerOf root paths)) args
    let seconds := session.elapsedSeconds (← IO.monoNanosNow)
    let lines := report.log.map fun e => e.line seconds ++ "\n"
    IO.print (String.join lines)
    IO.FS.writeFile logPath (String.join lines)
    match report.summaries with
    | none => report.finish
    | some summaries =>
      match ← attempt
          (IO.FS.writeFile (directory ++ "/summary.json") (ItemSummary.listToJson summaries)) with
      | .ok () => report.finish
      | .error f =>
        (Report.failed ["Failed to write the mission summary", f.message] []).finish

end WaypointFlight

open WaypointFlight

def main (args : List String) : IO UInt32 := do
  let session : Session := ⟨some (← IO.monoNanosNow)⟩
  match ← IO.getEnv rootVariable with
  | none => (Mission.run none args).finish
  | some root =>
    let directory ← sessionDirectory root
    match ← attempt (IO.FS.createDirAll directory) with
    | .ok () => runIn directory root session args
    | .error f =>
      let cause := "Cannot create the session directory: " ++ f.message
      (Report.failed ["Failed to create the session", cause] []).finish
