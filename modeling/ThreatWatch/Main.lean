import Std.Time.DateTime.Timestamp
import ThreatWatch.Service.Startup
import ThreatWatch.Service.Turn

/-! The command. Its arguments are the paths of the configuration file and of the
rule files, from the directory it is called in; they make up the tree of files
in which the service looks for its rules. -/

namespace ThreatWatch.Command

/-! ## Surroundings -/

def treeOf (paths : List String) : IO FileTree :=
  paths.foldlM (fun (tree : FileTree) (path : String) => do
    let octets ← IO.FS.readBinFile path
    return tree.putAt path (.file (.octets octets.toList))) FileTree.empty

def environmentOf (names : List String) : IO (Table String) :=
  names.foldlM (fun (environment : Table String) name => do
    match ← IO.getEnv name with
    | some value => return environment.put name value
    | none => return environment) []

def configurationNames (tree : FileTree) (path : String) : List String :=
  match tree.find? path with
  | some (.file (.octets octets)) => Configuration.variableNames (FileTree.lenientText octets)
  | _ => []

def present : IO Calendar.Moment := do
  let instant ← Std.Time.Timestamp.now
  let micros := instant.toNanosecondsSinceUnixEpoch.val / 1000
  match Calendar.Moment.ofEpochMicros? micros with
  | some moment => return moment
  | none => throw (IO.userError "the clock is outside the calendar")

def secondsOf (moment : Calendar.Moment) : Int :=
  (moment.wall - Calendar.Moment.epochWall : Int) / Calendar.microsPerSecond

/-! ## Output -/

def lineOf (moment : Calendar.Moment) (entry : LogEntry) : String :=
  String.ofList (moment.isoCharacters ' ') ++ " - main - " ++ entry.level.name ++ " - " ++
    entry.message ++ "\n"

def writeLog (settings : LogSettings) (log : List LogEntry) : IO Unit := do
  let moment ← present
  let output ← IO.getStdout
  for entry in log.filter settings.admits do
    let line := lineOf moment entry
    output.putStr line
    if let some path := settings.file then
      let file ← IO.FS.Handle.mk path .append
      file.putStr line
  output.flush

def prepareLog (settings : LogSettings) : IO Unit := do
  if let some path := settings.file then
    let parts := (Text.splitOn '/' path).dropLast
    if parts ≠ [] then IO.FS.createDirAll (Text.join "/" parts)

/-! ## The loop -/

/-- The scans of a turn. One that is due is made here, so that its duration is
known. -/
def scannerFor (service : Service) (moment : Calendar.Moment) : IO Service.Scanner := do
  let scan := fun (correlator : Correlator) => correlator.scan { now := moment } moment
  match service.scanIsDue (secondsOf moment) with
  | .ok true =>
      let started ← IO.monoNanosNow
      let (outcome, correlator) ← IO.lazyPure fun _ => scan service.correlator
      let ended ← IO.monoNanosNow
      let duration := Binary64.ofRatio false (ended - started) 1000000
      let timed := outcome.map fun report => (report, duration.written Value.numberLayout)
      return fun _ => (timed, correlator)
  | _ =>
      return fun correlator =>
        let (outcome, correlator) := scan correlator
        (outcome.map fun report => (report, Binary64.zero.written Value.numberLayout), correlator)

partial def loop (settings : LogSettings) (service : Service) : IO Unit := do
  let moment ← present
  let outcome := service.turn (← scannerFor service moment) (secondsOf moment)
  writeLog settings outcome.log
  if outcome.stopped then writeLog settings [Service.stopped]
  else
    IO.sleep 1000
    loop settings outcome.service

def run (paths : List String) : IO UInt32 := do
  let tree ← treeOf paths
  let path := Service.pathIn (← environmentOf ["CONFIG_PATH"])
  let environment ← environmentOf ("CONFIG_PATH" :: configurationNames tree path)
  match Service.start environment tree (secondsOf (← present)) with
  | .error fault =>
      throw (IO.userError (fault.message?.getD "the configuration cannot be used"))
  | .ok (.unconfigured path) =>
      IO.println (Service.unconfiguredText path)
      return Service.failureCode
  | .ok (.failed settings log) =>
      prepareLog settings
      writeLog settings log
      return Service.failureCode
  | .ok (.started settings log service) =>
      prepareLog settings
      writeLog settings log
      loop settings service
      return 0

end ThreatWatch.Command

def main (arguments : List String) : IO UInt32 :=
  ThreatWatch.Command.run arguments
