import ThreatWatch.Service.Basic
import ThreatWatch.Service.Configuration

/-! Starting the service: its configuration is read, its log is set up, and its
components are made from the sections of the configuration. -/

namespace ThreatWatch.Service

/-- What comes of starting: no configuration at the path, components that could
not be set up, or a service. -/
inductive Startup where
  | unconfigured (path : String)
  | failed (settings : LogSettings) (log : List LogEntry)
  | started (settings : LogSettings) (log : List LogEntry) (service : Service)

def unconfiguredText (path : String) : String :=
  "Error: Config file not found at " ++ path

def failureCode : UInt32 := 1

def defaultPath : String := "config/config.yaml"

def pathIn (environment : Table String) : String :=
  (environment.get? "CONFIG_PATH").getD defaultPath

def banner : List LogEntry :=
  [rule, info "Starting Threat Detection & Correlation Service", rule]

def rulesReport (rules : RuleSet) : List LogEntry :=
  info ("Sigma rule validation: " ++ toString rules.rules.length ++ " valid, " ++
    toString rules.skipped ++ " filtered out, " ++ toString rules.errors.length ++ " invalid") ::
  rules.errors.map fun error => ⟨.warning, "Invalid Sigma rule: " ++ error⟩

def rulesOf (tree : FileTree) (entries : List (Value × Value)) : Except Fault RuleSet := do
  let settings ← DetectionSettings.ofValue (Configuration.sectionOf entries "sigma")
  RuleSet.load tree settings []

def checkPlace (place : Value) : Except Fault Unit :=
  if !place.isPresent then .ok ()
  else
    match place with
    | .text url =>
        if "sqlite:".toList.isPrefixOf url.toList then .ok () else .error .unknownDatabase
    | _ => .error .noSuchOperation

def correlatorOf (entries : List (Value × Value)) : Except Fault Correlator := do
  let database ← Configuration.sectionEntries entries "database"
  checkPlace (Value.entry database "url")
  let settings ← CorrelationSettings.ofValue (Configuration.sectionOf entries "correlation")
  return { settings := settings }

def setupFault (fault : Fault) : LogEntry :=
  ⟨.error, "Error initializing components: " ++ wording fault⟩

def startWith (settings : LogSettings) (tree : FileTree) (entries : List (Value × Value))
    (time : Int) : Except Fault Startup :=
  match rulesOf tree entries with
  | .error fault => .ok (.failed settings (banner ++ [setupFault fault]))
  | .ok rules =>
      let log := banner ++ rulesReport rules
      match correlatorOf entries with
      | .error fault => .ok (.failed settings (log ++ [setupFault fault]))
      | .ok correlator => do
          let correlation ← Configuration.sectionEntries entries "correlation"
          let interval := (Value.lookup? correlation (.text "scan_interval")).getD (.int 300)
          let service := {
            rules := rules
            correlator := correlator
            scanInterval := interval
            statsInterval := (Value.lookup? entries (.text "stats_interval")).getD (.int 60)
            lastStats := time }
          let shown ← interval.shown
          return .started settings (log ++ [info "All components initialized successfully",
            info ("Scan interval: " ++ shown ++ "s"), info "Entering correlation loop"]) service

def start (environment : Table String) (tree : FileTree) (time : Int) : Except Fault Startup := do
  let path := pathIn environment
  if (tree.find? path).isNone then return .unconfigured path
  else
    let entries ← Configuration.ofFile environment tree path
    let settings ← LogSettings.ofSection tree (← Configuration.sectionEntries entries "logging")
    startWith settings tree entries time

end ThreatWatch.Service
