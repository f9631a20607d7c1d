import ThreatWatch.Service.Basic

/-! Turns of the service. It looks at the time once a turn, scans if a scan is
due, and then reports if a report is due. -/

namespace ThreatWatch.Service

/-- How a scan is made: what it did, with the text of how many milliseconds it
took, and the correlator after it. -/
abbrev Scanner := Correlator → Except Fault (ScanReport × String) × Correlator

def isDue (elapsed : Int) (interval : Value) : Except Fault Bool :=
  match interval with
  | .bool flag => .ok (decide ((if flag then 1 else 0) ≤ elapsed))
  | _ =>
      match interval.amount? with
      | some amount =>
          match amount.compareInt? elapsed with
          | some .gt | none => .ok false
          | some _ => .ok true
      | none => .error .notANumber

def scanIsDue (service : Service) (time : Int) : Except Fault Bool :=
  isDue (time - service.lastScan) service.scanInterval

def reportIsDue (service : Service) (time : Int) : Except Fault Bool :=
  isDue (time - service.lastStats) service.statsInterval

/-- Work in a turn: it changes the service and adds to the log, and both stay
also when it ends in a fault. -/
abbrev Turn := ExceptT Fault (StateM (Service × List LogEntry))

namespace Turn

def say (entries : List LogEntry) : Turn Unit :=
  modify fun (service, log) => (service, log ++ entries)

def update (change : Service → Service) : Turn Unit :=
  modify fun (service, log) => (change service, log)

def service : Turn Service := do
  return (← get).1

/-- Scans if a scan is due. A scan that is still under way is left alone. -/
def scan (scanner : Scanner) (time : Int) : Turn Unit := do
  let before ← service
  if ← before.scanIsDue time then
    let (outcome, correlator) := scanner before.correlator
    update fun service => { service with lastScan := time, correlator := correlator }
    match outcome with
    | .ok (report, duration) => say [info (shownReport report duration)]
    | .error .scanInProgress =>
        say [⟨.warning, "Previous scan still running, skipping this tick"⟩]
    | .error fault => throw fault

def report (time : Int) : Turn Unit := do
  let before ← service
  if ← before.reportIsDue time then
    let stats ← before.correlator.store.stats Store.reportedAttacks
    say (before.statsReport stats)
    update fun service => { service with lastStats := time }

end Turn

structure Outcome where
  log : List LogEntry
  service : Service
  stopped : Bool

def shutdown : LogEntry :=
  info "Received shutdown signal"

def stopped : LogEntry :=
  info "Threat Detection & Correlation Service stopped"

/-- One turn. A fault ends the turn but not the service, unless it is the request
to stop. -/
def turn (scanner : Scanner) (service : Service) (time : Int) : Outcome :=
  let work : Turn Unit := do
    Turn.scan scanner time
    Turn.report time
  match work.run.run (service, []) with
  | (.ok (), service, log) => ⟨log, service, false⟩
  | (.error .interrupted, service, log) => ⟨log ++ [shutdown], service, true⟩
  | (.error fault, service, log) =>
      ⟨log ++ [⟨.error, "Error in main loop: " ++ wording fault⟩], service, false⟩

def run (scanner : Scanner) (service : Service) (time : Int) : (turns : Nat) → List LogEntry
  | 0 => [shutdown, stopped]
  | turns + 1 =>
      let outcome := turn scanner service time
      if outcome.stopped then outcome.log ++ [stopped]
      else outcome.log ++ run scanner outcome.service (time + 1) turns

end ThreatWatch.Service
