import ThreatWatch.Correlation.Scan
import ThreatWatch.Detection.RuleSet
import ThreatWatch.Service.Log

/-! The service: it checks the rules once, and from then on scans for campaigns
and reports statistics at the intervals of its configuration. Times are whole
seconds. -/

namespace ThreatWatch

structure Service where
  rules : RuleSet
  correlator : Correlator
  scanInterval : Value
  statsInterval : Value
  lastScan : Int := 0
  lastStats : Int

namespace Service

def info (message : String) : LogEntry :=
  ⟨.info, message⟩

def rule : LogEntry :=
  info "============================================================"

/-- The wording of a fault, empty where it has none of its own. -/
def wording (fault : Fault) : String :=
  fault.message?.getD ""

/-! ## Reports -/

def shownReport (report : ScanReport) (duration : String) : String :=
  "Scan result: \x7b'new_campaigns': " ++ toString report.created ++ ", 'updated_campaigns': " ++
    toString report.updated ++ ", 'events_correlated': " ++ toString report.correlated ++
    ", 'duration': " ++ duration ++ "\x7d"

def shownAttack (attack : String × Nat) : String :=
  "\x7b'type': " ++ Text.quoted attack.1 ++ ", 'count': " ++ toString attack.2 ++ "\x7d"

def shownStats (stats : Store.CampaignStats) : String :=
  "Campaigns: \x7b'total_campaigns': " ++ toString stats.campaigns ++ ", 'active_campaigns': " ++
    toString stats.active ++ ", 'total_correlated_events': " ++ toString stats.correlated ++
    ", 'top_attack_types': [" ++ Text.join ", " (stats.attacks.map shownAttack) ++ "]\x7d"

def statsReport (service : Service) (stats : Store.CampaignStats) : List LogEntry :=
  [rule, info "System Statistics:", info (shownStats stats),
    info ("Sigma rule set (validated at startup): " ++ toString service.rules.rules.length ++
      " valid, " ++ toString service.rules.errors.length ++ " invalid"), rule]

end Service

end ThreatWatch
