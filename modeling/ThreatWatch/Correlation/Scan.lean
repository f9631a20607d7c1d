import ThreatWatch.Campaign.Found
import ThreatWatch.Correlation.Transaction
import ThreatWatch.Store.Query
import ThreatWatch.Value.Integer

/-! Scans: one scan reads the threats of the last hours that belong to no
campaign, finds the campaigns among them and saves these together with the
membership of their threats. At most one scan runs at a time. -/

namespace ThreatWatch

structure ScanReport where
  created : Nat
  updated : Nat
  correlated : Nat
  deriving DecidableEq, Repr

namespace ScanReport

def nothing : ScanReport := ⟨0, 0, 0⟩

def join (left right : ScanReport) : ScanReport :=
  ⟨left.created + right.created, left.updated + right.updated,
    left.correlated + right.correlated⟩

end ScanReport

namespace Scan

/-- Saves what was found, merged into the campaign of the same identity where
there is one, and tags its members. -/
def keep (found : FoundCampaign) : Work ScanReport := do
  let id := found.campaign.id
  let report ← match ← Work.campaign? id with
    | none => do
        Work.save found.campaign
        pure ⟨1, 0, found.members.length⟩
    | some existing => do
        Work.save (← Work.ofExcept (existing.merge found.campaign))
        pure ⟨0, 1, found.members.length⟩
  Work.tag id (found.members.map Threat.id).reduceOption
  return report

def keepAll : List FoundCampaign → Work ScanReport
  | [] => pure .nothing
  | found :: rest => do
      let report ← keep found
      return report.join (← keepAll rest)

def leftOver (found : List FoundCampaign) (threats : List Threat) : List Threat :=
  let taken := found.flatMap fun found => found.members.map Threat.id
  threats.filter fun threat => !taken.contains threat.id

def horizon (settings : CorrelationSettings) (now : Calendar.Moment) :
    Except Fault Calendar.Moment := do
  let span ← Calendar.spanOf Calendar.microsPerHour settings.scanHours
  match now.add? (-span) with
  | some time => .ok time
  | none => .error .dateOutOfRange

def work (settings : CorrelationSettings) (now : Calendar.Moment) : Work ScanReport := do
  let since ← Work.ofExcept (horizon settings now)
  let day := (← Work.ofExcept (Store.utcOf now)).date
  let threats ← Work.unclustered since
  if threats.isEmpty then return .nothing
  else
    let byAddress ← Work.ofExcept (FoundCampaign.byAddress settings day threats)
    let report ← keepAll byAddress
    let byPattern ← Work.ofExcept
      (FoundCampaign.byPattern settings day (leftOver byAddress threats))
    return report.join (← keepAll byPattern)

end Scan

/-! ## The correlator -/

structure Correlator where
  store : Store := {}
  settings : CorrelationSettings := {}
  /-- Whether a scan is under way. -/
  scanning : Bool := false

namespace Correlator

/-- Takes the right to scan, unless a scan is under way. -/
def beginScan (correlator : Correlator) : Except Fault Correlator :=
  if correlator.scanning then .error .scanInProgress
  else .ok { correlator with scanning := true }

def endScan (correlator : Correlator) : Correlator :=
  { correlator with scanning := false }

def scan (correlator : Correlator) (surroundings : Surroundings) (now : Calendar.Moment) :
    Except Fault ScanReport × Correlator :=
  match correlator.beginScan with
  | .error fault => (.error fault, correlator)
  | .ok scanning =>
      match (Scan.work scanning.settings now).run surroundings scanning.store with
      | .ok (report, store) => (.ok report, { scanning with store := store }.endScan)
      | .error fault => (.error fault, scanning.endScan)

def transact {α : Type} (correlator : Correlator) (surroundings : Surroundings) (work : Work α) :
    Except Fault α × Correlator :=
  match work.run surroundings correlator.store with
  | .ok (value, store) => (.ok value, { correlator with store := store })
  | .error fault => (.error fault, correlator)

/-- A page as a caller asks for it: a status is checked first, then the limit
and the page are read. -/
def page (correlator : Correlator) (page limit status : Value) : Except Fault CampaignPage := do
  let status ← CampaignStatus.filterOfValue status
  let limit ← limit.integer
  let page ← page.integer
  correlator.store.campaignPage page limit status

end Correlator

end ThreatWatch
