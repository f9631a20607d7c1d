import ThreatWatch.Campaign.Basic
import ThreatWatch.Campaign.Identity
import ThreatWatch.Correlation.Settings
import ThreatWatch.Threat.Basic

/-! Campaigns found among threats: by one address within a window of time, and
by one pattern from several addresses. -/

namespace ThreatWatch

/-- A campaign together with the threats it was found in. -/
structure FoundCampaign where
  campaign : Campaign
  members : List Threat

namespace FoundCampaign

def ofMembers (day : Calendar.Date) (kind : CampaignKind) (name : String)
    (attacks : List (Option String)) (addresses : Nat) (members : List Threat) :
    Except Fault FoundCampaign := do
  let ordered ← Threat.sortedByTime members
  let id ← Campaign.identityOf day (members.map Threat.id)
  let campaign := {
    id := id
    name := name
    kind := kind
    firstSeen := ordered.head?.bind Threat.time
    lastSeen := ordered.getLast?.bind Threat.time
    eventCount := members.length
    uniqueAddresses := addresses
    attacks := attacks
    techniques := Campaign.distinctNames
      (members.flatMap fun threat => threat.knownTechniques.map some)
    regions := Campaign.distinctNames (members.map Threat.region)
    severity := (Campaign.severest (members.map Threat.severity).reduceOption).name }
  return ⟨campaign, members⟩

/-! ## One address -/

def ofCluster (day : Calendar.Date) (address : Option String) (cluster : List Threat) :
    Except Fault FoundCampaign :=
  let attacks := Campaign.distinctNames (cluster.map Threat.attack)
  let name := "IP " ++ Threat.shownField address ++ ": " ++ Text.join ", " attacks.reduceOption
  ofMembers day .addressCluster name attacks 1 cluster

def ofAddress (settings : CorrelationSettings) (day : Calendar.Date) (address : Option String)
    (threats : List Threat) : Except Fault (List FoundCampaign) := do
  if settings.leastEvents.exceeds threats.length then return []
  else
    let clusters ← Threat.clusters settings.windowMinutes threats
    (clusters.filter fun cluster => !settings.leastEvents.exceeds cluster.length).mapM
      (ofCluster day address)

def byAddress (settings : CorrelationSettings) (day : Calendar.Date) (threats : List Threat) :
    Except Fault (List FoundCampaign) := do
  let found ← (groupsBy Threat.address threats).mapM fun group =>
    ofAddress settings day group.1 group.2
  return found.flatten

/-! ## One pattern -/

def addressesOf (threats : List Threat) : List (Option String) :=
  (threats.map Threat.address).eraseDups

def ofPattern (day : Calendar.Date) (pattern : String) (members : List Threat) :
    Except Fault FoundCampaign :=
  let attack := Threat.attackOfPattern pattern
  let addresses := (addressesOf members).length
  let name := "Pattern: " ++ attack ++ " from " ++ toString addresses ++ " IPs"
  ofMembers day .patternCluster name [some attack] addresses members

def byPattern (settings : CorrelationSettings) (day : Calendar.Date) (threats : List Threat) :
    Except Fault (List FoundCampaign) :=
  let groups := (groupsBy Threat.pattern threats).filter fun group =>
    !settings.leastAddresses.exceeds (addressesOf group.2).length
  groups.mapM fun group => ofPattern day group.1 group.2

end FoundCampaign

end ThreatWatch
