import ThreatWatch.Event.Severity

/-! Campaigns: threats that belong together, summed up in one record, and how
two records of one campaign are merged. -/

namespace ThreatWatch

inductive CampaignKind where
  | addressCluster
  | patternCluster
  | manual
  deriving DecidableEq, Repr

namespace CampaignKind

def all : List CampaignKind := [.addressCluster, .patternCluster, .manual]

def name : CampaignKind → String
  | .addressCluster => "ip_cluster"
  | .patternCluster => "pattern_cluster"
  | .manual => "manual"

def ofName? (name : String) : Option CampaignKind :=
  all.find? fun kind => kind.name = name

@[simp] theorem ofName?_name (kind : CampaignKind) : ofName? kind.name = some kind := by
  cases kind <;> rfl

def ofValue (value : Value) : Except Fault CampaignKind :=
  match value.text?.bind ofName? with
  | some kind => .ok kind
  | none => do .error (.invalidCampaignType (← value.quoted))

end CampaignKind

inductive CampaignStatus where
  | active
  | resolved
  | falsePositive
  deriving DecidableEq, Repr

namespace CampaignStatus

def all : List CampaignStatus := [.active, .resolved, .falsePositive]

def name : CampaignStatus → String
  | .active => "active"
  | .resolved => "resolved"
  | .falsePositive => "false_positive"

def ofName? (name : String) : Option CampaignStatus :=
  all.find? fun status => status.name = name

@[simp] theorem ofName?_name (status : CampaignStatus) : ofName? status.name = some status := by
  cases status <;> rfl

theorem all_names : all.map name = Fault.campaignStatuses := rfl

def ofValue (value : Value) : Except Fault CampaignStatus :=
  match value.text?.bind ofName? with
  | some status => .ok status
  | none => do .error (.invalidStatus (← value.quoted))

/-- The status that a listing is restricted to; nothing restricts it to
none. -/
def filterOfValue (value : Value) : Except Fault (Option CampaignStatus) :=
  match value with
  | .null => .ok none
  | value =>
      match value.text?.bind ofName? with
      | some status => .ok (some status)
      | none => do .error (.invalidStatusFilter (← value.quoted))

end CampaignStatus

structure Campaign where
  id : String
  name : String
  kind : CampaignKind
  firstSeen : Option Calendar.Moment
  lastSeen : Option Calendar.Moment
  eventCount : Int
  uniqueAddresses : Int
  attacks : List (Option String) := []
  techniques : List (Option String) := []
  regions : List (Option String) := []
  severity : String := "medium"
  status : CampaignStatus := .active
  createdAt : Option Calendar.Moment := none
  updatedAt : Option Calendar.Moment := none
  deriving DecidableEq, Repr

namespace Campaign

def distinctNames (names : List (Option String)) : List (Option String) :=
  (names.reduceOption.eraseDups).map some

/-! ## Severity -/

/-- The most severe of several levels, in any letter case; medium where none of
them is known. -/
def severest (levels : List String) : Severity :=
  (Severity.highest? (levels.filterMap fun level => Severity.ofName? (Text.lower level))).getD
    .medium

def severestOfValues (values : List Value) : Except Fault Severity := do
  return severest (← (values.filter Value.isPresent).mapM Value.shown)

/-! ## Merging -/

/-- Chooses between two times of one line; the first stays unless the second is
to be preferred. -/
def chooseTime (prefers : Int → Int → Bool) :
    Option Calendar.Moment → Option Calendar.Moment → Except Fault (Option Calendar.Moment)
  | some left, some right =>
      if left.comparable right then
        .ok (some (if prefers right.instant left.instant then right else left))
      else .error .mixedOffsets
  | _, _ => .error .notOrdered

def earlier (left right : Option Calendar.Moment) : Except Fault (Option Calendar.Moment) :=
  chooseTime (fun candidate current => decide (candidate < current)) left right

def later (left right : Option Calendar.Moment) : Except Fault (Option Calendar.Moment) :=
  chooseTime (fun candidate current => decide (current < candidate)) left right

/-- A campaign together with a new finding of it. What it is stays; the times
widen, the counts do not shrink, the lists are joined and the severity only
rises. -/
def merge (existing incoming : Campaign) : Except Fault Campaign := do
  return { existing with
    firstSeen := ← earlier existing.firstSeen incoming.firstSeen
    lastSeen := ← later existing.lastSeen incoming.lastSeen
    eventCount := max existing.eventCount incoming.eventCount
    uniqueAddresses := max existing.uniqueAddresses incoming.uniqueAddresses
    attacks := distinctNames (existing.attacks ++ incoming.attacks)
    techniques := distinctNames (existing.techniques ++ incoming.techniques)
    regions := distinctNames (existing.regions ++ incoming.regions)
    severity := (severest [existing.severity, incoming.severity]).name }

end Campaign

end ThreatWatch
