import ThreatWatch.Store.Basic

/-! Views of the campaigns in a store: pages of them and counts over all. -/

namespace ThreatWatch

/-! ## Pages -/

structure CampaignPage where
  items : List Campaign
  total : Int
  page : Int
  limit : Int

namespace CampaignPage

def continues (page limit total : Int) : Bool :=
  decide ((page - 1) * limit + limit < total)

def hasMore (page : CampaignPage) : Bool :=
  continues page.page page.limit page.total

def limitRange (limit : Int) : Int :=
  min (max 1 limit) 1000

end CampaignPage

namespace Store

/-- Campaigns seen later come first, those seen at one time by their
identities. -/
def listedBefore (left right : Campaign) : Bool :=
  let first := (left.lastSeen.map Calendar.Moment.instant).getD 0
  let second := (right.lastSeen.map Calendar.Moment.instant).getD 0
  decide (second < first) || (first == second && !Text.precedes right.id left.id)

def listed (store : Store) (status : Option CampaignStatus) : List Campaign :=
  sortBy listedBefore ((store.campaigns.map Prod.snd).filter fun campaign =>
    status.all fun status => campaign.status = status)

/-- One page of the campaigns. The limit is at least one and at most a thousand,
and pages count from one. -/
def campaignPage (store : Store) (page limit : Int) (status : Option CampaignStatus) :
    Except Fault CampaignPage := do
  let limit := CampaignPage.limitRange limit
  let page := max 1 page
  let campaigns := store.listed status
  let offset ← storedInt ((page - 1) * limit)
  return ⟨(campaigns.drop offset.toNat).take limit.toNat, campaigns.length, page, limit⟩

/-! ## Counts -/

structure CampaignStats where
  campaigns : Nat
  active : Nat
  correlated : Nat
  /-- The most frequent attacks among the threats that belong to a campaign. -/
  attacks : List (String × Nat)

def tally (names : List String) : List (String × Nat) :=
  names.eraseDups.map fun name => (name, names.count name)

def ranksBefore (left right : String × Nat) : Bool :=
  decide (right.2 < left.2) || (left.2 == right.2 && !Text.precedes right.1 left.1)

/-- The first names of a ranking; a negative number keeps all. -/
def topOf (count : Int) (ranking : List (String × Nat)) : List (String × Nat) :=
  if count < 0 then ranking else ranking.take count.toNat

def correlated (store : Store) : List Threat :=
  store.threats.filter fun threat => threat.campaign.isSome

def stats (store : Store) (top : Int) : Except Fault CampaignStats := do
  let top ← storedInt top
  let ranking := sortBy ranksBefore (tally (store.correlated.filterMap Threat.attack))
  return {
    campaigns := store.campaigns.length
    active := store.campaigns.countP fun entry => entry.2.status = .active
    correlated := store.correlated.length
    attacks := topOf top ranking }

/-- How many attacks a report lists unless it asks for another number. -/
def reportedAttacks : Int := 10

end Store

end ThreatWatch
