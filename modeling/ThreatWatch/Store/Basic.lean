import ThreatWatch.Campaign.Basic
import ThreatWatch.Threat.Basic

/-! The store of threats and campaigns. All its times are on the clock of
universal time. Threats are numbered from one in the order of their arrival; a
campaign is found by its identity. -/

namespace ThreatWatch

structure Store where
  /-- The threats in the order of their numbers. -/
  threats : List Threat := []
  /-- The campaigns by their identities. -/
  campaigns : Table Campaign := []

namespace Store

/-! ## Stored forms -/

/-- The same time on the clock of universal time; a time without offset is taken
to be on it already. -/
def utcOf (time : Calendar.Moment) : Except Fault Calendar.Moment :=
  match time.toUtc? with
  | some time => .ok time
  | none => .error .dateOutOfRange

def utcIfAny : Option Calendar.Moment → Except Fault (Option Calendar.Moment)
  | some time => some <$> utcOf time
  | none => .ok none

def fits (number : Int) : Bool :=
  decide (-0x8000000000000000 ≤ number ∧ number < 0x8000000000000000)

def storedInt (number : Int) : Except Fault Int :=
  if fits number then .ok number else .error .integerTooLarge

/-- A confidence as a double; what is missing or undefined is zero, and zero has
no sign. -/
def storedConfidence : Option Amount → Except Fault Binary64
  | none => .ok .zero
  | some (.whole number) => (Binary64.ofInt? number).elim (.error .integerTooLarge) .ok
  | some (.real .undefined) | some (.real (.finite _ 0)) => .ok .zero
  | some (.real number) => .ok number

/-- The record of a threat under its number. One that does not tell when it was
received was received now, and one that does not tell its severity has the
medium one. -/
def storedThreat (id : Nat) (now : Calendar.Moment) (threat : Threat) : Except Fault Threat := do
  return { threat with
    id := some id
    time := ← utcIfAny threat.time
    techniques := some threat.knownTechniques
    sigmaRule := some (threat.sigmaRule.getD "")
    region := some (threat.region.getD "")
    confidence := some (.real (← storedConfidence threat.confidence))
    severity := some (threat.severity.getD Severity.medium.name)
    receivedAt := some (← utcOf (threat.receivedAt.getD now)) }

def storedCampaign (created updated : Calendar.Moment) (campaign : Campaign) :
    Except Fault Campaign := do
  return { campaign with
    firstSeen := ← utcIfAny campaign.firstSeen
    lastSeen := ← utcIfAny campaign.lastSeen
    eventCount := ← storedInt campaign.eventCount
    uniqueAddresses := ← storedInt campaign.uniqueAddresses
    createdAt := some created
    updatedAt := some updated }

/-! ## Threats -/

/-- A threat must tell where it came from, what it was, when it was and by which
hash it is known. -/
def isComplete (threat : Threat) : Bool :=
  threat.address.isSome && threat.attack.isSome && threat.time.isSome && threat.hash.isSome

def holdsHash (store : Store) (threat : Threat) : Bool :=
  store.threats.any fun stored => stored.hash == threat.hash

/-- Adds a threat under the next number. One that is incomplete or already known
by its hash is refused and leaves the store as it is. -/
def insert (store : Store) (now : Calendar.Moment) (threat : Threat) :
    Except Fault (Option Nat × Store) := do
  let id := store.threats.length + 1
  let record ← storedThreat id now threat
  if isComplete threat && !store.holdsHash threat then
    return (some id, { store with threats := store.threats ++ [record] })
  else return (none, store)

/-- The threats received after a time that belong to no campaign, in order of
time and then of their numbers. -/
def unclustered (store : Store) (since : Calendar.Moment) : Except Fault (List Threat) := do
  let since ← utcOf since
  return Threat.sorted (store.threats.filter fun threat =>
    threat.campaign.isNone && threat.receivedAt.any fun received =>
      decide (since.instant < received.instant))

def threatsOf (store : Store) (campaign : String) : List Threat :=
  Threat.sorted (store.threats.filter fun threat => threat.campaign == some campaign)

def tag (store : Store) (campaign : String) (ids : List Int) : Except Fault Store :=
  if ids.all fits then
    .ok { store with threats := store.threats.map fun threat =>
      if threat.id.any ids.contains then { threat with campaign := some campaign } else threat }
  else .error .integerTooLarge

/-! ## Campaigns -/

def campaign? (store : Store) (id : String) : Option Campaign :=
  store.campaigns.get? id

/-- Writes a campaign; the time at which it was first saved stays. -/
def save (store : Store) (now : Calendar.Moment) (campaign : Campaign) : Except Fault Store := do
  let created := ((store.campaign? campaign.id).bind Campaign.createdAt).getD now
  let record ← storedCampaign created now campaign
  return { store with campaigns := store.campaigns.put campaign.id record }

end Store

end ThreatWatch
