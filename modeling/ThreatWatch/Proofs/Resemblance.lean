import ThreatWatch.Proofs.Likeness

/-! Campaigns that resemble each other. What a scan finds depends on what the threats
that wait are like and not on their numbers: two stores in which the same attacks wait
yield, one for one, campaigns of the same attacks that say the same of them. -/

namespace ThreatWatch

theorem reduceOption_perm {α : Type u} {left right : List (Option α)} (perm : left.Perm right) :
    left.reduceOption.Perm right.reduceOption :=
  perm.filterMap id

theorem Severity.highest?_perm {left right : List Severity} (perm : left.Perm right) :
    highest? left = highest? right := by
  induction perm with
  | nil => rfl
  | cons severity _ induction => rw [highest?, highest?, induction]
  | swap first second rest =>
      -- of two severities of one rank neither is another than the other
      simp only [highest?]
      rcases highest? rest with _ | (_ | _ | _ | _) <;> cases first <;> cases second <;> rfl
  | trans _ _ first second => exact first.trans second

namespace Campaign

/-- Campaigns that say the same, in records of different names. -/
structure Resembles (left right : Campaign) : Prop where
  kind : left.kind = right.kind
  firstSeen : left.firstSeen = right.firstSeen
  lastSeen : left.lastSeen = right.lastSeen
  eventCount : left.eventCount = right.eventCount
  uniqueAddresses : left.uniqueAddresses = right.uniqueAddresses
  severity : left.severity = right.severity
  attacks : left.attacks.Perm right.attacks
  techniques : left.techniques.Perm right.techniques
  regions : left.regions.Perm right.regions

/-! ## Summaries of the same attacks -/

theorem distinctNames_perm {left right : List (Option String)} (perm : left.Perm right) :
    (distinctNames left).Perm (distinctNames right) :=
  (eraseDups_perm (reduceOption_perm perm)).map some

theorem severest_perm {left right : List String} (perm : left.Perm right) :
    severest left = severest right := by
  rw [severest, severest, Severity.highest?_perm (perm.filterMap _)]

end Campaign

theorem Threat.time_eq_of_instant_eq {left right : Threat} (leftTimed : left.IsTimed)
    (rightTimed : right.IsTimed) (same : left.instant = right.instant) :
    left.time = right.time := by
  rcases Option.bind_eq_some_iff.mp leftTimed with ⟨⟨wall, inRange, offset⟩, leftTime, leftUtc⟩
  rcases Option.bind_eq_some_iff.mp rightTimed with ⟨⟨other, _, _⟩, rightTime, rightUtc⟩
  dsimp only at leftUtc rightUtc
  subst leftUtc rightUtc
  rw [instant, instant, leftTime, rightTime] at same
  have sameWall : wall = other := by
    simpa [Calendar.Moment.instant, Int.natCast_inj] using same
  subst sameWall
  exact leftTime.trans rightTime.symm

theorem Campaign.Summarises.resembles {left right : Campaign} {members others : List Threat}
    (leftSums : left.Summarises members) (rightSums : right.Summarises others)
    (same : Threat.gist members = Threat.gist others)
    (membersTimed : ∀ threat ∈ members, threat.IsTimed)
    (othersTimed : ∀ threat ∈ others, threat.IsTimed) (kind : left.kind = right.kind)
    (attacks : left.attacks.Perm right.attacks) : left.Resembles right where
  kind := kind
  firstSeen := by
    rcases leftSums.firstSeen with ⟨first, firstMember, firstTime, leads⟩
    rcases rightSums.firstSeen with ⟨second, secondMember, secondTime, otherLeads⟩
    rw [firstTime, secondTime]
    exact Threat.time_eq_of_instant_eq (membersTimed first firstMember)
      (othersTimed second secondMember)
      (Threat.instant_eq_of_first same firstMember secondMember leads otherLeads)
  lastSeen := by
    rcases leftSums.lastSeen with ⟨first, firstMember, firstTime, trails⟩
    rcases rightSums.lastSeen with ⟨second, secondMember, secondTime, otherTrails⟩
    rw [firstTime, secondTime]
    exact Threat.time_eq_of_instant_eq (membersTimed first firstMember)
      (othersTimed second secondMember)
      (Threat.instant_eq_of_last same firstMember secondMember trails otherTrails)
  eventCount := by
    rw [leftSums.eventCount, rightSums.eventCount, Threat.length_of_gist same]
  uniqueAddresses := by
    rw [leftSums.uniqueAddresses, rightSums.uniqueAddresses,
      CorrelationSettings.length_addressesOf_of_gist same]
  severity := by
    have severities : (members.map Threat.severity).reduceOption.Perm
        (others.map Threat.severity).reduceOption :=
      reduceOption_perm (Threat.map_perm_of_gist (fun _ => rfl) same)
    rw [leftSums.severity, rightSums.severity, severest_perm severities]
  attacks := attacks
  techniques := by
    have blind (threat : Threat) :
        threat.bare.knownTechniques.map some = threat.knownTechniques.map some := rfl
    rw [leftSums.techniques, rightSums.techniques, List.flatMap_def, List.flatMap_def]
    exact distinctNames_perm (Threat.map_perm_of_gist blind same).flatten
  regions := by
    have blind (threat : Threat) : threat.bare.region = threat.region := rfl
    rw [leftSums.regions, rightSums.regions]
    exact distinctNames_perm (Threat.map_perm_of_gist blind same)

/-! ## What is found -/

namespace FoundCampaign

variable {settings : CorrelationSettings} {day : Calendar.Date} {threats : List Threat}
  {founds : List FoundCampaign} {found : FoundCampaign}

theorem campaign_of_ofMembers {kind : CampaignKind} {name : String}
    {attacks : List (Option String)} {addresses : Nat} {members : List Threat}
    (told : ofMembers day kind name attacks addresses members = .ok found) :
    found.campaign.kind = kind ∧ found.campaign.attacks = attacks := by
  rcases bind_eq_ok_iff.mp told with ⟨ordered, _, rest⟩
  rcases bind_eq_ok_iff.mp rest with ⟨id, _, equal⟩
  rw [← pure_eq_ok_iff.mp equal]
  exact ⟨rfl, rfl⟩

theorem campaign_of_byAddress (told : byAddress settings day threats = .ok founds)
    (member : found ∈ founds) :
    found.campaign.kind = .addressCluster ∧
      found.campaign.attacks = Campaign.distinctNames (found.members.map Threat.attack) := by
  rcases (mem_byAddress_iff told).mp member with ⟨_, _, clusterTold⟩
  exact campaign_of_ofMembers clusterTold

theorem campaign_of_byPattern (told : byPattern settings day threats = .ok founds)
    (member : found ∈ founds) :
    found.campaign.kind = .patternCluster ∧ ∀ threat ∈ found.members,
      found.campaign.attacks = [some (Threat.attackOfPattern threat.pattern)] := by
  rcases exists_of_mem_of_mapM_eq_ok told member with ⟨group, kept, groupTold⟩
  have ofAll := (mem_groupsBy.mp (List.mem_filter.mp kept).1).2
  rcases campaign_of_ofMembers groupTold with ⟨kind, attacks⟩
  refine ⟨kind, fun threat inMembers => ?_⟩
  rw [members_of_ofMembers groupTold, ofAll] at inMembers
  rw [attacks, eq_of_beq (List.mem_filter.mp inMembers).2]

/-- Campaigns of the same attacks that say the same of them. -/
structure Resembles (left right : FoundCampaign) : Prop where
  members : Threat.gist left.members = Threat.gist right.members
  campaign : left.campaign.Resembles right.campaign

theorem rel_of_members {left right : List FoundCampaign} {one other : List (List Threat)}
    (leftMembers : left.map members = one) (rightMembers : right.map members = other)
    (perm : (one.map Threat.gist).Perm (other.map Threat.gist)) :
    Multiset.Rel (fun first second => Threat.gist first.members = Threat.gist second.members)
      (left : Multiset FoundCampaign) (right : Multiset FoundCampaign) := by
  have same : Multiset.Rel (· = ·)
      ((left : Multiset FoundCampaign).map fun found => Threat.gist found.members)
      ((right : Multiset FoundCampaign).map fun found => Threat.gist found.members) := by
    rw [Multiset.rel_eq, Multiset.map_coe, Multiset.map_coe, Multiset.coe_eq_coe]
    rw [← leftMembers, ← rightMembers, List.map_map, List.map_map] at perm
    exact perm
  exact Multiset.rel_map.mp same

end FoundCampaign

namespace Scan

variable {settings : CorrelationSettings} {now : Calendar.Moment} {one other : Store}
  {left right : Findings}

theorem rel_findings (oneSound : one.IsSound) (otherSound : other.IsSound)
    (same : ∀ since, Threat.gist (one.awaiting since) = Threat.gist (other.awaiting since))
    (leftTold : findings settings now one = .ok left)
    (rightTold : findings settings now other = .ok right) :
    Multiset.Rel FoundCampaign.Resembles (left.all : Multiset FoundCampaign)
      (right.all : Multiset FoundCampaign) := by
  rcases members_of_findings oneSound leftTold with ⟨span, isSpan, leftCrowds, leftSpreads⟩
  rcases members_of_findings otherSound rightTold with ⟨_, otherSpan, rightCrowds, rightSpreads⟩
  cases isSpan.symm.trans otherSpan
  have sameSorted : Threat.gist (Threat.sorted (one.awaiting (now.instant - span))) =
      Threat.gist (Threat.sorted (other.awaiting (now.instant - span))) := by
    rw [Threat.gist_sorted, Threat.gist_sorted, same]
  have nodup {store : Store} (sound : store.IsSound) :
      (Threat.sorted (store.awaiting (now.instant - span))).Nodup :=
    (Threat.sorted_perm _).nodup_iff.mpr (sound.nodup_threats.sublist List.filter_sublist)
  have timed {store : Store} (sound : store.IsSound) {found : Findings}
      (told : findings settings now store = .ok found) {campaign : FoundCampaign}
      (member : campaign ∈ found.all) : ∀ threat ∈ campaign.members, threat.IsTimed :=
    fun threat inMembers => sound.timed threat
      (stored_of_mem_members sound told (List.mem_flatMap.mpr ⟨campaign, member, inMembers⟩)).1
  have resembles {first second : FoundCampaign} (firstMember : first ∈ left.all)
      (secondMember : second ∈ right.all)
      (sameMembers : Threat.gist first.members = Threat.gist second.members)
      (kind : first.campaign.kind = second.campaign.kind)
      (attacks : first.campaign.attacks.Perm second.campaign.attacks) : first.Resembles second :=
    ⟨sameMembers, (summarises_of_findings leftTold firstMember).1.resembles
      (summarises_of_findings rightTold secondMember).1 sameMembers
      (timed oneSound leftTold firstMember) (timed otherSound rightTold secondMember) kind attacks⟩
  rcases findings_eq_ok_iff.mp leftTold with ⟨_, _, _, _, _, _, leftAddress, leftPattern⟩
  rcases findings_eq_ok_iff.mp rightTold with ⟨_, _, _, _, _, _, rightAddress, rightPattern⟩
  rw [Findings.all, Findings.all, ← Multiset.coe_add, ← Multiset.coe_add]
  refine Multiset.Rel.add ?_ ?_
  · refine (FoundCampaign.rel_of_members leftCrowds rightCrowds
      (settings.crowds_perm_of_gist sameSorted)).mono fun first firstMember second secondMember
        sameMembers => ?_
    rcases FoundCampaign.campaign_of_byAddress leftAddress firstMember with ⟨kind, attacks⟩
    rcases FoundCampaign.campaign_of_byAddress rightAddress secondMember with
      ⟨otherKind, otherAttacks⟩
    refine resembles (List.mem_append_left _ firstMember) (List.mem_append_left _ secondMember)
      sameMembers (kind.trans otherKind.symm) ?_
    rw [attacks, otherAttacks]
    exact Campaign.distinctNames_perm (Threat.map_perm_of_gist (fun _ => rfl) sameMembers)
  · have sameSparse := settings.gist_sparse sameSorted (nodup oneSound) (nodup otherSound)
    refine (FoundCampaign.rel_of_members leftSpreads rightSpreads
      (settings.spreads_perm_of_gist sameSparse)).mono fun first firstMember second secondMember
        sameMembers => ?_
    have inLeft : first ∈ left.all := List.mem_append_right _ firstMember
    rcases FoundCampaign.campaign_of_byPattern leftPattern firstMember with ⟨kind, attacks⟩
    rcases FoundCampaign.campaign_of_byPattern rightPattern secondMember with
      ⟨otherKind, otherAttacks⟩
    -- the attack is that of any member, and one member is like one of the other campaign
    rcases List.exists_mem_of_ne_nil _ (summarises_of_findings leftTold inLeft).1.ne_nil with
      ⟨threat, inMembers⟩
    have patterns : (first.members.map Threat.pattern).Perm (second.members.map Threat.pattern) :=
      Threat.map_perm_of_gist (fun _ => rfl) sameMembers
    rcases List.mem_map.mp (patterns.mem_iff.mp (List.mem_map_of_mem inMembers)) with
      ⟨alike, alikeMember, samePattern⟩
    refine resembles inLeft (List.mem_append_right _ secondMember) sameMembers
      (kind.trans otherKind.symm) ?_
    rw [attacks threat inMembers, otherAttacks alike alikeMember, samePattern]

end Scan

end ThreatWatch
