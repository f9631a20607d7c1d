import ThreatWatch.Proofs.History

/-! Campaigns as summaries of threats: what the record of a campaign says of the
threats that belong to it. A campaign that is found sums up its members, and saving
it and tagging its members changes nothing about that. -/

namespace ThreatWatch

/-- What a campaign says of its members, which are given in the order of their times
and numbers. -/
structure Campaign.Summarises (campaign : Campaign) (members : List Threat) : Prop where
  eventCount : campaign.eventCount = members.length
  /-- It is first seen with one of its members, none of which is earlier. -/
  firstSeen : ∃ threat ∈ members, campaign.firstSeen = threat.time ∧
    ∀ other ∈ members, threat.instant ≤ other.instant
  lastSeen : ∃ threat ∈ members, campaign.lastSeen = threat.time ∧
    ∀ other ∈ members, other.instant ≤ threat.instant
  uniqueAddresses : campaign.uniqueAddresses = (FoundCampaign.addressesOf members).length
  techniques : campaign.techniques =
    Campaign.distinctNames (members.flatMap fun threat => threat.knownTechniques.map some)
  regions : campaign.regions = Campaign.distinctNames (members.map Threat.region)
  severity : campaign.severity =
    (Campaign.severest (members.map Threat.severity).reduceOption).name

namespace Campaign.Summarises

variable {campaign : Campaign} {members : List Threat}

theorem ne_nil (summarises : campaign.Summarises members) : members ≠ [] := by
  rcases summarises.firstSeen with ⟨threat, member, _⟩
  exact List.ne_nil_of_mem member

theorem map_campaign (summarises : campaign.Summarises members) (name : Option String) :
    campaign.Summarises (members.map fun threat => { threat with campaign := name }) where
  eventCount := by rw [List.length_map, summarises.eventCount]
  firstSeen := by
    rcases summarises.firstSeen with ⟨threat, member, time, earliest⟩
    refine ⟨_, List.mem_map_of_mem member, time, fun other otherMember => ?_⟩
    rcases List.mem_map.mp otherMember with ⟨before, beforeMember, rfl⟩
    exact earliest before beforeMember
  lastSeen := by
    rcases summarises.lastSeen with ⟨threat, member, time, latest⟩
    refine ⟨_, List.mem_map_of_mem member, time, fun other otherMember => ?_⟩
    rcases List.mem_map.mp otherMember with ⟨before, beforeMember, rfl⟩
    exact latest before beforeMember
  uniqueAddresses := by
    rw [summarises.uniqueAddresses, FoundCampaign.addressesOf, FoundCampaign.addressesOf,
      List.map_map]
    rfl
  techniques := by
    rw [summarises.techniques, List.flatMap_map]
    rfl
  regions := by
    rw [summarises.regions, List.map_map]
    rfl
  severity := by
    rw [summarises.severity, List.map_map]
    rfl

/-- Nothing but the times of saving is new in the record that is saved, where the members
tell their times on the universal clock. -/
theorem storedCampaign_eq (summarises : campaign.Summarises members)
    (timed : ∀ threat ∈ members, threat.IsTimed) {created updated : Calendar.Moment}
    {record : Campaign} (recorded : Store.storedCampaign created updated campaign = .ok record) :
    record = { campaign with createdAt := some created, updatedAt := some updated } := by
  rcases Store.storedCampaign_eq_ok recorded with ⟨first, last, firstTold, lastTold, rfl⟩
  rcases summarises.firstSeen with ⟨firstThreat, firstMember, firstTime, _⟩
  rcases summarises.lastSeen with ⟨lastThreat, lastMember, lastTime, _⟩
  rw [firstTime, Store.utcIfAny_of_utc (timed firstThreat firstMember), ← firstTime] at firstTold
  rw [lastTime, Store.utcIfAny_of_utc (timed lastThreat lastMember), ← lastTime] at lastTold
  cases firstTold
  cases lastTold
  rfl

theorem stored (summarises : campaign.Summarises members)
    (timed : ∀ threat ∈ members, threat.IsTimed) {created updated : Calendar.Moment}
    {record : Campaign} (recorded : Store.storedCampaign created updated campaign = .ok record) :
    record.Summarises members := by
  rw [summarises.storedCampaign_eq timed recorded]
  exact { summarises with }

end Campaign.Summarises

/-! ## What is found -/

namespace FoundCampaign

variable {settings : CorrelationSettings} {day : Calendar.Date}

theorem summarises_of_ofMembers {kind : CampaignKind} {name : String}
    {attacks : List (Option String)} {members : List Threat} {found : FoundCampaign}
    (told : ofMembers day kind name attacks (addressesOf members).length members = .ok found)
    (inOrder : members.Pairwise fun left right => left.instant ≤ right.instant)
    (some : members ≠ []) : found.campaign.Summarises members := by
  rcases bind_eq_ok_iff.mp told with ⟨ordered, sortable, rest⟩
  rcases bind_eq_ok_iff.mp rest with ⟨id, _, equal⟩
  rw [Threat.eq_sorted_of_sortedByTime sortable, Threat.sorted_eq_self inOrder] at equal
  rw [← pure_eq_ok_iff.mp equal]
  refine ⟨rfl, ?_, ?_, rfl, rfl, rfl, rfl⟩
  · cases members with
    | nil => exact absurd rfl some
    | cons first rest =>
        refine ⟨first, by simp, rfl, fun other member => ?_⟩
        rcases List.mem_cons.mp member with rfl | later
        · exact Int.le_refl _
        · exact (List.pairwise_cons.mp inOrder).1 other later
  · refine ⟨members.getLast some, List.getLast_mem some, ?_, fun other member => ?_⟩
    · simp [List.getLast?_eq_some_getLast some]
    · have split := List.dropLast_append_getLast some
      rw [← split] at inOrder member
      rcases List.mem_append.mp member with earlier | last
      · exact (List.pairwise_append.mp inOrder).2.2 other earlier _ (by simp)
      · exact Int.le_of_eq (congrArg Threat.instant (List.mem_singleton.mp last))

theorem length_addressesOf_of_same {members : List Threat} {address : Option String}
    (same : ∀ threat ∈ members, threat.address = address) (some : members ≠ []) :
    (addressesOf members).length = 1 := by
  have addresses : members.map Threat.address = List.replicate members.length address := by
    refine List.eq_replicate_iff.mpr ⟨List.length_map _, fun other member => ?_⟩
    rcases List.mem_map.mp member with ⟨threat, threatMember, rfl⟩
    exact same threat threatMember
  have positive : members.length ≠ 0 := fun none => some (List.length_eq_zero_iff.mp none)
  rw [addressesOf, addresses]
  rcases Nat.exists_eq_succ_of_ne_zero positive with ⟨count, equal⟩
  rw [equal, List.replicate_succ, List.eraseDups_cons]
  have none : (List.replicate count address).filter (fun other => !other == address) = [] := by
    refine List.filter_eq_nil_iff.mpr fun other member => ?_
    simp [List.eq_of_mem_replicate member]
  rw [none]
  rfl

theorem summarises_of_byAddress {threats : List Threat} {founds : List FoundCampaign}
    (told : byAddress settings day threats = .ok founds)
    (inOrder : threats.Pairwise fun left right => left.instant ≤ right.instant)
    {found : FoundCampaign} (member : found ∈ founds) :
    found.campaign.Summarises found.members ∧ found.members.Sublist threats := by
  rcases (mem_byAddress_iff told).mp member with ⟨address, kept, clusterTold⟩
  have isWindow := (List.mem_filter.mp kept).1
  have some := Threat.ne_nil_of_mem_windows isWindow
  have peersInOrder : (Threat.sentFrom address threats).Pairwise
      fun left right => left.instant ≤ right.instant := inOrder.sublist List.filter_sublist
  have ofPeers : found.members.Sublist (Threat.sentFrom address threats) := by
    have part := (List.sublist_flatten_of_mem isWindow).trans
      (Threat.flatten_windows_sublist _ _)
    rwa [Threat.sorted_eq_self peersInOrder] at part
  have sublist := ofPeers.trans List.filter_sublist
  have sameAddress : ∀ threat ∈ found.members, threat.address = address :=
    fun threat inMembers => eq_of_beq (List.mem_filter.mp (ofPeers.mem inMembers)).2
  unfold ofCluster at clusterTold
  rw [← length_addressesOf_of_same sameAddress some] at clusterTold
  exact ⟨summarises_of_ofMembers clusterTold (inOrder.sublist sublist) some, sublist⟩

theorem summarises_of_byPattern {threats : List Threat} {founds : List FoundCampaign}
    (told : byPattern settings day threats = .ok founds)
    (inOrder : threats.Pairwise fun left right => left.instant ≤ right.instant)
    {found : FoundCampaign} (member : found ∈ founds) :
    found.campaign.Summarises found.members ∧ found.members.Sublist threats := by
  rcases exists_of_mem_of_mapM_eq_ok told member with ⟨group, kept, groupTold⟩
  have groupMember := (List.mem_filter.mp kept).1
  have sublist : group.2.Sublist threats := by
    rw [(mem_groupsBy.mp groupMember).2]
    exact List.filter_sublist
  unfold ofPattern at groupTold
  rw [members_of_ofMembers groupTold]
  exact ⟨summarises_of_ofMembers groupTold (inOrder.sublist sublist)
    (ne_nil_of_mem_groupsBy groupMember), sublist⟩

end FoundCampaign

theorem Scan.summarises_of_findings {settings : CorrelationSettings} {now : Calendar.Moment}
    {store : Store} {found : Scan.Findings} (told : Scan.findings settings now store = .ok found)
    {campaign : FoundCampaign} (member : campaign ∈ found.all) :
    campaign.campaign.Summarises campaign.members ∧
      campaign.members.Sublist (Threat.sorted store.threats) := by
  rcases Scan.findings_eq_ok_iff.mp told with
    ⟨since, reading, threats, _, _, fetched, addressTold, patternTold⟩
  rcases Store.unclustered_eq_ok_iff.mp fetched with ⟨_, rfl⟩
  have ofStore : (Threat.sorted (store.awaiting since.instant)).Sublist
      (Threat.sorted store.threats) := by
    rw [Store.awaiting, ← Threat.filter_sorted]
    exact List.filter_sublist
  have inOrder := Threat.pairwise_sorted (store.awaiting since.instant)
  rcases List.mem_append.mp member with atAddress | ofPattern
  · rcases FoundCampaign.summarises_of_byAddress addressTold inOrder atAddress with
      ⟨summarises, sublist⟩
    exact ⟨summarises, sublist.trans ofStore⟩
  · have leftSublist : (Scan.leftOver found.byAddress
        (Threat.sorted (store.awaiting since.instant))).Sublist
          (Threat.sorted (store.awaiting since.instant)) := List.filter_sublist
    rcases FoundCampaign.summarises_of_byPattern patternTold (inOrder.sublist leftSublist)
      ofPattern with ⟨summarises, sublist⟩
    exact ⟨summarises, (sublist.trans leftSublist).trans ofStore⟩

end ThreatWatch
