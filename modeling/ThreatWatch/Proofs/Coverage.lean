import ThreatWatch.Campaign.Found
import ThreatWatch.Proofs.Windows

/-! Which threats the settings call for: those whose window of time at their
address is large enough, and of the others those whose pattern comes from enough
addresses. The campaigns that are found have exactly these as their members. -/

namespace ThreatWatch

namespace Threat

def sentFrom (address : Option String) (threats : List Threat) : List Threat :=
  threats.filter fun threat => threat.address == address

def peers (threats : List Threat) (threat : Threat) : List Threat :=
  threats.filter fun other => other.address == threat.address

def alike (threats : List Threat) (threat : Threat) : List Threat :=
  threats.filter fun other => other.pattern == threat.pattern

theorem peers_eq_of_mem {threats : List Threat} {threat other : Threat}
    (member : other ∈ threat.peers threats) (more : List Threat) :
    other.peers more = threat.peers more := by
  have sameAddress := eq_of_beq (List.mem_filter.mp member).2
  rw [peers, sameAddress, peers]

end Threat

namespace CorrelationSettings

variable (settings : CorrelationSettings)

/-! ## Windows at one address -/

def isLarge (window : List Threat) : Bool :=
  !settings.leastEvents.exceeds window.length

def isSparse (threats : List Threat) (threat : Threat) : Bool :=
  (Threat.windows settings.windowMinutes (threat.peers threats)).all fun window =>
    !window.contains threat || settings.leastEvents.exceeds window.length

def sparse (threats : List Threat) : List Threat :=
  threats.filter (settings.isSparse threats)

def crowds (threats : List Threat) : List (List Threat) :=
  (groupsBy Threat.address threats).flatMap fun group =>
    (Threat.windows settings.windowMinutes group.2).filter settings.isLarge

theorem isSparse_eq_false_iff {threats : List Threat} {threat : Threat} :
    settings.isSparse threats threat = false ↔
      ∃ window ∈ Threat.windows settings.windowMinutes (threat.peers threats),
        threat ∈ window ∧ settings.isLarge window = true := by
  simp [isSparse, isLarge, List.all_eq_false]

theorem mem_flatten_crowds {threats : List Threat} {threat : Threat} :
    threat ∈ (settings.crowds threats).flatten ↔
      threat ∈ threats ∧ settings.isSparse threats threat = false := by
  rw [isSparse_eq_false_iff, List.mem_flatten]
  constructor
  · rintro ⟨window, member, inWindow⟩
    rcases List.mem_flatMap.mp member with ⟨group, groupMember, kept⟩
    rcases List.mem_filter.mp kept with ⟨windowMember, large⟩
    have inGroup : threat ∈ group.2 := Threat.mem_of_mem_windows windowMember inWindow
    have ofGroup := (mem_groupsBy.mp groupMember).2
    rw [ofGroup] at inGroup
    rcases List.mem_filter.mp inGroup with ⟨inThreats, sameAddress⟩
    have groupPeers : group.2 = threat.peers threats := by
      rw [ofGroup, Threat.peers, eq_of_beq sameAddress]
    exact ⟨inThreats, window, groupPeers ▸ windowMember, inWindow, large⟩
  · rintro ⟨inThreats, window, windowMember, inWindow, large⟩
    refine ⟨window, List.mem_flatMap.mpr ⟨(threat.address, threat.peers threats), ?_, ?_⟩,
      inWindow⟩
    · exact mem_groupsBy.mpr ⟨List.mem_map_of_mem inThreats, rfl⟩
    · exact List.mem_filter.mpr ⟨windowMember, large⟩

theorem flatten_crowds_subperm (threats : List Threat) :
    (settings.crowds threats).flatten.Subperm threats := by
  have sublist : (settings.crowds threats).flatten.Sublist
      ((groupsBy Threat.address threats).flatMap fun group => Threat.sorted group.2) := by
    unfold crowds
    rw [List.flatMap_def, List.flatten_flatten, List.map_map, ← List.flatMap_def]
    refine List.Sublist.flatMap_right _ fun group _ => ?_
    exact List.filter_sublist.flatten.trans (Threat.flatten_windows_sublist _ _)
  have perm : ((groupsBy Threat.address threats).flatMap fun group =>
      Threat.sorted group.2).Perm threats :=
    (List.Perm.flatMap_left _ fun group _ => Threat.sorted_perm group.2).trans
      (flatMap_groupsBy_perm Threat.address threats)
  exact sublist.subperm.trans perm.subperm

theorem ne_nil_of_mem_crowds {threats window : List Threat}
    (member : window ∈ settings.crowds threats) : window ≠ [] := by
  rcases List.mem_flatMap.mp member with ⟨group, _, kept⟩
  exact Threat.ne_nil_of_mem_windows (List.mem_filter.mp kept).1

theorem crowds_eq_nil_iff {threats : List Threat} :
    settings.crowds threats = [] ↔ ∀ threat ∈ threats, settings.isSparse threats threat = true := by
  constructor
  · intro none threat member
    cases sparse : settings.isSparse threats threat with
    | true => rfl
    | false =>
        have crowded := settings.mem_flatten_crowds.mpr ⟨member, sparse⟩
        rw [none] at crowded
        cases crowded
  · intro sparse
    refine List.eq_nil_iff_forall_not_mem.mpr fun window member => ?_
    rcases List.exists_mem_of_ne_nil _ (settings.ne_nil_of_mem_crowds member) with
      ⟨threat, inWindow⟩
    rcases settings.mem_flatten_crowds.mp (List.mem_flatten_of_mem member inWindow) with
      ⟨inThreats, notSparse⟩
    rw [sparse threat inThreats] at notSparse
    cases notSparse

theorem isSparse_of_mem_window {threats : List Threat} (nodup : threats.Nodup) {threat : Threat}
    {span : Int} (isSpan : Calendar.spanOf Calendar.microsPerMinute settings.windowMinutes = .ok span)
    {window : List Threat}
    (member : window ∈ Threat.windows settings.windowMinutes (threat.peers threats))
    {other : Threat} (inWindow : other ∈ window) :
    settings.isSparse threats other = !settings.isLarge window := by
  have otherPeer := Threat.mem_of_mem_windows member inWindow
  have samePeers := Threat.peers_eq_of_mem otherPeer threats
  have nodupPeers : (threat.peers threats).Nodup := nodup.sublist List.filter_sublist
  rcases Threat.existsUnique_window isSpan nodupPeers otherPeer with ⟨own, _, _, unique⟩
  cases large : settings.isLarge window with
  | true =>
      refine settings.isSparse_eq_false_iff.mpr ⟨window, ?_, inWindow, large⟩
      rwa [samePeers]
  | false =>
      cases sparse : settings.isSparse threats other with
      | true => rfl
      | false =>
          rcases settings.isSparse_eq_false_iff.mp sparse with
            ⟨otherWindow, otherMember, inOther, otherLarge⟩
          rw [samePeers] at otherMember
          rw [unique otherWindow otherMember inOther, ← unique window member inWindow,
            large] at otherLarge
          cases otherLarge

/-! ## Patterns from several addresses -/

def isRare (threats : List Threat) (threat : Threat) : Bool :=
  settings.leastAddresses.exceeds (FoundCampaign.addressesOf (threat.alike threats)).length

def spreads (threats : List Threat) : List (List Threat) :=
  ((groupsBy Threat.pattern threats).filter fun group =>
    !settings.leastAddresses.exceeds (FoundCampaign.addressesOf group.2).length).map Prod.snd

theorem mem_flatten_spreads {threats : List Threat} {threat : Threat} :
    threat ∈ (settings.spreads threats).flatten ↔
      threat ∈ threats ∧ settings.isRare threats threat = false := by
  rw [List.mem_flatten]
  constructor
  · rintro ⟨members, spread, inMembers⟩
    rcases List.mem_map.mp spread with ⟨group, kept, rfl⟩
    rcases List.mem_filter.mp kept with ⟨groupMember, enough⟩
    have ofGroup := (mem_groupsBy.mp groupMember).2
    rw [ofGroup] at inMembers
    rcases List.mem_filter.mp inMembers with ⟨inThreats, samePattern⟩
    have groupAlike : group.2 = threat.alike threats := by
      rw [ofGroup, Threat.alike, eq_of_beq samePattern]
    rw [groupAlike] at enough
    exact ⟨inThreats, by simpa [isRare] using enough⟩
  · rintro ⟨inThreats, notRare⟩
    refine ⟨threat.alike threats, List.mem_map.mpr
      ⟨(threat.pattern, threat.alike threats), List.mem_filter.mpr ⟨?_, ?_⟩, rfl⟩, ?_⟩
    · exact mem_groupsBy.mpr ⟨List.mem_map_of_mem inThreats, rfl⟩
    · simpa [isRare] using notRare
    · exact List.mem_filter.mpr ⟨inThreats, by simp⟩

theorem flatten_spreads_subperm (threats : List Threat) :
    (settings.spreads threats).flatten.Subperm threats := by
  have sublist : (settings.spreads threats).flatten.Sublist
      ((groupsBy Threat.pattern threats).flatMap Prod.snd) := by
    unfold spreads
    rw [List.flatMap_def]
    exact (List.filter_sublist.map Prod.snd).flatten
  exact sublist.subperm.trans (flatMap_groupsBy_perm Threat.pattern threats).subperm

theorem ne_nil_of_mem_spreads {threats members : List Threat}
    (member : members ∈ settings.spreads threats) : members ≠ [] := by
  rcases List.mem_map.mp member with ⟨group, kept, rfl⟩
  exact ne_nil_of_mem_groupsBy (List.mem_filter.mp kept).1

theorem spreads_eq_nil {threats : List Threat}
    (rare : ∀ threat ∈ threats, settings.isRare threats threat = true) :
    settings.spreads threats = [] := by
  refine List.eq_nil_iff_forall_not_mem.mpr fun members member => ?_
  rcases List.exists_mem_of_ne_nil _ (settings.ne_nil_of_mem_spreads member) with
    ⟨threat, inMembers⟩
  rcases settings.mem_flatten_spreads.mp (List.mem_flatten_of_mem member inMembers) with
    ⟨inThreats, notRare⟩
  rw [rare threat inThreats] at notRare
  cases notRare

/-! ## What neither takes -/

/-- The threats that belong neither to a large window nor, among those that do
not, to a pattern from enough addresses. -/
def remaining (threats : List Threat) : List Threat :=
  (settings.sparse threats).filter (settings.isRare (settings.sparse threats))

theorem remaining_eq_filter (threats : List Threat) :
    settings.remaining threats = threats.filter fun threat =>
      settings.isSparse threats threat && settings.isRare (settings.sparse threats) threat := by
  unfold remaining
  conv_lhs => arg 2; rw [sparse]
  rw [List.filter_filter]
  exact List.filter_congr fun threat _ => Bool.and_comm _ _

theorem isRare_remaining {threats : List Threat} {threat : Threat}
    (member : threat ∈ settings.remaining threats) :
    settings.isRare (settings.remaining threats) threat = true := by
  have rare := (List.mem_filter.mp member).2
  have sameAlike : threat.alike (settings.remaining threats) =
      threat.alike (settings.sparse threats) := by
    unfold Threat.alike remaining
    rw [List.filter_filter]
    refine List.filter_congr fun other _ => ?_
    cases same : other.pattern == threat.pattern with
    | false => rfl
    | true =>
        have otherRare : settings.isRare (settings.sparse threats) other = true := by
          rwa [isRare, Threat.alike, eq_of_beq same]
        rw [otherRare]
        rfl
  rwa [isRare, sameAlike]

/-! ## The order of the threats does not matter -/

theorem isSparse_sorted (threats : List Threat) :
    settings.isSparse (Threat.sorted threats) = settings.isSparse threats := by
  funext threat
  unfold isSparse Threat.peers
  rw [Threat.filter_sorted, Threat.windows_sorted]

theorem isRare_sorted (threats : List Threat) :
    settings.isRare (Threat.sorted threats) = settings.isRare threats := by
  funext threat
  have perm := eraseDups_perm
    ((Threat.sorted_perm (threat.alike threats)).map Threat.address)
  unfold isRare Threat.alike FoundCampaign.addressesOf at *
  rw [Threat.filter_sorted, perm.length_eq]

theorem sparse_sorted (threats : List Threat) :
    settings.sparse (Threat.sorted threats) = Threat.sorted (settings.sparse threats) := by
  unfold sparse
  rw [isSparse_sorted, Threat.filter_sorted]

theorem remaining_sorted (threats : List Threat) :
    settings.remaining (Threat.sorted threats) = Threat.sorted (settings.remaining threats) := by
  unfold remaining
  rw [sparse_sorted, isRare_sorted, Threat.filter_sorted]

end CorrelationSettings

/-! ## What is found -/

namespace FoundCampaign

theorem members_of_ofMembers {day : Calendar.Date} {kind : CampaignKind} {name : String}
    {attacks : List (Option String)} {addresses : Nat} {members : List Threat}
    {found : FoundCampaign}
    (told : ofMembers day kind name attacks addresses members = .ok found) :
    found.members = members := by
  rcases bind_eq_ok_iff.mp told with ⟨ordered, _, rest⟩
  rcases bind_eq_ok_iff.mp rest with ⟨id, _, equal⟩
  rw [← pure_eq_ok_iff.mp equal]

theorem mapM_of_ofAddress {settings : CorrelationSettings} {day : Calendar.Date}
    {address : Option String} {threats : List Threat} {found : List FoundCampaign}
    (told : ofAddress settings day address threats = .ok found) :
    ((Threat.windows settings.windowMinutes threats).filter settings.isLarge).mapM
      (ofCluster day address) = .ok found := by
  unfold ofAddress at told
  split at told
  · next few =>
      -- no window holds more threats than there are
      have none : (Threat.windows settings.windowMinutes threats).filter settings.isLarge = [] := by
        rw [List.filter_eq_nil_iff]
        intro window member
        have small := Amount.exceeds_of_le (Threat.length_le_of_mem_windows member) few
        simp [CorrelationSettings.isLarge, small]
      rw [none]
      exact told
  · rcases bind_eq_ok_iff.mp told with ⟨clusters, clustersTold, steps⟩
    rw [← Threat.eq_windows_of_clusters clustersTold]
    exact steps

theorem exists_ofAddress_iff {settings : CorrelationSettings} {day : Calendar.Date}
    {address : Option String} {threats : List Threat} :
    (∃ found, ofAddress settings day address threats = .ok found) ↔
      settings.leastEvents.exceeds threats.length = true ∨
        (∃ clusters, Threat.clusters settings.windowMinutes threats = .ok clusters) ∧
          ∀ window ∈ (Threat.windows settings.windowMinutes threats).filter settings.isLarge,
            ∃ found, ofCluster day address window = .ok found := by
  by_cases few : settings.leastEvents.exceeds threats.length = true
  · have none : ofAddress settings day address threats = .ok [] := if_pos few
    exact iff_of_true ⟨[], none⟩ (.inl few)
  · rw [or_iff_right few]
    constructor
    · rintro ⟨found, told⟩
      refine ⟨?_, fun window member => exists_of_mapM_eq_ok (mapM_of_ofAddress told) member⟩
      rw [ofAddress, if_neg few] at told
      rcases bind_eq_ok_iff.mp told with ⟨clusters, clustersTold, _⟩
      exact ⟨clusters, clustersTold⟩
    · rintro ⟨⟨clusters, clustersTold⟩, each⟩
      rw [← Threat.eq_windows_of_clusters clustersTold] at each
      rcases exists_mapM_eq_ok each with ⟨found, steps⟩
      exact ⟨found, by rw [ofAddress, if_neg few, clustersTold]; exact steps⟩

theorem members_of_ofAddress {settings : CorrelationSettings} {day : Calendar.Date}
    {address : Option String} {threats : List Threat} {found : List FoundCampaign}
    (told : ofAddress settings day address threats = .ok found) :
    found.map members =
      (Threat.windows settings.windowMinutes threats).filter settings.isLarge := by
  rw [map_eq_of_mapM_eq_ok members id (mapM_of_ofAddress told) fun _ _ => members_of_ofMembers,
    List.map_id]

theorem exists_byAddress_iff_forall {settings : CorrelationSettings} {day : Calendar.Date}
    {threats : List Threat} :
    (∃ founds, byAddress settings day threats = .ok founds) ↔
      ∀ address ∈ threats.map Threat.address,
        ∃ found, ofAddress settings day address (Threat.sentFrom address threats) = .ok found := by
  constructor
  · rintro ⟨founds, told⟩ address member
    rcases bind_eq_ok_iff.mp told with ⟨groups, steps, _⟩
    have group : (address, Threat.sentFrom address threats) ∈ groupsBy Threat.address threats :=
      mem_groupsBy.mpr ⟨member, rfl⟩
    exact exists_of_mapM_eq_ok steps group
  · intro each
    have steps : ∀ group ∈ groupsBy Threat.address threats,
        ∃ found, ofAddress settings day group.1 group.2 = .ok found := by
      intro group member
      rcases mem_groupsBy.mp member with ⟨named, ofGroup⟩
      rw [ofGroup]
      exact each group.1 named
    rcases exists_mapM_eq_ok steps with ⟨groups, told⟩
    exact ⟨groups.flatten, bind_eq_ok_iff.mpr ⟨groups, told, rfl⟩⟩

/-- Some of the threats in which campaigns were found have theirs found as well, where they fall
into no large windows but those of before. -/
theorem exists_byAddress_of_sublist {settings : CorrelationSettings} {day : Calendar.Date}
    {threats fewer : List Threat} {founds : List FoundCampaign}
    (told : byAddress settings day threats = .ok founds) (sublist : fewer.Sublist threats)
    (before : ∀ address ∈ fewer.map Threat.address,
      (Threat.windows settings.windowMinutes
          (Threat.sentFrom address fewer)).filter settings.isLarge ⊆
        (Threat.windows settings.windowMinutes
          (Threat.sentFrom address threats)).filter settings.isLarge) :
    ∃ rest, byAddress settings day fewer = .ok rest := by
  rw [exists_byAddress_iff_forall]
  intro address named
  have part : (Threat.sentFrom address fewer).Sublist (Threat.sentFrom address threats) :=
    sublist.filter _
  have namedBefore := (sublist.map Threat.address).mem named
  rcases exists_ofAddress_iff.mp (exists_byAddress_iff_forall.mp ⟨founds, told⟩ address namedBefore)
    with few | ⟨measured, each⟩
  · exact exists_ofAddress_iff.mpr (.inl (Amount.exceeds_of_le part.length_le few))
  · refine exists_ofAddress_iff.mpr
      (.inr ⟨?_, fun window member => each window (before address named member)⟩)
    rw [Threat.exists_clusters_iff] at measured ⊢
    rcases measured with none | ⟨comparable, isSpan⟩
    · exact .inl (List.sublist_nil.mp (none ▸ part))
    · exact .inr ⟨Threat.orderable_of_subperm part.subperm comparable, isSpan⟩

theorem exists_of_window {settings : CorrelationSettings} {day : Calendar.Date}
    {threats : List Threat} {founds : List FoundCampaign}
    (told : byAddress settings day threats = .ok founds) {address : Option String}
    {window : List Threat}
    (member : window ∈ (Threat.windows settings.windowMinutes
      (Threat.sentFrom address threats)).filter settings.isLarge) :
    ∃ found ∈ founds, ofCluster day address window = .ok found := by
  rcases bind_eq_ok_iff.mp told with ⟨groups, steps, equal⟩
  rw [← pure_eq_ok_iff.mp equal]
  have isWindow := (List.mem_filter.mp member).1
  rcases List.exists_mem_of_ne_nil _ (Threat.ne_nil_of_mem_windows isWindow) with
    ⟨threat, inWindow⟩
  rcases List.mem_filter.mp (Threat.mem_of_mem_windows isWindow inWindow) with
    ⟨inThreats, sameAddress⟩
  have groupMember : (address, Threat.sentFrom address threats) ∈
      groupsBy Threat.address threats :=
    mem_groupsBy.mpr ⟨List.mem_map.mpr ⟨threat, inThreats, eq_of_beq sameAddress⟩, rfl⟩
  rcases exists_of_forall₂_left (mapM_eq_ok_iff.mp steps) groupMember with
    ⟨ofGroup, ofGroupMember, groupTold⟩
  rcases exists_of_forall₂_left (mapM_eq_ok_iff.mp (mapM_of_ofAddress groupTold)) member with
    ⟨found, foundMember, windowTold⟩
  exact ⟨found, List.mem_flatten_of_mem ofGroupMember foundMember, windowTold⟩

theorem mem_byAddress_iff {settings : CorrelationSettings} {day : Calendar.Date}
    {threats : List Threat} {founds : List FoundCampaign}
    (told : byAddress settings day threats = .ok founds) {found : FoundCampaign} :
    found ∈ founds ↔ ∃ address,
      found.members ∈ (Threat.windows settings.windowMinutes
        (Threat.sentFrom address threats)).filter settings.isLarge ∧
      ofCluster day address found.members = .ok found := by
  constructor
  · intro member
    rcases bind_eq_ok_iff.mp told with ⟨groups, steps, equal⟩
    rw [← pure_eq_ok_iff.mp equal] at member
    rcases List.mem_flatten.mp member with ⟨ofGroup, ofGroupMember, inGroup⟩
    rcases exists_of_mem_of_mapM_eq_ok steps ofGroupMember with ⟨group, groupMember, groupTold⟩
    rcases exists_of_mem_of_mapM_eq_ok (mapM_of_ofAddress groupTold) inGroup with
      ⟨window, windowMember, windowTold⟩
    rw [(mem_groupsBy.mp groupMember).2] at windowMember
    rw [members_of_ofMembers windowTold]
    exact ⟨group.1, windowMember, windowTold⟩
  · rintro ⟨address, windowMember, windowTold⟩
    rcases exists_of_window told windowMember with ⟨same, sameMember, sameTold⟩
    cases windowTold.symm.trans sameTold
    exact sameMember

theorem members_of_byAddress {settings : CorrelationSettings} {day : Calendar.Date}
    {threats : List Threat} {found : List FoundCampaign}
    (told : byAddress settings day threats = .ok found) :
    found.map members = settings.crowds threats := by
  rcases bind_eq_ok_iff.mp told with ⟨groups, steps, equal⟩
  have ofGroups := map_eq_of_mapM_eq_ok (List.map members) (fun group =>
    (Threat.windows settings.windowMinutes group.2).filter settings.isLarge) steps
    fun _ _ => members_of_ofAddress
  rw [← pure_eq_ok_iff.mp equal, List.map_flatten, ofGroups, CorrelationSettings.crowds,
    List.flatMap_def]

theorem members_of_byPattern {settings : CorrelationSettings} {day : Calendar.Date}
    {threats : List Threat} {found : List FoundCampaign}
    (told : byPattern settings day threats = .ok found) :
    found.map members = settings.spreads threats :=
  map_eq_of_mapM_eq_ok members Prod.snd told fun _ _ => members_of_ofMembers

end FoundCampaign

end ThreatWatch
