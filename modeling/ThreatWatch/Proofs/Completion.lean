import ThreatWatch.Proofs.Comparing
import ThreatWatch.Proofs.Records
import ThreatWatch.Proofs.Rescan
import ThreatWatch.Proofs.Summary

/-! Scans that come to their end. In a store as its tables keep it nothing that a scan
finds can be refused: a campaign tells its times on the universal clock and its counts
fit, and so does what comes of merging two. What is left in the way is the arithmetic of
the scan itself, the time it looks back to and the length of a window. -/

namespace ThreatWatch

/-! ## Records of campaigns -/

/-- A campaign as the table keeps it: both times on the universal clock, both counts of
64 bits. -/
structure Campaign.IsRecorded (campaign : Campaign) : Prop where
  firstSeen : campaign.firstSeen.bind Calendar.Moment.offset = some Calendar.Offset.utc
  lastSeen : campaign.lastSeen.bind Calendar.Moment.offset = some Calendar.Offset.utc
  eventCount : Store.fits campaign.eventCount = true
  uniqueAddresses : Store.fits campaign.uniqueAddresses = true

namespace Campaign

theorem exists_chooseTime {left right : Option Calendar.Moment} (prefers : Int → Int → Bool)
    (leftUtc : left.bind Calendar.Moment.offset = some Calendar.Offset.utc)
    (rightUtc : right.bind Calendar.Moment.offset = some Calendar.Offset.utc) :
    ∃ time, chooseTime prefers left right = .ok time ∧
      time.bind Calendar.Moment.offset = some Calendar.Offset.utc := by
  rcases Option.bind_eq_some_iff.mp leftUtc with ⟨first, rfl, firstUtc⟩
  rcases Option.bind_eq_some_iff.mp rightUtc with ⟨second, rfl, secondUtc⟩
  have comparable : first.comparable second = true := by
    simp [Calendar.Moment.comparable, Calendar.Moment.isAware, firstUtc, secondUtc]
  refine ⟨_, by rw [chooseTime, if_pos comparable], ?_⟩
  split
  · exact secondUtc
  · exact firstUtc

theorem fits_max {left right : Int} (leftFits : Store.fits left = true)
    (rightFits : Store.fits right = true) : Store.fits (max left right) = true := by
  rcases max_choice left right with isLeft | isRight
  · rwa [isLeft]
  · rwa [isRight]

theorem IsRecorded.exists_merge {existing incoming : Campaign} (recorded : existing.IsRecorded)
    (another : incoming.IsRecorded) :
    ∃ merged, existing.merge incoming = .ok merged ∧ merged.IsRecorded := by
  rcases exists_chooseTime (fun candidate current => decide (candidate < current))
    recorded.firstSeen another.firstSeen with ⟨first, firstChosen, firstUtc⟩
  rcases exists_chooseTime (fun candidate current => decide (current < candidate))
    recorded.lastSeen another.lastSeen with ⟨last, lastChosen, lastUtc⟩
  refine ⟨_, bind_eq_ok_iff.mpr ⟨first, firstChosen, bind_eq_ok_iff.mpr ⟨last, lastChosen, rfl⟩⟩,
    firstUtc, lastUtc, ?_, ?_⟩
  · exact fits_max recorded.eventCount another.eventCount
  · exact fits_max recorded.uniqueAddresses another.uniqueAddresses

theorem IsRecorded.storedCampaign_eq {campaign : Campaign} (recorded : campaign.IsRecorded)
    (created updated : Calendar.Moment) :
    Store.storedCampaign created updated campaign =
      .ok { campaign with createdAt := some created, updatedAt := some updated } := by
  unfold Store.storedCampaign Store.storedInt
  rw [Store.utcIfAny_of_utc recorded.firstSeen, Store.utcIfAny_of_utc recorded.lastSeen,
    if_pos recorded.eventCount, if_pos recorded.uniqueAddresses]
  rfl

end Campaign

/-! ## Stores -/

namespace Store

/-- A store as its tables keep it, with threats fewer than there are numbers of 64
bits. -/
structure IsRecorded (store : Store) : Prop where
  sound : store.IsSound
  few : store.threats.length < 0x8000000000000000
  campaigns : ∀ entry ∈ store.campaigns, entry.2.IsRecorded

variable {store after : Store}

theorem isRecorded_empty : IsRecorded {} where
  sound := isSound_empty
  few := by decide
  campaigns _ member := by cases member

namespace IsRecorded

theorem exists_save (recorded : store.IsRecorded) (now : Calendar.Moment) {campaign : Campaign}
    (isRecord : campaign.IsRecorded) :
    ∃ after, store.save now campaign = .ok after ∧ after.IsRecorded := by
  let created := ((store.campaign? campaign.id).bind Campaign.createdAt).getD now
  have written : store.save now campaign = .ok
      { store with campaigns := store.campaigns.put campaign.id { campaign with
        createdAt := some created
        updatedAt := some now } } :=
    bind_eq_ok_iff.mpr ⟨_, isRecord.storedCampaign_eq created now, rfl⟩
  refine ⟨_, written, recorded.sound.save written, recorded.few, fun entry member => ?_⟩
  rcases (Table.mem_put recorded.sound.nodupKeys).mp member with rfl | ⟨earlier, _⟩
  · exact { isRecord with }
  · exact recorded.campaigns entry earlier

theorem exists_tag (recorded : store.IsRecorded) (campaign : String) {ids : List Int}
    (small : ids.all fits = true) :
    ∃ after, store.tag campaign ids = .ok after ∧ after.IsRecorded := by
  have tagged : store.tag campaign ids =
      .ok { store with threats := store.threats.map (Threat.tagged campaign ids) } := by
    rw [tag, if_pos small]
    rfl
  refine ⟨_, tagged, recorded.sound.tag tagged, ?_, recorded.campaigns⟩
  rw [List.length_map]
  exact recorded.few

theorem save (recorded : store.IsRecorded) {now : Calendar.Moment} {campaign : Campaign}
    (saved : store.save now campaign = .ok after) (isRecord : campaign.IsRecorded) :
    after.IsRecorded := by
  rcases recorded.exists_save now isRecord with ⟨_, told, isAfter⟩
  cases saved.symm.trans told
  exact isAfter

theorem tag (recorded : store.IsRecorded) {campaign : String} {ids : List Int}
    (tagged : store.tag campaign ids = .ok after) (small : ids.all fits = true) :
    after.IsRecorded := by
  rcases recorded.exists_tag campaign small with ⟨_, told, isAfter⟩
  cases tagged.symm.trans told
  exact isAfter

theorem campaign (recorded : store.IsRecorded) {id : String} {existing : Campaign}
    (found : store.campaign? id = some existing) : existing.IsRecorded :=
  recorded.campaigns _ (Table.mem_of_get?_eq_some found)

theorem exists_number (recorded : store.IsRecorded) {threat : Threat}
    (member : threat ∈ store.threats) : ∃ number, threat.id = some number ∧ fits number = true := by
  have named : threat.id ∈ store.threats.map Threat.id := List.mem_map_of_mem member
  rw [recorded.sound.numbered] at named
  rcases List.mem_map.mp named with ⟨index, inRange, equal⟩
  have below := List.mem_range.mp inRange
  have few := recorded.few
  refine ⟨_, equal.symm, ?_⟩
  rw [fits, decide_eq_true_eq]
  omega

end IsRecorded

end Store

/-! ## What is found -/

theorem Numeral.exists_writeInt? {number : Int} (small : Store.fits number = true) :
    ∃ text, writeInt? number = some text := by
  rw [Store.fits, decide_eq_true_eq] at small
  have limit : 2 ^ 64 ≤ Nat.pow 10 digitLimit := Value.pow_two_le (by decide)
  have bound : number.natAbs < 2 ^ 64 := by omega
  exact ⟨_, if_pos (bound.trans_le limit)⟩

def Threat.AreStored (threats : List Threat) : Prop :=
  ∀ threat ∈ threats, threat.IsTimed ∧ ∃ number, threat.id = some number ∧ Store.fits number = true

def Threat.IsNumbered (threat : Threat) : Prop :=
  ∃ number text, threat.id = some number ∧ Numeral.writeInt? number = some text

def Threat.AreOrderable (threats : List Threat) : Prop :=
  ∀ address, Threat.orderable (Threat.sentFrom address threats) = true

theorem Threat.AreStored.isNumbered {threats : List Threat} (stored : Threat.AreStored threats) :
    ∀ threat ∈ threats, threat.IsNumbered := by
  intro threat member
  rcases (stored threat member).2 with ⟨number, numbered, small⟩
  rcases Numeral.exists_writeInt? small with ⟨text, written⟩
  exact ⟨number, text, numbered, written⟩

theorem Threat.AreStored.areOrderable {threats : List Threat} (stored : Threat.AreStored threats) :
    Threat.AreOrderable threats :=
  fun _ => Threat.orderable_of_timed fun threat member =>
    (stored threat (List.mem_filter.mp member).1).1

def CorrelationSettings.AreFew (settings : CorrelationSettings) (threats : List Threat) : Prop :=
  ∀ threat ∈ threats, settings.leastEvents.exceeds (threat.peers threats).length = true

theorem CorrelationSettings.areFew_sorted {settings : CorrelationSettings}
    {threats : List Threat} :
    settings.AreFew (Threat.sorted threats) ↔ settings.AreFew threats := by
  have samePeers (threat : Threat) :
      (threat.peers (Threat.sorted threats)).length = (threat.peers threats).length :=
    ((Threat.sorted_perm threats).filter _).length_eq
  simp only [AreFew, (Threat.sorted_perm threats).mem_iff, samePeers]

namespace FoundCampaign

variable {settings : CorrelationSettings} {day : Calendar.Date}

theorem exists_identityOf {members : List Threat}
    (numbered : ∀ threat ∈ members, threat.IsNumbered) :
    ∃ identity, Campaign.identityOf day (members.map Threat.id) = .ok identity := by
  have named : (members.map Threat.id).all Option.isSome = true := by
    rw [List.all_eq_true, List.forall_mem_map]
    intro threat member
    rcases numbered threat member with ⟨number, _, equal, _⟩
    rw [equal]
    rfl
  have written : ∃ texts, (sortBy (fun left right => decide (left ≤ right))
      (members.map Threat.id).reduceOption).mapM Numeral.writeInt? = some texts := by
    refine exists_mapM_eq_some fun number member => ?_
    rw [(sortBy_perm _ _).mem_iff, List.reduceOption_mem_iff] at member
    rcases List.mem_map.mp member with ⟨threat, inMembers, equal⟩
    rcases numbered threat inMembers with ⟨_, text, same, written⟩
    cases same.symm.trans equal
    exact ⟨text, written⟩
  rcases written with ⟨texts, written⟩
  refine ⟨_, map_eq_ok_iff.mpr ⟨Text.join "," texts, ?_, rfl⟩⟩
  unfold Campaign.membersOf Campaign.memberText?
  split
  · next alone => simp [alone] at named
  · rw [if_pos named, written]
    rfl

theorem exists_ofMembers {kind : CampaignKind} {name : String} {attacks : List (Option String)}
    {addresses : Nat} {members : List Threat} (comparable : Threat.orderable members = true)
    (numbered : ∀ threat ∈ members, threat.IsNumbered) :
    ∃ found, ofMembers day kind name attacks addresses members = .ok found := by
  have ordered : Threat.sortedByTime members = .ok (Threat.sorted members) := if_pos comparable
  rcases exists_identityOf numbered with ⟨identity, identified⟩
  exact ⟨_, bind_eq_ok_iff.mpr ⟨_, ordered, bind_eq_ok_iff.mpr ⟨identity, identified, rfl⟩⟩⟩

theorem exists_byAddress_iff {threats : List Threat} (comparable : Threat.AreOrderable threats)
    (numbered : ∀ threat ∈ threats, threat.IsNumbered) :
    (∃ found, byAddress settings day threats = .ok found) ↔
      (∃ span, Calendar.spanOf Calendar.microsPerMinute settings.windowMinutes = .ok span) ∨
        settings.AreFew threats := by
  rw [exists_byAddress_iff_forall]
  constructor
  · intro each
    by_cases span : ∃ span,
        Calendar.spanOf Calendar.microsPerMinute settings.windowMinutes = .ok span
    · exact .inl span
    · refine .inr fun threat member => ?_
      have own : threat ∈ Threat.sentFrom threat.address threats :=
        List.mem_filter.mpr ⟨member, by simp⟩
      rcases exists_ofAddress_iff.mp (each _ (List.mem_map_of_mem member)) with few | ⟨clusters, _⟩
      · exact few
      · rcases Threat.exists_clusters_iff.mp clusters with none | ⟨_, isSpan⟩
        · exact absurd none (List.ne_nil_of_mem own)
        · exact absurd isSpan span
  · intro measured address named
    rcases List.mem_map.mp named with ⟨threat, inThreats, rfl⟩
    rw [exists_ofAddress_iff]
    rcases measured with isSpan | few
    · refine .inr ⟨Threat.exists_clusters_iff.mpr (.inr ⟨comparable _, isSpan⟩),
        fun window kept => ?_⟩
      have part := Threat.subperm_of_mem_windows (List.mem_filter.mp kept).1
      refine exists_ofMembers (Threat.orderable_of_subperm part (comparable _))
        fun other inWindow => ?_
      exact numbered other (List.mem_filter.mp (part.subset inWindow)).1
    · exact .inl (few threat inThreats)

theorem exists_byPattern {threats : List Threat} (stored : Threat.AreStored threats) :
    ∃ found, byPattern settings day threats = .ok found := by
  refine exists_mapM_eq_ok fun group member => ?_
  have ofGroup := (mem_groupsBy.mp (List.mem_filter.mp member).1).2
  have groupStored : Threat.AreStored group.2 := fun threat inGroup =>
    stored threat (List.mem_filter.mp (ofGroup ▸ inGroup)).1
  exact exists_ofMembers (Threat.orderable_of_timed fun threat inGroup =>
    (groupStored threat inGroup).1) groupStored.isNumbered

end FoundCampaign

/-- The tables can take what was found: the record and the numbers of its members. -/
structure FoundCampaign.IsKeepable (found : FoundCampaign) : Prop where
  record : found.campaign.IsRecorded
  small : found.ids.all Store.fits = true

namespace Scan

variable {store after : Store} {settings : CorrelationSettings} {now : Calendar.Moment}

/-- A scan finds its campaigns, be there any or none, where the calendar holds the time that
it looks back to and the windows have a length or are not asked for. -/
theorem exists_findings_iff (recorded : store.IsRecorded) :
    (∃ found, findings settings now store = .ok found) ↔
      now.HasUtc ∧ ∃ since, horizon settings now = .ok since ∧ since.HasUtc ∧
        ((∃ span, Calendar.spanOf Calendar.microsPerMinute settings.windowMinutes = .ok span) ∨
          settings.AreFew (store.awaiting since.instant)) := by
  have stored (since : Int) : Threat.AreStored (Threat.sorted (store.awaiting since)) := by
    intro threat member
    have inStore :=
      (Store.mem_of_mem_awaiting ((Threat.sorted_perm _).mem_iff.mp member)).1
    exact ⟨recorded.sound.timed threat inStore, recorded.exists_number inStore⟩
  constructor
  · rintro ⟨found, told⟩
    rcases findings_eq_ok_iff.mp told with
      ⟨since, reading, threats, horizonTold, readingTold, fetched, addressTold, _⟩
    rcases Store.unclustered_eq_ok_iff.mp fetched with ⟨reached, rfl⟩
    refine ⟨Store.exists_utcOf_iff.mp ⟨reading, readingTold⟩, since, horizonTold,
      Store.exists_utcOf_iff.mp reached, ?_⟩
    rw [← CorrelationSettings.areFew_sorted]
    exact (FoundCampaign.exists_byAddress_iff (stored _).areOrderable (stored _).isNumbered).mp
      ⟨_, addressTold⟩
  · rintro ⟨readable, since, horizonTold, reached, measured⟩
    rw [← CorrelationSettings.areFew_sorted] at measured
    rcases Store.exists_utcOf_iff.mpr readable with ⟨reading, readingTold⟩
    have atAddresses : ∃ byAddress, FoundCampaign.byAddress settings reading.date
        (Threat.sorted (store.awaiting since.instant)) = .ok byAddress :=
      (FoundCampaign.exists_byAddress_iff (stored _).areOrderable (stored _).isNumbered).mpr measured
    rcases atAddresses with ⟨byAddress, addressTold⟩
    have left : Threat.AreStored
        (leftOver byAddress (Threat.sorted (store.awaiting since.instant))) :=
      fun threat member => stored _ threat (List.mem_filter.mp member).1
    have ofPatterns : ∃ byPattern, FoundCampaign.byPattern settings reading.date
        (leftOver byAddress (Threat.sorted (store.awaiting since.instant))) = .ok byPattern :=
      FoundCampaign.exists_byPattern left
    rcases ofPatterns with ⟨byPattern, patternTold⟩
    exact ⟨⟨byAddress, byPattern⟩, findings_eq_ok_iff.mpr ⟨since, reading, _, horizonTold,
      readingTold, Store.unclustered_eq_ok_iff.mpr ⟨Store.exists_utcOf_iff.mpr reached, rfl⟩,
      addressTold, patternTold⟩⟩

/-! ## What is kept -/

theorem isKeepable_of_findings (recorded : store.IsRecorded) {found : Findings}
    (told : findings settings now store = .ok found) {campaign : FoundCampaign}
    (member : campaign ∈ found.all) : campaign.IsKeepable := by
  rcases summarises_of_findings told member with ⟨summarises, sublist⟩
  have stored : ∀ threat ∈ campaign.members, threat ∈ store.threats := fun threat inMembers =>
    (Threat.sorted_perm _).mem_iff.mp (sublist.mem inMembers)
  have fits : ∀ count ≤ campaign.members.length, Store.fits count = true := by
    intro count atMost
    have few := recorded.few
    have fewer := sublist.length_le.trans_eq (Threat.sorted_perm store.threats).length_eq
    rw [Store.fits, decide_eq_true_eq]
    omega
  refine ⟨⟨?_, ?_, ?_, ?_⟩, List.all_eq_true.mpr fun number isMember => ?_⟩
  · rcases summarises.firstSeen with ⟨threat, inMembers, time, _⟩
    rw [time]
    exact recorded.sound.timed threat (stored threat inMembers)
  · rcases summarises.lastSeen with ⟨threat, inMembers, time, _⟩
    rw [time]
    exact recorded.sound.timed threat (stored threat inMembers)
  · rw [summarises.eventCount]
    exact fits _ (Nat.le_refl _)
  · rw [summarises.uniqueAddresses]
    refine fits _ ((length_eraseDups_le _).trans_eq (List.length_map _))
  · rcases FoundCampaign.mem_ids.mp isMember with ⟨threat, inMembers, named⟩
    rcases recorded.exists_number (stored threat inMembers) with ⟨_, equal, small⟩
    cases named.symm.trans equal
    exact small

variable {saved : Calendar.Moment} {report : ScanReport} {found : FoundCampaign}
  {founds : List FoundCampaign}

theorem exists_keeps (recorded : store.IsRecorded) (saved : Calendar.Moment)
    (keepable : found.IsKeepable) :
    ∃ report after, Keeps saved store found report after ∧ after.IsRecorded := by
  cases present : store.campaign? found.campaign.id with
  | none =>
      rcases recorded.exists_save saved keepable.record with ⟨between, save, isBetween⟩
      rcases isBetween.exists_tag found.campaign.id keepable.small with ⟨after, tag, isAfter⟩
      exact ⟨_, after, .created present save tag, isAfter⟩
  | some existing =>
      rcases (recorded.campaign present).exists_merge keepable.record with
        ⟨merged, merge, isMerged⟩
      rcases recorded.exists_save saved isMerged with ⟨between, save, isBetween⟩
      rcases isBetween.exists_tag found.campaign.id keepable.small with ⟨after, tag, isAfter⟩
      exact ⟨_, after, .updated present merge save tag, isAfter⟩

theorem Keeps.isRecorded (recorded : store.IsRecorded) (keepable : found.IsKeepable)
    (kept : Keeps saved store found report after) : after.IsRecorded := by
  cases kept with
  | created absent save tag =>
      exact (recorded.save save keepable.record).tag tag keepable.small
  | updated present merge save tag =>
      rcases (recorded.campaign present).exists_merge keepable.record with ⟨_, told, isMerged⟩
      cases merge.symm.trans told
      exact (recorded.save save isMerged).tag tag keepable.small

theorem exists_keepsAll (recorded : store.IsRecorded) (saved : Calendar.Moment)
    (keepable : ∀ found ∈ founds, found.IsKeepable) :
    ∃ report after, KeepsAll saved store founds report after ∧ after.IsRecorded := by
  induction founds generalizing store with
  | nil => exact ⟨_, store, .nil, recorded⟩
  | cons found rest induction =>
      rcases List.forall_mem_cons.mp keepable with ⟨here, others⟩
      rcases exists_keeps recorded saved here with ⟨report, between, first, isBetween⟩
      rcases induction isBetween others with ⟨_, after, later, isAfter⟩
      exact ⟨_, after, .cons first later, isAfter⟩

theorem KeepsAll.isRecorded (recorded : store.IsRecorded)
    (keepable : ∀ found ∈ founds, found.IsKeepable)
    (kept : KeepsAll saved store founds report after) : after.IsRecorded := by
  induction kept with
  | nil => exact recorded
  | cons first _ induction =>
      rcases List.forall_mem_cons.mp keepable with ⟨here, others⟩
      exact induction (first.isRecorded recorded here) others

end Scan

theorem Correlator.exists_scan_iff {correlator : Correlator} {surroundings : Surroundings}
    {now : Calendar.Moment} (free : correlator.scanning = false)
    (clear : ∀ calls, surroundings.obstacle calls = none)
    (recorded : correlator.store.IsRecorded) :
    (∃ report, (correlator.scan surroundings now).1 = .ok report) ↔
      ∃ found, Scan.findings correlator.settings now correlator.store = .ok found := by
  constructor
  · rintro ⟨report, completes⟩
    rcases Scan.keepsAll_of_run (run_of_scan completes) with ⟨found, told, _⟩
    exact ⟨found, told⟩
  · rintro ⟨found, told⟩
    rcases Scan.exists_keepsAll recorded surroundings.now fun campaign member =>
      Scan.isKeepable_of_findings recorded told member with ⟨report, after, kept, _⟩
    exact ⟨report, by rw [scan_of_run free (Scan.run_of_keepsAll clear told kept)]⟩

/-! ## Histories -/

namespace History

variable {store : Store}

theorem length_threats_le_apply (store : Store) (step : Step) :
    store.threats.length ≤ (apply store step).threats.length := by
  have grown := (unassigned_prefix_apply store step).length_le
  rwa [List.length_map, List.length_map] at grown

theorem isRecorded_apply (recorded : store.IsRecorded) (step : Step)
    (few : (apply store step).threats.length < 0x8000000000000000) :
    (apply store step).IsRecorded := by
  cases step with
  | arrival now threat =>
      refine ⟨isSound_apply recorded.sound _, few, ?_⟩
      rcases apply_arrival store now threat with same | ⟨id, inserted⟩
      · rw [same]
        exact recorded.campaigns
      · rcases Store.insert_eq_ok inserted with same | ⟨record, _, _, grown⟩
        · rw [same]
          exact recorded.campaigns
        · rw [grown]
          exact recorded.campaigns
  | scan settings surroundings now =>
      rcases apply_scan store settings surroundings now with same | ⟨_, found, _, told, kept⟩
      · rw [same]
        exact recorded
      · exact kept.isRecorded recorded fun campaign member =>
          Scan.isKeepable_of_findings recorded told member

theorem isRecorded_run (steps : List Step)
    (few : (run steps).threats.length < 0x8000000000000000) : (run steps).IsRecorded := by
  refine runFrom_induction
    (fun store => store.threats.length < 0x8000000000000000 → store.IsRecorded)
    (fun store _ recorded next few => ?_) steps Store.isSound_empty
    (fun _ => Store.isRecorded_empty) few
  have fewBefore := (length_threats_le_apply store next).trans_lt few
  exact isRecorded_apply (recorded fewBefore) next few

end History

end ThreatWatch
