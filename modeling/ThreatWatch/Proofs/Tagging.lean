import Mathlib.Data.List.ReduceOption
import ThreatWatch.Proofs.Coverage
import ThreatWatch.Proofs.Soundness

/-! Which threats a scan tags. It tags the members of what it finds and no others,
and what it finds are the threats that the settings call for among those that wait
for a campaign. -/

namespace ThreatWatch

/-! ## Tags of several campaigns -/

namespace FoundCampaign

theorem mem_ids {found : FoundCampaign} {number : Int} :
    number ∈ found.ids ↔ ∃ member ∈ found.members, member.id = some number := by
  rw [ids, List.reduceOption_mem_iff, List.mem_map]

theorem not_mem_ids_of_not_mem {found : FoundCampaign} {store : Store} (sound : store.IsSound)
    (stored : ∀ member ∈ found.members, member ∈ store.threats) {threat : Threat}
    (threatStored : threat ∈ store.threats) (absent : threat ∉ found.members) {number : Int}
    (numbered : threat.id = some number) : number ∉ found.ids := by
  intro inIds
  rcases mem_ids.mp inIds with ⟨member, inMembers, memberNumbered⟩
  have same := sound.eq_of_id_eq (stored member inMembers) threatStored
    (memberNumbered.trans numbered.symm)
  exact absent (same ▸ inMembers)

end FoundCampaign

namespace Threat

def taggedBy (founds : List FoundCampaign) (threat : Threat) : Threat :=
  founds.foldl (fun threat found => threat.tagged found.campaign.id found.ids) threat

theorem taggedBy_cons (found : FoundCampaign) (rest : List FoundCampaign) (threat : Threat) :
    threat.taggedBy (found :: rest) =
      (threat.tagged found.campaign.id found.ids).taggedBy rest := rfl

@[simp] theorem taggedBy_id (founds : List FoundCampaign) (threat : Threat) :
    (threat.taggedBy founds).id = threat.id := by
  induction founds generalizing threat with
  | nil => rfl
  | cons found rest induction => rw [taggedBy_cons, induction, tagged_id]

theorem taggedBy_of_not_mem {founds : List FoundCampaign} {threat : Threat}
    (absent : ∀ found ∈ founds, ∀ number, threat.id = some number → number ∉ found.ids) :
    threat.taggedBy founds = threat := by
  induction founds with
  | nil => rfl
  | cons found rest induction =>
      rw [taggedBy_cons, tagged_of_not_mem (absent found (by simp))]
      exact induction fun other member => absent other (List.mem_cons_of_mem _ member)

theorem isSome_tagged {campaign : String} {ids : List Int} {threat : Threat}
    (isTagged : threat.campaign.isSome = true) :
    (threat.tagged campaign ids).campaign.isSome = true := by
  unfold tagged
  split
  · rfl
  · exact isTagged

theorem isSome_taggedBy {founds : List FoundCampaign} {threat : Threat}
    (isTagged : threat.campaign.isSome = true) :
    (threat.taggedBy founds).campaign.isSome = true := by
  induction founds generalizing threat with
  | nil => exact isTagged
  | cons found rest induction => exact induction (isSome_tagged isTagged)

theorem isSome_taggedBy_of_mem {founds : List FoundCampaign} {threat : Threat}
    {found : FoundCampaign} (member : found ∈ founds) {number : Int}
    (numbered : threat.id = some number) (inIds : number ∈ found.ids) :
    (threat.taggedBy founds).campaign.isSome = true := by
  induction founds generalizing threat with
  | nil => cases member
  | cons first rest induction =>
      rw [taggedBy_cons]
      rcases List.mem_cons.mp member with rfl | later
      · exact isSome_taggedBy (by rw [tagged_of_mem numbered inIds]; rfl)
      · exact induction later (by rw [tagged_id, numbered])

end Threat

/-! ## Threats that wait -/

namespace Store

def isAwaiting (since : Int) (threat : Threat) : Bool :=
  threat.campaign.isNone && threat.receivedAt.any fun received => decide (since < received.instant)

def awaiting (store : Store) (since : Int) : List Threat :=
  store.threats.filter (isAwaiting since)

variable {store : Store}

theorem mem_of_mem_awaiting {since : Int} {threat : Threat}
    (member : threat ∈ store.awaiting since) : threat ∈ store.threats ∧ threat.campaign = none := by
  rcases List.mem_filter.mp member with ⟨stored, awaits⟩
  simp only [isAwaiting, Bool.and_eq_true, Option.isNone_iff_eq_none] at awaits
  exact ⟨stored, awaits.1⟩

theorem unclustered_eq_ok_iff {since : Calendar.Moment} {threats : List Threat} :
    store.unclustered since = .ok threats ↔
      (∃ utc, utcOf since = .ok utc) ∧ threats = Threat.sorted (store.awaiting since.instant) := by
  unfold unclustered
  rw [bind_eq_ok_iff]
  constructor
  · rintro ⟨utc, told, rest⟩
    rw [(utcOf_eq_ok told).1] at rest
    exact ⟨⟨utc, told⟩, (pure_eq_ok_iff.mp rest).symm⟩
  · rintro ⟨⟨utc, told⟩, rfl⟩
    refine ⟨utc, told, ?_⟩
    rw [(utcOf_eq_ok told).1]
    rfl

end Store

namespace Scan

theorem horizon_eq_ok_iff {settings : CorrelationSettings} {now since : Calendar.Moment} :
    horizon settings now = .ok since ↔
      ∃ span, Calendar.spanOf Calendar.microsPerHour settings.scanHours = .ok span ∧
        now.add? (-span) = some since := by
  unfold horizon
  rw [bind_eq_ok_iff]
  refine exists_congr fun span => and_congr_right fun _ => ?_
  cases now.add? (-span) <;> simp

theorem instant_of_horizon {settings : CorrelationSettings} {now since : Calendar.Moment}
    (told : horizon settings now = .ok since) :
    ∃ span, Calendar.spanOf Calendar.microsPerHour settings.scanHours = .ok span ∧
      since.instant = now.instant - span := by
  rcases horizon_eq_ok_iff.mp told with ⟨span, isSpan, earlier⟩
  exact ⟨span, isSpan, (Calendar.Moment.add?_eq_some earlier).trans Int.sub_eq_add_neg.symm⟩

/-! ## What is found in a sound store -/

variable {store : Store} {settings : CorrelationSettings} {now : Calendar.Moment}

theorem leftOver_eq_filter {founds : List FoundCampaign} {threats : List Threat}
    {keeps : Threat → Bool}
    (distinct : ∀ left ∈ threats, ∀ right ∈ threats, left.id = right.id → left = right)
    (taken : ∀ threat, threat ∈ (founds.map FoundCampaign.members).flatten ↔
      threat ∈ threats ∧ keeps threat = false) :
    leftOver founds threats = threats.filter keeps := by
  refine List.filter_congr fun threat member => ?_
  have named : threat.id ∈ (founds.flatMap fun found => found.members.map Threat.id) ↔
      keeps threat = false := by
    rw [← List.map_flatMap, List.mem_map, List.flatMap_def]
    constructor
    · rintro ⟨other, otherTaken, equal⟩
      rcases (taken other).mp otherTaken with ⟨otherMember, otherFalse⟩
      rwa [← distinct other otherMember threat member equal]
    · intro isFalse
      exact ⟨threat, (taken threat).mpr ⟨member, isFalse⟩, rfl⟩
  cases kept : keeps threat with
  | true => simpa [kept] using named
  | false => simpa [kept] using named

theorem members_of_findings {found : Findings} (sound : store.IsSound)
    (told : findings settings now store = .ok found) :
    ∃ span, Calendar.spanOf Calendar.microsPerHour settings.scanHours = .ok span ∧
      found.byAddress.map FoundCampaign.members =
        settings.crowds (Threat.sorted (store.awaiting (now.instant - span))) ∧
      found.byPattern.map FoundCampaign.members =
        settings.spreads (settings.sparse (Threat.sorted (store.awaiting (now.instant - span)))) := by
  rcases findings_eq_ok_iff.mp told with
    ⟨since, reading, threats, horizonTold, _, fetched, addressTold, patternTold⟩
  rcases instant_of_horizon horizonTold with ⟨span, isSpan, instant⟩
  rcases Store.unclustered_eq_ok_iff.mp fetched with ⟨_, rfl⟩
  rw [instant] at addressTold patternTold
  have ofAddress := FoundCampaign.members_of_byAddress addressTold
  have stored : ∀ threat ∈ Threat.sorted (store.awaiting (now.instant - span)),
      threat ∈ store.threats := fun threat member =>
    (Store.mem_of_mem_awaiting ((Threat.sorted_perm _).mem_iff.mp member)).1
  have left : leftOver found.byAddress (Threat.sorted (store.awaiting (now.instant - span))) =
      settings.sparse (Threat.sorted (store.awaiting (now.instant - span))) := by
    refine leftOver_eq_filter (fun first firstMember second secondMember equal => ?_) fun threat => ?_
    · exact sound.eq_of_id_eq (stored first firstMember) (stored second secondMember) equal
    · rw [ofAddress]
      exact settings.mem_flatten_crowds
  rw [left] at patternTold
  exact ⟨span, isSpan, ofAddress, FoundCampaign.members_of_byPattern patternTold⟩

def Findings.members (found : Findings) : List Threat :=
  found.all.flatMap FoundCampaign.members

theorem members_eq {found : Findings} :
    found.members = (found.byAddress.map FoundCampaign.members).flatten ++
      (found.byPattern.map FoundCampaign.members).flatten := by
  rw [Findings.members, Findings.all, List.flatMap_append, List.flatMap_def, List.flatMap_def]

theorem mem_members_iff {found : Findings} (sound : store.IsSound)
    (told : findings settings now store = .ok found) :
    ∃ span, Calendar.spanOf Calendar.microsPerHour settings.scanHours = .ok span ∧
      ∀ threat, threat ∈ found.members ↔
        threat ∈ store.awaiting (now.instant - span) ∧
          ¬(settings.isSparse (store.awaiting (now.instant - span)) threat = true ∧
            settings.isRare (settings.sparse (store.awaiting (now.instant - span))) threat =
              true) := by
  rcases members_of_findings sound told with ⟨span, isSpan, ofAddress, ofPattern⟩
  refine ⟨span, isSpan, fun threat => ?_⟩
  rw [members_eq, ofAddress, ofPattern, List.mem_append, settings.mem_flatten_crowds,
    settings.mem_flatten_spreads, settings.sparse_sorted, settings.isRare_sorted,
    settings.isSparse_sorted, (Threat.sorted_perm _).mem_iff, (Threat.sorted_perm _).mem_iff]
  unfold CorrelationSettings.sparse
  rw [List.mem_filter]
  cases sparse : settings.isSparse (store.awaiting (now.instant - span)) threat <;> simp

theorem nodup_members {found : Findings} (sound : store.IsSound)
    (told : findings settings now store = .ok found) : found.members.Nodup := by
  rcases members_of_findings sound told with ⟨span, _, ofAddress, ofPattern⟩
  have nodup : (Threat.sorted (store.awaiting (now.instant - span))).Nodup :=
    (Threat.sorted_perm _).nodup_iff.mpr (sound.nodup_threats.sublist List.filter_sublist)
  rw [members_eq, ofAddress, ofPattern]
  refine List.nodup_append'.mpr ⟨?_, ?_, ?_⟩
  · exact nodup_of_subperm (settings.flatten_crowds_subperm _) nodup
  · exact nodup_of_subperm (settings.flatten_spreads_subperm _)
      (nodup.sublist List.filter_sublist)
  · -- what a pattern takes was left over by the addresses
    intro threat atAddress ofPattern
    have large := (settings.mem_flatten_crowds.mp atAddress).2
    have sparse := (List.mem_filter.mp (settings.mem_flatten_spreads.mp ofPattern).1).2
    rw [large] at sparse
    cases sparse

theorem stored_of_mem_members {found : Findings} (sound : store.IsSound)
    (told : findings settings now store = .ok found) {threat : Threat}
    (member : threat ∈ found.members) : threat ∈ store.threats ∧ threat.campaign = none := by
  rcases mem_members_iff sound told with ⟨span, _, iff⟩
  exact Store.mem_of_mem_awaiting ((iff threat).mp member).1

theorem nodup_member_ids {found : Findings} (sound : store.IsSound)
    (told : findings settings now store = .ok found) : (found.members.map Threat.id).Nodup := by
  refine List.Nodup.map_on ?_ (nodup_members sound told)
  intro left leftMember right rightMember equal
  exact sound.eq_of_id_eq (stored_of_mem_members sound told leftMember).1
    (stored_of_mem_members sound told rightMember).1 equal

/-! ## What is kept -/

variable {saved : Calendar.Moment} {after : Store} {report : ScanReport}

theorem Keeps.threats_eq {found : FoundCampaign} (kept : Keeps saved store found report after) :
    after.threats = store.threats.map (Threat.tagged found.campaign.id found.ids) := by
  cases kept with
  | created _ save tag | updated _ _ save tag =>
      rcases Store.save_eq_ok save with ⟨_, _, _, rfl⟩
      rw [Store.tag_eq_ok tag]

theorem KeepsAll.threats_eq {founds : List FoundCampaign}
    (kept : KeepsAll saved store founds report after) :
    after.threats = store.threats.map (Threat.taggedBy founds) := by
  induction kept with
  | nil => exact (List.map_id _).symm
  | cons first _ induction =>
      rw [induction, first.threats_eq, List.map_map]
      rfl

theorem Keeps.report_eq {found : FoundCampaign} (sound : store.IsSound)
    (kept : Keeps saved store found report after) :
    report.correlated = found.members.length ∧ report.created + report.updated = 1 ∧
      after.campaigns.length = store.campaigns.length + report.created := by
  cases kept with
  | created absent save tag =>
      rcases Store.save_eq_ok save with ⟨_, _, _, rfl⟩
      rw [Store.tag_eq_ok tag]
      have new := Table.get?_eq_none_iff.mp absent
      exact ⟨rfl, rfl, by rw [Table.length_put, if_neg new]⟩
  | updated present merge save tag =>
      rcases Store.save_eq_ok save with ⟨_, _, _, rfl⟩
      rw [Store.tag_eq_ok tag]
      have entry := Table.mem_of_get?_eq_some present
      have old : _ ∈ Table.keys store.campaigns := List.mem_map_of_mem entry
      rw [Store.id_of_merge merge, sound.keyed _ entry]
      exact ⟨rfl, rfl, by rw [Table.length_put, if_pos old]; rfl⟩

theorem KeepsAll.report_eq {founds : List FoundCampaign} (sound : store.IsSound)
    (kept : KeepsAll saved store founds report after) :
    report.correlated = (founds.flatMap FoundCampaign.members).length ∧
      report.created + report.updated = founds.length ∧
      after.campaigns.length = store.campaigns.length + report.created := by
  induction kept with
  | nil => exact ⟨rfl, rfl, rfl⟩
  | cons first _ induction =>
      rcases first.report_eq sound with ⟨members, count, growth⟩
      rcases induction (sound.keeps first) with ⟨others, counts, growths⟩
      simp only [ScanReport.join, List.flatMap_cons, List.length_append, List.length_cons]
      omega

/-! ## What a scan does to each threat -/

variable {found : Findings}

theorem taggedBy_of_not_mem_members (sound : store.IsSound)
    (told : findings settings now store = .ok found) {threat : Threat}
    (stored : threat ∈ store.threats) (absent : threat ∉ found.members) :
    threat.taggedBy found.all = threat := by
  refine Threat.taggedBy_of_not_mem fun campaign member number numbered => ?_
  have taken : ∀ other ∈ campaign.members, other ∈ found.members := fun other otherMember =>
    List.mem_flatMap.mpr ⟨campaign, member, otherMember⟩
  exact FoundCampaign.not_mem_ids_of_not_mem sound
    (fun other otherMember => (stored_of_mem_members sound told (taken other otherMember)).1)
    stored (fun inMembers => absent (taken threat inMembers)) numbered

theorem isSome_of_mem_members (sound : store.IsSound)
    (told : findings settings now store = .ok found) {threat : Threat}
    (taken : threat ∈ found.members) : (threat.taggedBy found.all).campaign.isSome = true := by
  rcases List.mem_flatMap.mp taken with ⟨campaign, member, inMembers⟩
  rcases sound.exists_id (stored_of_mem_members sound told taken).1 with ⟨number, numbered⟩
  exact Threat.isSome_taggedBy_of_mem member numbered
    (FoundCampaign.mem_ids.mpr ⟨threat, inMembers, numbered⟩)

theorem isSome_taggedBy_iff (sound : store.IsSound)
    (told : findings settings now store = .ok found) {threat : Threat}
    (stored : threat ∈ store.threats) (untagged : threat.campaign = none) :
    (threat.taggedBy found.all).campaign.isSome = true ↔ threat ∈ found.members := by
  constructor
  · intro isTagged
    by_contra notTaken
    rw [taggedBy_of_not_mem_members sound told stored notTaken, untagged] at isTagged
    cases isTagged
  · exact isSome_of_mem_members sound told

theorem eq_taggedBy_of_id_eq (sound : store.IsSound) {founds : List FoundCampaign}
    {threat later : Threat} (stored : threat ∈ store.threats)
    (member : later ∈ store.threats.map (Threat.taggedBy founds)) (sameId : later.id = threat.id) :
    later = threat.taggedBy founds := by
  rcases List.mem_map.mp member with ⟨before, beforeStored, rfl⟩
  rw [Threat.taggedBy_id] at sameId
  rw [sound.eq_of_id_eq beforeStored stored sameId]

end Scan

end ThreatWatch
