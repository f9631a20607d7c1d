import Mathlib.Algebra.BigOperators.Ring.Finset
import ThreatWatch.Proofs.Summary

/-! The campaigns of a store agree with the tags of its threats. Every campaign sums
up the threats that belong to it, and every threat that belongs to a campaign finds
it in the store. For this the members of a campaign must be known by its identity:
a scan then never meets a campaign again that it has found before. -/

namespace ThreatWatch

namespace FoundCampaign

def Distinguished (founds : List FoundCampaign) : Prop :=
  ∀ left ∈ founds, ∀ right ∈ founds, left.campaign.id = right.campaign.id →
    ∀ number ∈ left.ids, number ∈ right.ids

instance (founds : List FoundCampaign) : Decidable (Distinguished founds) :=
  inferInstanceAs (Decidable (∀ _ ∈ founds, ∀ _ ∈ founds, _ → ∀ _ ∈ _, _))

end FoundCampaign

namespace Store

/-- The campaigns agree with the tags, and each of them is one that has occurred,
whose members all belong to some campaign now. -/
structure Agrees (occurring : List FoundCampaign) (store : Store) : Prop where
  sound : store.IsSound
  summarised : ∀ entry ∈ store.campaigns, entry.2.Summarises (store.threatsOf entry.1)
  rowOfTag : ∀ threat ∈ store.threats, ∀ campaign, threat.campaign = some campaign →
    campaign ∈ Table.keys store.campaigns
  traced : ∀ key ∈ Table.keys store.campaigns, ∃ found ∈ occurring, found.campaign.id = key ∧
    ∀ number ∈ found.ids, ∃ threat ∈ store.threats,
      threat.id = some number ∧ threat.campaign.isSome = true

/-- Campaigns that are found and not kept yet: they sum up members that wait in the
store, each for one of them. -/
structure Pending (store : Store) (founds : List FoundCampaign) : Prop where
  summarised : ∀ found ∈ founds, found.campaign.Summarises found.members
  ordered : ∀ found ∈ founds, found.members.Sublist (Threat.sorted store.threats)
  untagged : ∀ found ∈ founds, ∀ threat ∈ found.members, threat.campaign = none
  nodup : (founds.flatMap FoundCampaign.members).Nodup

variable {store after : Store} {found : FoundCampaign} {rest occurring : List FoundCampaign}

theorem Pending.stored (pending : store.Pending rest) (member : found ∈ rest) :
    ∀ threat ∈ found.members, threat ∈ store.threats := fun _ inMembers =>
  (Threat.sorted_perm _).mem_iff.mp ((pending.ordered found member).mem inMembers)

theorem pending_of_findings {settings : CorrelationSettings} {now : Calendar.Moment}
    {findings : Scan.Findings} (sound : store.IsSound)
    (told : Scan.findings settings now store = .ok findings) : store.Pending findings.all where
  summarised _ member := (Scan.summarises_of_findings told member).1
  ordered _ member := (Scan.summarises_of_findings told member).2
  untagged _ member _ inMembers := (Scan.stored_of_mem_members sound told
    (List.mem_flatMap.mpr ⟨_, member, inMembers⟩)).2
  nodup := Scan.nodup_members sound told

theorem threatsOf_append_untagged {record : Threat} (untagged : record.campaign = none)
    (campaign : String) :
    threatsOf { store with threats := store.threats ++ [record] } campaign =
      store.threatsOf campaign := by
  simp [threatsOf, List.filter_append, untagged]

/-! ## Threats of a campaign after its members were tagged -/

def withTags (store : Store) (found : FoundCampaign) : Store :=
  { store with threats := store.threats.map (Threat.tagged found.campaign.id found.ids) }

section Tags

variable (sound : store.IsSound) (stored : ∀ threat ∈ found.members, threat ∈ store.threats)

include sound stored

theorem tagged_of_mem_members {threat : Threat} (member : threat ∈ found.members) :
    threat.tagged found.campaign.id found.ids =
      { threat with campaign := some found.campaign.id } := by
  rcases sound.exists_id (stored threat member) with ⟨number, numbered⟩
  exact Threat.tagged_of_mem numbered (FoundCampaign.mem_ids.mpr ⟨threat, member, numbered⟩)

theorem tagged_of_not_mem_members {threat : Threat} (threatStored : threat ∈ store.threats)
    (absent : threat ∉ found.members) : threat.tagged found.campaign.id found.ids = threat :=
  Threat.tagged_of_not_mem fun _ numbered =>
    FoundCampaign.not_mem_ids_of_not_mem sound stored threatStored absent numbered

theorem threatsOf_withTags_self
    (ordered : found.members.Sublist (Threat.sorted store.threats))
    (fresh : ∀ threat ∈ store.threats, threat.campaign ≠ some found.campaign.id) :
    (store.withTags found).threatsOf found.campaign.id =
      found.members.map fun threat => { threat with campaign := some found.campaign.id } := by
  have belongs : ∀ threat ∈ store.threats,
      ((threat.tagged found.campaign.id found.ids).campaign == some found.campaign.id) = true ↔
        threat ∈ found.members := by
    intro threat member
    by_cases inMembers : threat ∈ found.members
    · simp [tagged_of_mem_members sound stored inMembers, inMembers]
    · rw [tagged_of_not_mem_members sound stored member inMembers]
      simp [fresh threat member, inMembers]
  have sortedNodup : (Threat.sorted store.threats).Nodup :=
    (Threat.sorted_perm _).nodup_iff.mpr sound.nodup_threats
  rw [threatsOf, withTags, List.filter_map, Threat.sorted_map fun _ => Threat.tagged_instant,
    ← Threat.filter_sorted]
  have kept := filter_eq_of_sublist ordered sortedNodup fun threat member =>
    belongs threat ((Threat.sorted_perm _).mem_iff.mp member)
  refine (congrArg (List.map _) kept).trans (List.map_congr_left fun threat member => ?_)
  exact tagged_of_mem_members sound stored member

theorem threatsOf_withTags_of_ne (untagged : ∀ threat ∈ found.members, threat.campaign = none)
    {key : String} (different : key ≠ found.campaign.id) :
    (store.withTags found).threatsOf key = store.threatsOf key := by
  rw [threatsOf, withTags, threatsOf]
  congr 1
  refine filter_map_of_fixed (fun threat member => ?_) fun threat member belongs => ?_
  · by_cases inMembers : threat ∈ found.members
    · rw [tagged_of_mem_members sound stored inMembers, untagged threat inMembers]
      simp [different.symm]
    · rw [tagged_of_not_mem_members sound stored member inMembers]
  · refine tagged_of_not_mem_members sound stored member fun inMembers => ?_
    simp [untagged threat inMembers] at belongs

end Tags

/-! ## Keeping what is found -/

theorem Agrees.campaign?_eq_none (agrees : store.Agrees occurring)
    (distinguished : FoundCampaign.Distinguished occurring) (pending : store.Pending rest)
    (member : found ∈ rest) (occurs : found ∈ occurring) :
    store.campaign? found.campaign.id = none := by
  refine Table.get?_eq_none_iff.mpr fun present => ?_
  rcases agrees.traced _ present with ⟨other, otherOccurs, sameId, allTagged⟩
  rcases List.exists_mem_of_ne_nil _ (pending.summarised found member).ne_nil with
    ⟨threat, inMembers⟩
  have threatStored := pending.stored member threat inMembers
  rcases agrees.sound.exists_id threatStored with ⟨number, numbered⟩
  have inIds : number ∈ found.ids := FoundCampaign.mem_ids.mpr ⟨threat, inMembers, numbered⟩
  have inOther := distinguished found occurs other otherOccurs sameId.symm number inIds
  rcases allTagged number inOther with ⟨same, sameStored, sameNumbered, isTagged⟩
  rw [agrees.sound.eq_of_id_eq sameStored threatStored (sameNumbered.trans numbered.symm),
    pending.untagged found member threat inMembers] at isTagged
  cases isTagged

theorem Agrees.keeps_created (agrees : store.Agrees occurring)
    (distinguished : FoundCampaign.Distinguished occurring) (pending : store.Pending rest)
    (member : found ∈ rest) (occurs : found ∈ occurring) {saved : Calendar.Moment}
    {report : ScanReport} (kept : Scan.Keeps saved store found report after) :
    report = ⟨1, 0, found.members.length⟩ ∧
      ∃ created record, storedCampaign created saved found.campaign = .ok record ∧
        after = { store.withTags found with
          campaigns := store.campaigns.put found.campaign.id record } := by
  have absent := agrees.campaign?_eq_none distinguished pending member occurs
  cases kept with
  | created _ save tag =>
      rcases save_eq_ok save with ⟨created, record, recorded, rfl⟩
      exact ⟨rfl, created, record, recorded, tag_eq_ok tag⟩
  | updated present => rw [absent] at present; cases present

theorem Agrees.keeps (agrees : store.Agrees occurring)
    (distinguished : FoundCampaign.Distinguished occurring)
    (pending : store.Pending (found :: rest)) (occurs : found ∈ occurring)
    {saved : Calendar.Moment} {report : ScanReport}
    (kept : Scan.Keeps saved store found report after) : after.Agrees occurring := by
  have first : found ∈ found :: rest := by simp
  have sound := agrees.sound
  have stored := pending.stored first
  have untagged := pending.untagged found first
  have absent := Table.get?_eq_none_iff.mp
    (agrees.campaign?_eq_none distinguished pending first occurs)
  have soundAfter := sound.keeps kept
  rcases agrees.keeps_created distinguished pending first occurs kept with
    ⟨_, created, record, recorded, rfl⟩
  have fresh : ∀ threat ∈ store.threats, threat.campaign ≠ some found.campaign.id :=
    fun threat member belongs => absent (agrees.rowOfTag threat member _ belongs)
  refine ⟨soundAfter, ?_, ?_, ?_⟩
  · intro entry member
    rcases (Table.mem_put sound.nodupKeys).mp member with rfl | ⟨earlier, different⟩
    · have members := threatsOf_withTags_self sound stored (pending.ordered found first) fresh
      have summarises := (pending.summarised found first).stored
        (fun threat inMembers => sound.timed threat (stored threat inMembers)) recorded
      exact members ▸ summarises.map_campaign (some found.campaign.id)
    · have same := threatsOf_withTags_of_ne sound stored untagged different
      exact same ▸ agrees.summarised entry earlier
  · intro threat member campaign belongs
    rcases List.mem_map.mp member with ⟨before, beforeMember, rfl⟩
    refine Table.mem_keys_put.mpr ?_
    by_cases inMembers : before ∈ found.members
    · rw [tagged_of_mem_members sound stored inMembers] at belongs
      exact .inl (Option.some.inj belongs).symm
    · rw [tagged_of_not_mem_members sound stored beforeMember inMembers] at belongs
      exact .inr (agrees.rowOfTag before beforeMember campaign belongs)
  · intro key present
    rcases Table.mem_keys_put.mp present with rfl | earlier
    · refine ⟨found, occurs, rfl, fun number inIds => ?_⟩
      rcases FoundCampaign.mem_ids.mp inIds with ⟨threat, inMembers, numbered⟩
      refine ⟨_, List.mem_map_of_mem (stored threat inMembers), ?_⟩
      rw [tagged_of_mem_members sound stored inMembers]
      exact ⟨numbered, rfl⟩
    · rcases agrees.traced key earlier with ⟨other, otherOccurs, sameId, allTagged⟩
      refine ⟨other, otherOccurs, sameId, fun number inIds => ?_⟩
      rcases allTagged number inIds with ⟨threat, threatStored, numbered, isTagged⟩
      exact ⟨_, List.mem_map_of_mem threatStored, Threat.tagged_id.trans numbered,
        Threat.isSome_tagged isTagged⟩

theorem Pending.keeps (pending : store.Pending (found :: rest)) (sound : store.IsSound)
    {saved : Calendar.Moment} {report : ScanReport}
    (kept : Scan.Keeps saved store found report after) : after.Pending rest where
  summarised other member := pending.summarised other (List.mem_cons_of_mem _ member)
  ordered other member := by
    have later : other ∈ found :: rest := List.mem_cons_of_mem _ member
    have first : found ∈ found :: rest := by simp
    have apart : ∀ threat ∈ other.members, threat ∉ found.members := by
      intro threat inOther inFound
      have nodup := pending.nodup
      rw [List.flatMap_cons] at nodup
      exact (List.nodup_append'.mp nodup).2.2 inFound (List.mem_flatMap.mpr ⟨other, member, inOther⟩)
    have same : other.members.map (Threat.tagged found.campaign.id found.ids) = other.members := by
      refine (List.map_congr_left fun threat inOther => ?_).trans (List.map_id _)
      exact tagged_of_not_mem_members sound (pending.stored first)
        (pending.stored later threat inOther) (apart threat inOther)
    rw [kept.threats_eq, Threat.sorted_map fun _ => Threat.tagged_instant]
    exact same ▸ (pending.ordered other later).map _
  untagged other member := pending.untagged other (List.mem_cons_of_mem _ member)
  nodup := by
    have nodup := pending.nodup
    rw [List.flatMap_cons] at nodup
    exact (List.nodup_append'.mp nodup).2.1

theorem Agrees.keepsAll {founds : List FoundCampaign} {saved : Calendar.Moment}
    {report : ScanReport} (agrees : store.Agrees occurring)
    (distinguished : FoundCampaign.Distinguished occurring) (pending : store.Pending founds)
    (occur : ∀ found ∈ founds, found ∈ occurring)
    (kept : Scan.KeepsAll saved store founds report after) : after.Agrees occurring := by
  induction kept with
  | nil => exact agrees
  | cons first _ induction =>
      have occurs := occur _ List.mem_cons_self
      refine induction (agrees.keeps distinguished pending occurs first)
        (pending.keeps agrees.sound first) fun other member => ?_
      exact occur other (List.mem_cons_of_mem _ member)

end Store

/-! ## Whole histories -/

namespace History

def Step.IsUntagged : Step → Prop
  | .arrival _ threat => threat.campaign = none
  | .scan .. => True

instance (step : Step) : Decidable step.IsUntagged :=
  match step with
  | .arrival _ threat => inferInstanceAs (Decidable (threat.campaign = none))
  | .scan .. => inferInstanceAs (Decidable True)

def keptBy (store : Store) : Step → List FoundCampaign
  | .arrival .. => []
  | .scan settings surroundings now =>
      match ((correlator settings store).scan surroundings now).1,
          Scan.findings settings now store with
      | .ok _, .ok found => found.all
      | _, _ => []

def occurringFrom (store : Store) : List Step → List FoundCampaign
  | [] => []
  | step :: rest => keptBy store step ++ occurringFrom (apply store step) rest

variable {store : Store} {occurring : List FoundCampaign}

theorem agrees_empty : Store.Agrees occurring {} where
  sound := Store.isSound_empty
  summarised _ member := by cases member
  rowOfTag _ member := by cases member
  traced _ member := by cases member

theorem agrees_insert (agrees : store.Agrees occurring) {now : Calendar.Moment} {threat : Threat}
    (untagged : threat.campaign = none) {id : Option Nat} {after : Store}
    (inserted : store.insert now threat = .ok (id, after)) : after.Agrees occurring := by
  have soundAfter := agrees.sound.insert inserted
  rcases Store.insert_eq_ok inserted with rfl | ⟨record, recorded, _, rfl⟩
  · exact agrees
  · have recordUntagged : record.campaign = none :=
      (Store.storedThreat_eq_ok recorded).2.1.trans untagged
    refine ⟨soundAfter, fun entry member => ?_, fun other member campaign belongs => ?_,
      fun key present => ?_⟩
    · rw [Store.threatsOf_append_untagged recordUntagged entry.1]
      exact agrees.summarised entry member
    · rcases List.mem_append.mp member with earlier | new
      · exact agrees.rowOfTag other earlier campaign belongs
      · rw [List.mem_singleton.mp new, recordUntagged] at belongs
        cases belongs
    · rcases agrees.traced key present with ⟨found, occurs, sameId, allTagged⟩
      refine ⟨found, occurs, sameId, fun number inIds => ?_⟩
      rcases allTagged number inIds with ⟨other, otherStored, rest⟩
      exact ⟨other, List.mem_append_left _ otherStored, rest⟩

theorem agrees_apply (agrees : store.Agrees occurring)
    (distinguished : FoundCampaign.Distinguished occurring) {step : Step}
    (untagged : step.IsUntagged) (occur : ∀ found ∈ keptBy store step, found ∈ occurring) :
    (apply store step).Agrees occurring := by
  cases step with
  | arrival now threat =>
      rcases apply_arrival store now threat with same | ⟨id, inserted⟩
      · rw [same]
        exact agrees
      · exact agrees_insert agrees untagged inserted
  | scan settings surroundings now =>
      rcases apply_scan store settings surroundings now with same | ⟨_, found, ended, told, kept⟩
      · rw [same]
        exact agrees
      · rw [keptBy, ended, told] at occur
        exact agrees.keepsAll distinguished (Store.pending_of_findings agrees.sound told) occur kept

theorem agrees_runFrom (agrees : store.Agrees occurring)
    (distinguished : FoundCampaign.Distinguished occurring) {steps : List Step}
    (untagged : ∀ step ∈ steps, step.IsUntagged)
    (occur : ∀ found ∈ occurringFrom store steps, found ∈ occurring) :
    (runFrom store steps).Agrees occurring := by
  induction steps generalizing store with
  | nil => exact agrees
  | cons step rest induction =>
      have next := agrees_apply agrees distinguished (untagged step List.mem_cons_self)
        fun found member => occur found (List.mem_append_left _ member)
      exact induction next (fun other member => untagged other (List.mem_cons_of_mem _ member))
        fun found member => occur found (List.mem_append_right _ member)

end History

/-! ## Counts -/

namespace Store

variable {store : Store} {occurring : List FoundCampaign}

theorem pairwise_threatsOf (sound : store.IsSound) (campaign : String) :
    (store.threatsOf campaign).Pairwise fun earlier later =>
      earlier.instant < later.instant ∨ (earlier.instant = later.instant ∧
        ∃ left right, earlier.id = some left ∧ later.id = some right ∧ left < right) :=
  Threat.pairwise_sorted_of_stable (sound.pairwise_ids.sublist List.filter_sublist)

theorem Agrees.correlated_perm (agrees : store.Agrees occurring) :
    (store.campaigns.flatMap fun entry => store.threatsOf entry.1).Perm store.correlated := by
  let names := (Table.keys store.campaigns).map some
  have nodup : names.Nodup := agrees.sound.nodupKeys.map fun _ _ equal => Option.some.inj equal
  have named : store.correlated =
      store.threats.filter fun threat => names.contains threat.campaign := by
    refine List.filter_congr fun threat member => ?_
    cases belongs : threat.campaign with
    | none => simp [names]
    | some campaign =>
        have row := agrees.rowOfTag threat member campaign belongs
        simp [names, row]
  have ofNames := flatMap_filter_perm Threat.campaign names nodup store.threats
  rw [← named, List.flatMap_map, Table.keys, List.flatMap_map] at ofNames
  exact (List.Perm.flatMap_left _ fun entry _ => Threat.sorted_perm _).trans ofNames

theorem Agrees.length_correlated (agrees : store.Agrees occurring) :
    (store.correlated.length : Int) =
      (store.campaigns.map fun entry => entry.2.eventCount).sum := by
  have counts : store.campaigns.map (fun entry => entry.2.eventCount) =
      store.campaigns.map fun entry => ((store.threatsOf entry.1).length : Int) :=
    List.map_congr_left fun entry member => (agrees.summarised entry member).eventCount
  rw [← agrees.correlated_perm.length_eq, counts, List.length_flatMap, Nat.cast_list_sum,
    List.map_map]
  rfl

end Store

namespace History

/-- In every history of arrivals that belong to no campaign and of scans, completed
or not, the campaigns agree with the tags where identities tell members apart: each
campaign sums up the threats that belong to it, in the order of their times and
numbers, each threat that belongs to a campaign finds it, and the number of threats
that are reported as correlated is the sum of the counts of all campaigns. -/
theorem campaigns_agree_with_tags (steps : List Step)
    (untagged : ∀ step ∈ steps, step.IsUntagged)
    (distinguished : FoundCampaign.Distinguished (occurringFrom {} steps)) :
    (∀ entry ∈ (run steps).campaigns, entry.2.id = entry.1 ∧
        entry.2.Summarises ((run steps).threatsOf entry.1) ∧
        ((run steps).threatsOf entry.1).Pairwise fun earlier later =>
          earlier.instant < later.instant ∨ (earlier.instant = later.instant ∧
            ∃ left right, earlier.id = some left ∧ later.id = some right ∧ left < right)) ∧
      (∀ threat ∈ (run steps).threats, ∀ campaign, threat.campaign = some campaign →
        ∃ record, (run steps).campaign? campaign = some record) ∧
      ∀ top, Store.fits top = true → ∃ stats, (run steps).stats top = .ok stats ∧
        (stats.correlated : Int) =
          ((run steps).campaigns.map fun entry => entry.2.eventCount).sum := by
  have agrees := agrees_runFrom agrees_empty distinguished untagged fun _ member => member
  refine ⟨fun entry member => ?_, fun threat member campaign belongs => ?_, fun top fits => ?_⟩
  · exact ⟨agrees.sound.keyed entry member, agrees.summarised entry member,
      Store.pairwise_threatsOf agrees.sound entry.1⟩
  · refine Option.ne_none_iff_exists'.mp fun missing => ?_
    exact Table.get?_eq_none_iff.mp missing (agrees.rowOfTag threat member campaign belongs)
  · have stored : Store.storedInt top = .ok top := by rw [Store.storedInt, if_pos fits]
    refine ⟨_, bind_eq_ok_iff.mpr ⟨top, stored, rfl⟩, ?_⟩
    exact agrees.length_correlated

/-- Of three attacks two make a campaign, which counts two. -/
theorem campaign_of_two_agrees :
    ∃ entry ∈ (run (threeAttacks ++ [.scan pairs (unhindered 200) (reading 200)])).campaigns,
      entry.2.eventCount = 2 ∧ entry.2.Summarises
        ((run (threeAttacks ++ [.scan pairs (unhindered 200) (reading 200)])).threatsOf entry.1) := by
  have agreement := campaigns_agree_with_tags
    (threeAttacks ++ [.scan pairs (unhindered 200) (reading 200)])
    (by decide +kernel) (by decide +kernel)
  let first := (run (threeAttacks ++ [.scan pairs (unhindered 200) (reading 200)])).campaigns.head
    (by decide +kernel)
  have member : first ∈
      (run (threeAttacks ++ [.scan pairs (unhindered 200) (reading 200)])).campaigns :=
    List.head_mem _
  exact ⟨first, member, by decide +kernel, (agreement.1 first member).2.1⟩

end History

end ThreatWatch
