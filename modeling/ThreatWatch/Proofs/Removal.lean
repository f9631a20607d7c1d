import ThreatWatch.Proofs.Bursts

/-! Taking whole campaigns away. The threats that are left fall into the clusters that they
were in, and so the campaigns that are left are found again, each as it was, and no others. -/

namespace ThreatWatch

theorem nodup_of_nodup_flatten {α : Type u} {lists : List (List α)} (nodup : lists.flatten.Nodup)
    (filled : ∀ items ∈ lists, items ≠ []) : lists.Nodup := by
  refine (List.nodup_flatten.mp nodup).2.imp_of_mem fun {left right} member _ disjoint same => ?_
  rcases List.exists_mem_of_ne_nil left (filled left member) with ⟨item, inLeft⟩
  exact disjoint inLeft (same ▸ inLeft)

namespace FoundCampaign

def outside (campaigns : List FoundCampaign) (threats : List Threat) : List Threat :=
  threats.filter fun threat => campaigns.all fun found => !found.members.contains threat

def isFree (campaigns : List FoundCampaign) (window : List Threat) : Bool :=
  campaigns.all fun found => found.members != window

variable {settings : CorrelationSettings} {day : Calendar.Date} {threats : List Threat}
  {founds : List FoundCampaign}

theorem nodup_members (told : byAddress settings day threats = .ok founds)
    (nodup : threats.Nodup) : (founds.map members).Nodup := by
  rw [members_of_byAddress told]
  exact nodup_of_nodup_flatten (nodup_of_subperm (settings.flatten_crowds_subperm threats) nodup)
    fun _ member => settings.ne_nil_of_mem_crowds member

theorem members_eq_of_mem (told : byAddress settings day threats = .ok founds)
    (nodup : threats.Nodup) {found : FoundCampaign} (member : found ∈ founds)
    {address : Option String} {window : List Threat}
    (isWindow : window ∈ Threat.windows settings.windowMinutes (Threat.sentFrom address threats))
    {threat : Threat} (inWindow : threat ∈ window) (taken : threat ∈ found.members) :
    found.members = window := by
  rcases (mem_byAddress_iff told).mp member with ⟨own, ownWindow, _⟩
  have ownWindow := (List.mem_filter.mp ownWindow).1
  have atOwn := (List.mem_filter.mp (Threat.mem_of_mem_windows ownWindow taken)).2
  have atAddress := (List.mem_filter.mp (Threat.mem_of_mem_windows isWindow inWindow)).2
  cases (eq_of_beq atAddress).symm.trans (eq_of_beq atOwn)
  have once : (Threat.windows settings.windowMinutes
      (Threat.sentFrom address threats)).flatten.Nodup := by
    refine (Threat.flatten_windows_sublist _ _).nodup ?_
    exact (Threat.sorted_perm _).nodup_iff.mpr (nodup.sublist List.filter_sublist)
  exact eq_of_mem_of_nodup_flatten once ownWindow isWindow taken inWindow

theorem windows_outside (told : byAddress settings day threats = .ok founds)
    (nodup : threats.Nodup) {chosen : List FoundCampaign} (among : chosen ⊆ founds)
    (address : Option String) :
    Threat.windows settings.windowMinutes (Threat.sentFrom address (outside chosen threats)) =
      (Threat.windows settings.windowMinutes (Threat.sentFrom address threats)).filter
        (isFree chosen) := by
  have exchanged : Threat.sentFrom address (outside chosen threats) =
      (Threat.sentFrom address threats).filter fun threat =>
        chosen.all fun found => !found.members.contains threat :=
    List.filter_comm ..
  rw [exchanged]
  cases isSpan : Calendar.spanOf Calendar.microsPerMinute settings.windowMinutes with
  | error fault => simp [Threat.windows, isSpan]
  | ok span =>
      refine Threat.windows_filter_of_nodup isSpan fun window isWindow threat inWindow => ?_
      rw [Bool.eq_iff_iff, isFree, List.all_eq_true, List.all_eq_true]
      refine forall₂_congr fun found taken => ?_
      rw [Bool.not_eq_true', ← Bool.not_eq_true, List.contains_iff_mem, bne_iff_ne]
      constructor
      · rintro absent rfl
        exact absent inWindow
      · intro different inMembers
        exact different (members_eq_of_mem told nodup (among taken) isWindow inWindow inMembers)

theorem exists_byAddress_outside (told : byAddress settings day threats = .ok founds)
    (nodup : threats.Nodup) {chosen : List FoundCampaign} (among : chosen ⊆ founds) :
    ∃ rest, byAddress settings day (outside chosen threats) = .ok rest := by
  refine exists_byAddress_of_sublist told List.filter_sublist fun address _ window member => ?_
  rw [windows_outside told nodup among] at member
  exact (List.filter_sublist.filter _).mem member

theorem mem_byAddress_outside_iff (told : byAddress settings day threats = .ok founds)
    (nodup : threats.Nodup) {chosen : List FoundCampaign} (among : chosen ⊆ founds)
    {rest : List FoundCampaign} (again : byAddress settings day (outside chosen threats) = .ok rest)
    {found : FoundCampaign} :
    found ∈ rest ↔ found ∈ founds ∧ isFree chosen found.members = true := by
  rw [mem_byAddress_iff again, mem_byAddress_iff told, ← exists_and_right]
  refine exists_congr fun address => ?_
  rw [windows_outside told nodup among]
  simp only [List.mem_filter]
  tauto

theorem isFree_iff (told : byAddress settings day threats = .ok founds) (nodup : threats.Nodup)
    {chosen : List FoundCampaign} (among : chosen ⊆ founds) {found : FoundCampaign}
    (member : found ∈ founds) : isFree chosen found.members = true ↔ found ∉ chosen := by
  simp only [isFree, List.all_eq_true, bne_iff_ne]
  constructor
  · intro free taken
    exact free found taken rfl
  · intro absent other taken same
    have equal := List.inj_on_of_nodup_map (nodup_members told nodup) (among taken) member same
    exact absent (equal ▸ taken)

/-- Campaigns of addresses can be taken away whole. Where no two threats have one number, the
threats that belong to none of some campaigns have the other campaigns found, with the same
members in the same order, and no more; those that belong to none at all have none found. -/
theorem byAddress_outside (distinct : (threats.map Threat.id).Nodup)
    (told : byAddress settings day threats = .ok founds) :
    (∀ chosen : FoundCampaign → Bool, ∃ rest,
      byAddress settings day (outside (founds.filter chosen) threats) = .ok rest ∧
        rest.Perm (founds.filter fun found => !chosen found)) ∧
      byAddress settings day (outside founds threats) = .ok [] := by
  have nodup : threats.Nodup := distinct.of_map
  have others (chosen : FoundCampaign → Bool) : ∃ rest,
      byAddress settings day (outside (founds.filter chosen) threats) = .ok rest ∧
        rest.Perm (founds.filter fun found => !chosen found) := by
    have among : founds.filter chosen ⊆ founds := fun _ member => (List.mem_filter.mp member).1
    rcases exists_byAddress_outside told nodup among with ⟨rest, again⟩
    refine ⟨rest, again, ?_⟩
    have once : rest.Nodup := (nodup_members again (nodup.sublist List.filter_sublist)).of_map
    have onceBefore : founds.Nodup := (nodup_members told nodup).of_map
    refine (List.perm_ext_iff_of_nodup once (onceBefore.sublist List.filter_sublist)).mpr
      fun found => ?_
    rw [mem_byAddress_outside_iff told nodup among again, List.mem_filter]
    refine and_congr_right fun member => ?_
    rw [isFree_iff told nodup among member, List.mem_filter]
    simp [member]
  refine ⟨others, ?_⟩
  rcases others fun _ => true with ⟨rest, again, perm⟩
  simp only [Bool.not_true, List.filter_true, List.filter_false, List.perm_nil] at again perm
  rwa [perm] at again

def involves (number : Int) (found : FoundCampaign) : Bool :=
  found.members.any fun threat => threat.id == some number

/-- Of two campaigns the one with the first scan is taken away, and the other one is found
again. -/
theorem second_campaign_is_found_again :
    ∃ founds, byAddress History.pairs (History.reading 0).date fourScans = .ok founds ∧
      founds.length = 2 ∧
      ∃ rest, byAddress History.pairs (History.reading 0).date
          (outside (founds.filter (involves 1)) fourScans) = .ok rest ∧
        rest.Perm (founds.filter fun found => !involves 1 found) ∧
        byAddress History.pairs (History.reading 0).date (outside founds fourScans) = .ok [] := by
  have distinct : (fourScans.map Threat.id).Nodup := by decide
  have isSpan : Calendar.spanOf Calendar.microsPerMinute History.pairs.windowMinutes =
      .ok (60 * Calendar.microsPerMinute) := by decide +kernel
  rcases (exists_byAddress_iff areStored_fourScans.areOrderable
    areStored_fourScans.isNumbered).mpr (.inl ⟨_, isSpan⟩) with ⟨founds, told⟩
  have two : founds.length = 2 := by
    rw [← List.length_map members, members_of_byAddress told]
    decide +kernel
  rcases byAddress_outside distinct told with ⟨others, nothing⟩
  rcases others (involves 1) with ⟨rest, again, perm⟩
  exact ⟨founds, told, two, rest, again, perm, nothing⟩

end FoundCampaign

end ThreatWatch
