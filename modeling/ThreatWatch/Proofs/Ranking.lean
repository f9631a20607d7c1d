import Mathlib.Algebra.BigOperators.Group.Finset.Basic
import ThreatWatch.Proofs.Grouping
import ThreatWatch.Proofs.Paging

/-! The most frequent attacks among the threats that belong to campaigns. The ranking has one
entry for each attack, with its exact count, in one strict order; a report has the first of
these entries, so that none that it leaves out belongs before one that it lists. -/

namespace ThreatWatch

/-! ## Attacks of stored threats -/

namespace Threat

@[simp] theorem tagged_attack {campaign : String} {ids : List Int} {threat : Threat} :
    (threat.tagged campaign ids).attack = threat.attack := by
  unfold tagged
  split <;> rfl

@[simp] theorem taggedBy_attack (founds : List FoundCampaign) (threat : Threat) :
    (threat.taggedBy founds).attack = threat.attack := by
  induction founds generalizing threat with
  | nil => rfl
  | cons found rest induction => rw [taggedBy_cons, induction, tagged_attack]

end Threat

namespace Store

def IsNamed (store : Store) : Prop :=
  ∀ threat ∈ store.threats, threat.attack.isSome = true

variable {store after : Store}

theorem isNamed_empty : IsNamed {} :=
  fun _ member => absurd member List.not_mem_nil

theorem attack_of_storedThreat {number : Nat} {now : Calendar.Moment} {threat record : Threat}
    (recorded : storedThreat number now threat = .ok record) : record.attack = threat.attack := by
  rcases bind_eq_ok_iff.mp recorded with ⟨time, _, afterTime⟩
  rcases bind_eq_ok_iff.mp afterTime with ⟨confidence, _, afterConfidence⟩
  rcases bind_eq_ok_iff.mp afterConfidence with ⟨received, _, equal⟩
  cases equal
  rfl

namespace IsNamed

theorem insert (named : store.IsNamed) {now : Calendar.Moment} {threat : Threat} {id : Option Nat}
    (inserted : store.insert now threat = .ok (id, after)) : after.IsNamed := by
  rcases insert_eq_ok inserted with rfl | ⟨record, recorded, complete, rfl⟩
  · exact named
  · simp only [isComplete, Bool.and_eq_true] at complete
    refine List.forall_mem_append.mpr ⟨named, List.forall_mem_singleton.mpr ?_⟩
    rw [attack_of_storedThreat recorded]
    exact complete.1.1.2

theorem save (named : store.IsNamed) {now : Calendar.Moment} {campaign : Campaign}
    (saved : store.save now campaign = .ok after) : after.IsNamed := by
  rcases save_eq_ok saved with ⟨_, _, _, rfl⟩
  exact named

theorem tag (named : store.IsNamed) {campaign : String} {ids : List Int}
    (tagged : store.tag campaign ids = .ok after) : after.IsNamed := by
  rw [tag_eq_ok tagged]
  refine List.forall_mem_map.mpr fun threat member => ?_
  rw [Threat.tagged_attack]
  exact named threat member

theorem keepsAll (named : store.IsNamed) {saved : Calendar.Moment} {founds : List FoundCampaign}
    {report : ScanReport} (kept : Scan.KeepsAll saved store founds report after) :
    after.IsNamed := by
  unfold IsNamed
  rw [kept.threats_eq]
  refine List.forall_mem_map.mpr fun threat member => ?_
  rw [Threat.taggedBy_attack]
  exact named threat member

end IsNamed

end Store

namespace History

theorem isNamed_apply {store : Store} (named : store.IsNamed) (step : Step) :
    (apply store step).IsNamed := by
  cases step with
  | arrival now threat =>
      rcases apply_arrival store now threat with same | ⟨id, inserted⟩
      · rwa [same]
      · exact named.insert inserted
  | scan settings surroundings now =>
      rcases apply_scan store settings surroundings now with same | ⟨_, found, _, _, kept⟩
      · rwa [same]
      · exact named.keepsAll kept

theorem isNamed_run (steps : List Step) : (run steps).IsNamed :=
  runFrom_induction Store.IsNamed (fun _ _ named => isNamed_apply named) steps
    Store.isSound_empty Store.isNamed_empty

end History

namespace Store

/-! ## The order of a ranking -/

/-- An entry with a greater count, or with the same count and the first name of the two in the
order of code points. -/
def RanksAbove (left right : String × Nat) : Prop :=
  right.2 < left.2 ∨ left.2 = right.2 ∧ Text.codes left.1 < Text.codes right.1

theorem ranksBefore_iff {left right : String × Nat} :
    ranksBefore left right = true ↔
      right.2 < left.2 ∨ left.2 = right.2 ∧ Text.codes left.1 ≤ Text.codes right.1 := by
  rw [ranksBefore, ← not_lt, ← Text.precedes_iff]
  simp

theorem ranksBefore_isOrdering : IsOrdering ranksBefore :=
  .ofNumberAndName Prod.snd Prod.fst ranksBefore_iff

/-! ## Tallies -/

variable {names : List String}

def rankingOf (names : List String) : List (String × Nat) :=
  sortBy ranksBefore (tally names)

theorem map_fst_tally (names : List String) : (tally names).map Prod.fst = names.eraseDups := by
  rw [tally, List.map_map]
  exact List.map_id _

theorem mem_rankingOf {entry : String × Nat} :
    entry ∈ rankingOf names ↔ entry.1 ∈ names ∧ entry.2 = names.count entry.1 := by
  rw [rankingOf, (sortBy_perm _ _).mem_iff, tally, List.mem_map]
  constructor
  · rintro ⟨name, member, rfl⟩
    exact ⟨List.mem_eraseDups.mp member, rfl⟩
  · rintro ⟨member, count⟩
    exact ⟨entry.1, List.mem_eraseDups.mpr member, Prod.ext rfl count.symm⟩

theorem perm_map_fst_rankingOf (names : List String) :
    ((rankingOf names).map Prod.fst).Perm names.eraseDups := by
  rw [← map_fst_tally]
  exact (sortBy_perm _ _).map Prod.fst

theorem nodup_map_fst_rankingOf (names : List String) :
    ((rankingOf names).map Prod.fst).Nodup :=
  (perm_map_fst_rankingOf names).nodup_iff.mpr (nodup_eraseDups names)

theorem length_rankingOf (names : List String) :
    (rankingOf names).length = names.toFinset.card := by
  have same : names.eraseDups.toFinset = names.toFinset := by
    ext name
    rw [List.mem_toFinset, List.mem_toFinset, List.mem_eraseDups]
  rw [← List.length_map Prod.fst, (perm_map_fst_rankingOf names).length_eq, ← same,
    List.toFinset_card_of_nodup (nodup_eraseDups names)]

theorem pairwise_rankingOf (names : List String) : (rankingOf names).Pairwise RanksAbove := by
  have named : (rankingOf names).Pairwise fun left right => left.1 ≠ right.1 :=
    List.pairwise_map.mp (nodup_map_fst_rankingOf names)
  have inOrder := ranksBefore_isOrdering.pairwise_sortBy (tally names)
  refine (inOrder.and named).imp fun {left right} both => ?_
  rcases ranksBefore_iff.mp both.1 with more | ⟨same, codes⟩
  · exact .inl more
  · exact .inr ⟨same, lt_of_le_of_ne codes (mt Text.codes_inj.mp both.2)⟩

theorem ranksAbove_of_not_mem_take {count : Nat} {listed other : String × Nat}
    (member : listed ∈ (rankingOf names).take count) (ranked : other ∈ rankingOf names)
    (leftOut : other ∉ (rankingOf names).take count) : RanksAbove listed other := by
  have inOrder := pairwise_rankingOf names
  rw [← List.take_append_drop count (rankingOf names)] at inOrder ranked
  have later : other ∈ (rankingOf names).drop count :=
    (List.mem_append.mp ranked).resolve_left leftOut
  exact (List.pairwise_append.mp inOrder).2.2 listed member other later

/-! ## Reports -/

variable {store : Store}

def attackNames (store : Store) : Finset String :=
  (store.correlated.filterMap Threat.attack).toFinset

def attackCount (store : Store) (attack : String) : Nat :=
  store.correlated.countP fun threat => threat.attack = some attack

theorem count_attack (store : Store) (attack : String) :
    (store.correlated.filterMap Threat.attack).count attack = store.attackCount attack := by
  rw [List.count_filterMap, attackCount]
  refine List.countP_congr fun threat _ => ?_
  simp

theorem sum_attackCount (named : store.IsNamed) :
    ∑ attack ∈ store.attackNames, store.attackCount attack = store.correlated.length := by
  have all : (store.correlated.filterMap Threat.attack).length = store.correlated.length := by
    refine List.filterMap_length_eq_length.mpr fun threat member => ?_
    exact named threat (List.mem_of_mem_filter member)
  rw [← all, ← List.sum_toFinset_count_eq_length]
  exact Finset.sum_congr rfl fun attack _ => (store.count_attack attack).symm

theorem stats_eq_ok {top : Int} (positive : 1 ≤ top) (counted : top < 0x8000000000000000) :
    store.stats top = .ok {
      campaigns := store.campaigns.length
      active := store.campaigns.countP fun entry => entry.2.status = .active
      correlated := store.correlated.length
      attacks := (rankingOf (store.correlated.filterMap Threat.attack)).take top.toNat } := by
  have fitting : fits top = true := by
    rw [fits, decide_eq_true_iff]
    omega
  have stored : storedInt top = .ok top := if_pos fitting
  have cut : topOf top (rankingOf (store.correlated.filterMap Threat.attack)) =
      (rankingOf (store.correlated.filterMap Threat.attack)).take top.toNat :=
    if_neg (by omega)
  rw [← cut]
  exact bind_eq_ok_iff.mpr ⟨top, stored, rfl⟩

theorem stats_of_overflow {top : Int} (large : 0x8000000000000000 ≤ top) :
    store.stats top = .error .integerTooLarge := by
  have overflowing : ¬fits top = true := by
    rw [fits, decide_eq_true_iff]
    omega
  have refused : storedInt top = .error .integerTooLarge := if_neg overflowing
  rw [stats, refused]
  rfl

/-- A report of the first so many attacks, a number from one on that 64 bits can count, lists
as many of the attacks of threats in campaigns, or all if there are fewer: each once, with its
exact count, in the order of the ranking, and none that is left out ranks above a listed one.
The counts of all attacks add up to the number of threats in campaigns, and the active
campaigns are those of this status. A greater number is not taken. -/
theorem reported_attacks_lead_ranking (named : store.IsNamed) {top : Int} (positive : 1 ≤ top) :
    (top < 0x8000000000000000 → ∃ stats, store.stats top = .ok stats ∧
      stats.attacks.length = min top.toNat store.attackNames.card ∧
      (stats.attacks.map Prod.fst).Nodup ∧
      (∀ entry ∈ stats.attacks,
        entry.1 ∈ store.attackNames ∧ entry.2 = store.attackCount entry.1) ∧
      stats.attacks.Pairwise RanksAbove ∧
      (∀ attack ∈ store.attackNames, attack ∉ stats.attacks.map Prod.fst →
        ∀ entry ∈ stats.attacks, RanksAbove entry (attack, store.attackCount attack)) ∧
      ∑ attack ∈ store.attackNames, store.attackCount attack = stats.correlated ∧
      stats.correlated = store.threats.countP (fun threat => threat.campaign.isSome) ∧
      stats.active = (store.matching (some .active)).length) ∧
    (0x8000000000000000 ≤ top → store.stats top = .error .integerTooLarge) := by
  refine ⟨fun counted => ⟨_, stats_eq_ok positive counted, ?_, ?_, ?_, ?_, ?_, ?_, ?_, ?_⟩,
    stats_of_overflow⟩
  · rw [List.length_take, length_rankingOf, attackNames]
  · exact (List.take_sublist _ _).map Prod.fst |>.nodup (nodup_map_fst_rankingOf _)
  · intro entry member
    have ranked := mem_rankingOf.mp (List.mem_of_mem_take member)
    exact ⟨List.mem_toFinset.mpr ranked.1, by rw [ranked.2, count_attack]⟩
  · exact (pairwise_rankingOf _).sublist (List.take_sublist _ _)
  · intro attack occurs leftOut entry member
    refine ranksAbove_of_not_mem_take member ?_ fun listed => ?_
    · exact mem_rankingOf.mpr ⟨List.mem_toFinset.mp occurs, (count_attack store attack).symm⟩
    · exact leftOut (List.mem_map.mpr ⟨_, listed, rfl⟩)
  · exact sum_attackCount named
  · exact (List.countP_eq_length_filter).symm
  · rw [matching, List.filter_map, List.length_map, ← List.countP_eq_length_filter]
    refine List.countP_congr fun entry _ => ?_
    simp

def attackIn (campaign : Option String) (attack : String) : Threat where
  source := .guard
  address := none
  attack := some attack
  time := none
  hash := none
  campaign := campaign

def sevenThreats : Store where
  threats := [attackIn (some "C-1") "ssh", attackIn none "ssh", attackIn (some "C-1") "scan",
    attackIn none "ssh", attackIn (some "C-2") "rdp", attackIn (some "C-2") "scan",
    attackIn none "dns"]

/-- Of two attacks with one count the second one by its name is left out of the first two, where
threats that belong to no campaign count for nothing. -/
theorem tie_at_the_cut_is_told_by_name :
    ∃ stats, sevenThreats.stats 2 = .ok stats ∧ stats.attacks = [("scan", 2), ("rdp", 1)] ∧
      RanksAbove ("rdp", 1) ("ssh", 1) ∧ stats.correlated = 4 := by
  have named : ∀ threat ∈ sevenThreats.threats, threat.attack.isSome = true := by decide
  rcases (reported_attacks_lead_ranking named (show 1 ≤ 2 by decide)).1 (by decide) with
    ⟨stats, told, _, _, _, _, leftOut, _, correlated, _⟩
  have ranked : sevenThreats.stats 2 = .ok ⟨0, 0, 4, [("scan", 2), ("rdp", 1)]⟩ := rfl
  cases ranked.symm.trans told
  exact ⟨_, told, rfl, leftOut "ssh" (by decide +kernel) (by decide) ("rdp", 1) (by simp),
    correlated⟩

/-- An empty store has no attacks to list, and does not tell so to who asks for more of them
than 64 bits can count. -/
theorem nothing_told_beyond_64_bits :
    attackNames {} = ∅ ∧ stats {} 0x8000000000000000 = .error .integerTooLarge :=
  ⟨rfl, rfl⟩

end Store

end ThreatWatch
