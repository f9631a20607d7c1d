import ThreatWatch.Proofs.Completion
import ThreatWatch.Proofs.Paging
import ThreatWatch.Proofs.Resemblance

/-! Campaigns of patterns and the methods behind them. A method is an attack with a set of
techniques, and a pattern is a text that is to stand for it. It does where the attack is told
without the bar that ends it and the text of the techniques tells which they are. -/

namespace ThreatWatch

/-! ## Methods -/

namespace Threat

def techniqueText (threat : Threat) : String :=
  Text.join "," (sortBy (fun left right => !Text.precedes right left) threat.knownTechniques)

def SameTechniques (left right : Threat) : Prop :=
  ∀ technique, technique ∈ left.knownTechniques ↔ technique ∈ right.knownTechniques

def SameMethod (left right : Threat) : Prop :=
  left.attack = right.attack ∧ left.SameTechniques right

def TellsAttack (threat : Threat) : Prop :=
  ∃ attack, threat.attack = some attack ∧ '|' ∉ attack.toList

/-- Among some threats the pattern of a threat stands for its method: it tells the attack, and
of the threats of this attack those with the same text of techniques use the same ones. -/
structure IsTold (threats : List Threat) (threat : Threat) : Prop where
  attack : threat.TellsAttack
  techniques : ∀ other ∈ threats, other.attack = threat.attack →
    (other.techniqueText = threat.techniqueText ↔ other.SameTechniques threat)

/-- The attack is told without a bar, and each technique once, by a name without a comma. -/
structure IsPlain (threat : Threat) : Prop where
  attack : threat.TellsAttack
  nodup : threat.knownTechniques.Nodup
  named : ∀ technique ∈ threat.knownTechniques, technique ≠ "" ∧ ',' ∉ technique.toList

variable {left right threat : Threat} {threats : List Threat}

theorem SameMethod.symm (same : left.SameMethod right) : right.SameMethod left :=
  ⟨same.1.symm, fun technique => (same.2 technique).symm⟩

theorem pattern_eq_iff_of_attack (same : left.attack = right.attack) :
    left.pattern = right.pattern ↔ left.techniqueText = right.techniqueText := by
  have shown (threat : Threat) : threat.pattern.toList =
      (shownField threat.attack ++ "|").toList ++ threat.techniqueText.toList :=
    String.toList_append
  rw [← String.toList_inj, shown, shown, same, List.append_cancel_left_eq, String.toList_inj]

theorem attackOfPattern_pattern (threat : Threat) :
    attackOfPattern threat.pattern =
      String.ofList ((shownField threat.attack).toList.takeWhile (· ≠ '|')) := by
  have shown : threat.pattern.toList =
      (shownField threat.attack).toList ++ '|' :: threat.techniqueText.toList := by
    simp [pattern, techniqueText, String.toList_append]
  rw [attackOfPattern, shown, List.takeWhile_append]
  split
  · next whole =>
      have same := (List.takeWhile_prefix (· ≠ '|')).eq_of_length whole
      rw [List.takeWhile_cons_of_neg (by simp), List.append_nil, same]
  · rfl

theorem tellsAttack_iff :
    threat.TellsAttack ↔ threat.attack = some (attackOfPattern threat.pattern) := by
  rw [attackOfPattern_pattern]
  constructor
  · rintro ⟨attack, told, noBar⟩
    have whole : attack.toList.takeWhile (· ≠ '|') = attack.toList := by
      rw [List.takeWhile_eq_self_iff]
      intro character member
      simp only [decide_eq_true_eq]
      rintro rfl
      exact noBar member
    rw [told, shownField, Option.getD_some, whole, String.ofList_toList]
  · intro told
    refine ⟨_, told, fun member => ?_⟩
    rw [String.toList_ofList] at member
    simpa using List.mem_takeWhile_imp member

theorem techniqueText_eq_iff (leftPlain : left.IsPlain) (rightPlain : right.IsPlain) :
    left.techniqueText = right.techniqueText ↔ left.SameTechniques right := by
  constructor
  · intro same technique
    have ordered (threat : Threat) : ∀ technique,
        technique ∈ sortBy (fun left right => !Text.precedes right left) threat.knownTechniques ↔
          technique ∈ threat.knownTechniques :=
      fun _ => (sortBy_perm _ _).mem_iff
    have equal := Text.join_inj
      (fun part member => leftPlain.named part ((ordered left part).mp member))
      (fun part member => rightPlain.named part ((ordered right part).mp member)) same
    rw [← ordered left, equal, ordered right]
  · intro same
    have perm := (List.perm_ext_iff_of_nodup leftPlain.nodup rightPlain.nodup).mpr same
    rw [techniqueText, techniqueText, Text.sortBy_eq_of_perm perm]

theorem IsPlain.isTold (plain : ∀ threat ∈ threats, threat.IsPlain) :
    ∀ threat ∈ threats, IsTold threats threat :=
  fun threat member => ⟨(plain threat member).attack, fun other otherMember _ =>
    techniqueText_eq_iff (plain other otherMember) (plain threat member)⟩

/-- Where the pattern of a threat stands for its method, the threats of this pattern that tell
their attack are those of this method. -/
theorem IsTold.pattern_eq_iff {other : Threat} (isTold : IsTold threats threat)
    (member : other ∈ threats) (tells : other.TellsAttack) :
    other.pattern = threat.pattern ↔ other.SameMethod threat := by
  constructor
  · intro samePattern
    have sameAttack : other.attack = threat.attack := by
      rw [tellsAttack_iff.mp tells, tellsAttack_iff.mp isTold.attack, samePattern]
    have sameText := (pattern_eq_iff_of_attack sameAttack).mp samePattern
    exact ⟨sameAttack, (isTold.techniques other member sameAttack).mp sameText⟩
  · rintro ⟨sameAttack, sameTechniques⟩
    rw [pattern_eq_iff_of_attack sameAttack]
    exact (isTold.techniques other member sameAttack).mpr sameTechniques

end Threat

/-! ## What is found -/

namespace FoundCampaign

/-- Campaigns sort threats by their method: each has one method, of which it names the attack
alone, and of two threats of one method it has both or neither. -/
structure SortByMethod (threats : List Threat) (founds : List FoundCampaign) : Prop where
  oneMethod : ∀ found ∈ founds, ∀ left ∈ found.members, ∀ right ∈ found.members,
    left.SameMethod right
  oneAttack : ∀ found ∈ founds, ∀ threat ∈ found.members,
    found.campaign.attacks = [threat.attack]
  together : ∀ found ∈ founds, ∀ left ∈ threats, ∀ right ∈ threats, left.SameMethod right →
    (left ∈ found.members ↔ right ∈ found.members)

variable {settings : CorrelationSettings} {day : Calendar.Date} {threats : List Threat}
  {founds : List FoundCampaign}

theorem mem_members_iff_pattern (told : byPattern settings day threats = .ok founds)
    {found : FoundCampaign} (member : found ∈ founds) {threat other : Threat}
    (inMembers : threat ∈ found.members) :
    other ∈ found.members ↔ other ∈ threats ∧ other.pattern = threat.pattern := by
  rcases exists_of_mem_of_mapM_eq_ok told member with ⟨group, kept, groupTold⟩
  rw [members_of_ofMembers groupTold, (mem_groupsBy.mp (List.mem_filter.mp kept).1).2] at *
  have own := (List.mem_filter.mp inMembers).2
  rw [List.mem_filter, ← eq_of_beq own, beq_iff_eq]

theorem isTold_of_sortByMethod (told : byPattern settings day threats = .ok founds)
    (sorts : SortByMethod threats founds) {found : FoundCampaign} (member : found ∈ founds)
    {threat : Threat} (inMembers : threat ∈ found.members) : Threat.IsTold threats threat := by
  have inThreats := ((mem_members_iff_pattern told member inMembers).mp inMembers).1
  refine ⟨?_, fun other otherInThreats sameAttack => ?_⟩
  · have named := (sorts.oneAttack found member threat inMembers).symm.trans
      ((campaign_of_byPattern told member).2 threat inMembers)
    exact Threat.tellsAttack_iff.mpr (List.singleton_inj.mp named)
  · rw [← Threat.pattern_eq_iff_of_attack sameAttack]
    constructor
    · intro samePattern
      have alsoMember := (mem_members_iff_pattern told member inMembers).mpr
        ⟨otherInThreats, samePattern⟩
      exact (sorts.oneMethod found member other alsoMember threat inMembers).2
    · intro sameTechniques
      have alsoMember := (sorts.together found member other otherInThreats threat inThreats
        ⟨sameAttack, sameTechniques⟩).mpr inMembers
      exact ((mem_members_iff_pattern told member inMembers).mp alsoMember).2

theorem sortByMethod_of_isTold (told : byPattern settings day threats = .ok founds)
    (isTold : ∀ found ∈ founds, ∀ threat ∈ found.members, Threat.IsTold threats threat) :
    SortByMethod threats founds := by
  have oneWay {found : FoundCampaign} (member : found ∈ founds) {left right : Threat}
      (inThreats : right ∈ threats) (same : left.SameMethod right)
      (leftMember : left ∈ found.members) : right ∈ found.members := by
    have leftTold := isTold found member left leftMember
    have rightTells : right.TellsAttack := by
      rw [Threat.TellsAttack, ← same.1]
      exact leftTold.attack
    exact (mem_members_iff_pattern told member leftMember).mpr
      ⟨inThreats, (leftTold.pattern_eq_iff inThreats rightTells).mpr same.symm⟩
  refine ⟨fun found member left leftMember right rightMember => ?_,
    fun found member threat inMembers => ?_,
    fun found member left leftInThreats right rightInThreats same =>
      ⟨oneWay member rightInThreats same, oneWay member leftInThreats same.symm⟩⟩
  · rcases (mem_members_iff_pattern told member rightMember).mp leftMember with
      ⟨inThreats, samePattern⟩
    exact ((isTold found member right rightMember).pattern_eq_iff inThreats
      (isTold found member left leftMember).attack).mp samePattern
  · rw [(campaign_of_byPattern told member).2 threat inMembers,
      ← Threat.tellsAttack_iff.mp (isTold found member threat inMembers).attack]

/-- Campaigns of patterns sort threats by their method, their attack and their set of techniques,
exactly where the patterns of their members stand for methods; so they do where each threat
tells its attack without a bar and each of its techniques once, by a name without a comma. -/
theorem patterns_sort_by_method (told : byPattern settings day threats = .ok founds) :
    (SortByMethod threats founds ↔
        ∀ found ∈ founds, ∀ threat ∈ found.members, Threat.IsTold threats threat) ∧
      ((∀ threat ∈ threats, threat.IsPlain) → SortByMethod threats founds) := by
  refine ⟨⟨fun sorts found member threat => isTold_of_sortByMethod told sorts member,
    sortByMethod_of_isTold told⟩, fun plain => sortByMethod_of_isTold told ?_⟩
  intro found member threat inMembers
  have inThreats := ((mem_members_iff_pattern told member inMembers).mp inMembers).1
  exact Threat.IsPlain.isTold plain threat inThreats

def twoAddresses : CorrelationSettings := { leastAddresses := .whole 2 }

def attacksOf (told : List (Fin 10 × String × List String)) : List Threat :=
  told.map fun (number, attack, techniques) => {
    id := some number
    source := .guard
    address := some (toString number)
    attack := some attack
    time := some (History.reading 0)
    hash := none
    techniques := some techniques }

theorem exists_byPattern_attacksOf (told : List (Fin 10 × String × List String)) :
    ∃ founds, byPattern twoAddresses (History.reading 0).date (attacksOf told) = .ok founds := by
  refine exists_byPattern (List.forall_mem_map.mpr fun (number, attack, techniques) _ => ?_)
  refine ⟨rfl, number, rfl, ?_⟩
  rw [Store.fits, decide_eq_true_eq]
  omega

def plainScans : List Threat :=
  attacksOf [(1, "scan", ["T2", "T1"]), (2, "scan", ["T1", "T2"]), (3, "scan", [])]

theorem isPlain_plainScans : ∀ threat ∈ plainScans, threat.IsPlain := by
  simp only [plainScans, attacksOf, List.map_cons, List.map_nil, List.forall_mem_cons]
  refine ⟨⟨⟨_, rfl, ?_⟩, ?_, ?_⟩, ⟨⟨_, rfl, ?_⟩, ?_, ?_⟩, ⟨⟨_, rfl, ?_⟩, ?_, ?_⟩, by simp⟩ <;>
    decide

/-- The first two scans make a campaign of their method. -/
theorem plain_scans_are_sorted :
    ∃ founds, byPattern twoAddresses (History.reading 0).date plainScans = .ok founds ∧
      founds.length = 1 ∧ SortByMethod plainScans founds := by
  rcases exists_byPattern_attacksOf
    [(1, "scan", ["T2", "T1"]), (2, "scan", ["T1", "T2"]), (3, "scan", [])] with ⟨founds, told⟩
  have one : founds.length = 1 := by
    rw [← List.length_map members, members_of_byPattern told]
    decide +kernel
  exact ⟨founds, told, one, (patterns_sort_by_method told).2 isPlain_plainScans⟩

theorem not_sortByMethod {members : List Threat} (spread : members ∈ settings.spreads threats)
    {threat : Threat} (inMembers : threat ∈ members) (misled : ¬Threat.IsTold threats threat)
    (told : byPattern settings day threats = .ok founds) : ¬SortByMethod threats founds := by
  intro sorts
  rw [← members_of_byPattern told] at spread
  rcases List.mem_map.mp spread with ⟨found, member, rfl⟩
  exact misled (isTold_of_sortByMethod told sorts member inMembers)

/-- Two attacks whose name has a bar make a campaign that names another attack. Of three scans
with one technique the one that tells it twice does not belong to the campaign of the others. -/
theorem bar_and_repetition_mislead :
    (∃ founds, byPattern twoAddresses (History.reading 0).date
        (attacksOf [(1, "scan|ssh", []), (2, "scan|ssh", [])]) = .ok founds ∧
      ¬SortByMethod (attacksOf [(1, "scan|ssh", []), (2, "scan|ssh", [])]) founds) ∧
    ∃ founds, byPattern twoAddresses (History.reading 0).date (attacksOf
        [(1, "scan", ["T1"]), (2, "scan", ["T1"]), (3, "scan", ["T1", "T1"])]) = .ok founds ∧
      ¬SortByMethod (attacksOf
        [(1, "scan", ["T1"]), (2, "scan", ["T1"]), (3, "scan", ["T1", "T1"])]) founds := by
  constructor
  · rcases exists_byPattern_attacksOf [(1, "scan|ssh", []), (2, "scan|ssh", [])] with
      ⟨founds, told⟩
    have spread : attacksOf [(1, "scan|ssh", []), (2, "scan|ssh", [])] ∈
        twoAddresses.spreads (attacksOf [(1, "scan|ssh", []), (2, "scan|ssh", [])]) := by
      decide +kernel
    refine ⟨founds, told, not_sortByMethod spread List.mem_cons_self ?_ told⟩
    rintro ⟨⟨attack, named, noBar⟩, _⟩
    cases named
    exact noBar (by decide)
  · rcases exists_byPattern_attacksOf
      [(1, "scan", ["T1"]), (2, "scan", ["T1"]), (3, "scan", ["T1", "T1"])] with ⟨founds, told⟩
    have spread : attacksOf [(1, "scan", ["T1"]), (2, "scan", ["T1"])] ∈ twoAddresses.spreads
        (attacksOf [(1, "scan", ["T1"]), (2, "scan", ["T1"]), (3, "scan", ["T1", "T1"])]) := by
      decide +kernel
    refine ⟨founds, told, not_sortByMethod spread List.mem_cons_self ?_ told⟩
    rintro ⟨_, techniques⟩
    have sameText := (techniques _ (List.mem_of_getElem? (i := 2) rfl) rfl).mpr (by
      intro technique
      simp [Threat.knownTechniques])
    revert sameText
    decide +kernel

end FoundCampaign

end ThreatWatch
