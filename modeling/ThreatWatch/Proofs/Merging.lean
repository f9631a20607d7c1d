import ThreatWatch.Campaign.Basic
import ThreatWatch.Proofs.Grouping
import ThreatWatch.Proofs.History
import ThreatWatch.Proofs.Outcome

/-! Merged campaigns. The merge of two campaigns is their join: it tells what either of them
tells and nothing beyond, so that it makes no difference how a series of merges is grouped.
In which order two campaigns come decides no more than the order of the names and what the
campaign is called. Two campaigns can be merged where their times can be ordered. -/

namespace ThreatWatch

/-! ## Severities -/

namespace Severity

def worse (first second : Severity) : Severity :=
  if first.rank < second.rank then second else first

theorem worse_self (severity : Severity) : worse severity severity = severity := by
  cases severity <;> rfl

theorem worse_assoc (first second third : Severity) :
    worse (worse first second) third = worse first (worse second third) := by
  cases first <;> cases second <;> cases third <;> rfl

theorem rank_worse (first second : Severity) :
    (worse first second).rank = max first.rank second.rank := by
  cases first <;> cases second <;> rfl

theorem rank_injective : Function.Injective rank := by
  intro left right same
  cases left <;> cases right <;> first | rfl | cases same

theorem name_injective : Function.Injective name := by
  intro left right same
  have read := ofName?_name left
  rw [same, ofName?_name] at read
  exact (Option.some_inj.mp read).symm

end Severity

namespace Campaign

open Calendar (Moment)

theorem severest_pair (first second : Severity) :
    severest [first.name, second.name] = first.worse second := by
  cases first <;> cases second <;> rfl

/-! ## Names -/

/-- Names that are all known and each told once. -/
structure AreDistinct (names : List (Option String)) : Prop where
  known : none ∉ names
  nodup : names.Nodup

theorem distinctNames_append_distinctNames (names others : List (Option String)) :
    distinctNames (distinctNames names ++ distinctNames others) =
      distinctNames (names ++ others) := by
  simp only [distinctNames, List.reduceOption_append, reduceOption_map_some,
    eraseDups_append_eraseDups]

theorem distinctNames_distinctNames (names : List (Option String)) :
    distinctNames (distinctNames names) = distinctNames names := by
  simp only [distinctNames, reduceOption_map_some, eraseDups_eq_self (nodup_eraseDups _)]

theorem distinctNames_assoc (first second third : List (Option String)) :
    distinctNames (distinctNames (first ++ second) ++ third) =
      distinctNames (first ++ distinctNames (second ++ third)) := by
  rw [← distinctNames_append_distinctNames _ third, distinctNames_distinctNames,
    distinctNames_append_distinctNames, ← distinctNames_append_distinctNames first,
    distinctNames_distinctNames, distinctNames_append_distinctNames, List.append_assoc]

theorem mem_distinctNames {names : List (Option String)} {name : Option String} :
    name ∈ distinctNames names ↔ name ∈ names ∧ name ≠ none := by
  cases name with
  | none => simp [distinctNames]
  | some text => simp [distinctNames, List.mem_eraseDups, List.reduceOption_mem_iff]

theorem distinctNames_eq_self {names : List (Option String)} (distinct : AreDistinct names) :
    distinctNames names = names := by
  have nodup : names.reduceOption.Nodup := by
    apply List.Nodup.of_map some
    rw [map_some_reduceOption distinct.known]
    exact distinct.nodup
  rw [distinctNames, eraseDups_eq_self nodup, map_some_reduceOption distinct.known]

theorem distinctNames_append_self {names : List (Option String)} (distinct : AreDistinct names) :
    distinctNames (names ++ names) = names := by
  have again : distinctNames (names ++ names) = distinctNames names := by
    have nothing : names.reduceOption.removeAll names.reduceOption = [] := by
      simp [List.removeAll]
    rw [distinctNames, distinctNames, List.reduceOption_append, List.eraseDups_append, nothing,
      List.eraseDups_nil, List.append_nil]
  rw [again, distinctNames_eq_self distinct]

/-! ## Times -/

def AreComparable (left right : Option Moment) : Prop :=
  ∃ first second, left = some first ∧ right = some second ∧ first.comparable second = true

def IsNoLater (left right : Option Moment) : Prop :=
  ∃ first second, left = some first ∧ right = some second ∧ first.comparable second = true ∧
    first.instant ≤ second.instant

def RanksWithin (rank : Int → Int) (left right : Option Moment) : Prop :=
  ∃ first second, left = some first ∧ right = some second ∧ first.comparable second = true ∧
    rank first.instant ≤ rank second.instant

def IsPreference (prefers : Int → Int → Bool) (rank : Int → Int) : Prop :=
  ∀ candidate current, prefers candidate current = true ↔ rank candidate < rank current

def preferred (prefers : Int → Int → Bool) (first second : Moment) : Moment :=
  if prefers second.instant first.instant then second else first

section Choice

variable {prefers : Int → Int → Bool} {rank : Int → Int} {left right time : Option Moment}

theorem chooseTime_some {first second : Moment} (comparable : first.comparable second = true) :
    chooseTime prefers (some first) (some second) = .ok (some (preferred prefers first second)) :=
  if_pos comparable

theorem chooseTime_eq_ok_iff :
    chooseTime prefers left right = .ok time ↔
      ∃ first second, left = some first ∧ right = some second ∧
        first.comparable second = true ∧ some (preferred prefers first second) = time := by
  unfold chooseTime preferred
  split
  · next first second =>
      split
      · next comparable => simp [comparable]
      · next apart => simp [apart]
  · next unknown =>
      simp only [reduceCtorEq, false_iff, not_exists]
      rintro first second ⟨rfl, rfl, _⟩
      exact unknown first second rfl rfl

theorem exists_chooseTime_iff :
    (∃ time, chooseTime prefers left right = .ok time) ↔ AreComparable left right := by
  simp only [chooseTime_eq_ok_iff]
  constructor
  · rintro ⟨_, first, second, isFirst, isSecond, comparable, _⟩
    exact ⟨first, second, isFirst, isSecond, comparable⟩
  · rintro ⟨first, second, isFirst, isSecond, comparable⟩
    exact ⟨_, first, second, isFirst, isSecond, comparable, rfl⟩

theorem preferred_self (moment : Moment) : preferred prefers moment moment = moment :=
  ite_self _

theorem isAware_preferred {first second : Moment} (comparable : first.comparable second = true) :
    (preferred prefers first second).isAware = first.isAware := by
  unfold preferred
  split
  · exact (eq_of_beq comparable).symm
  · rfl

theorem preferred_assoc (isPreference : IsPreference prefers rank) (first second third : Moment) :
    preferred prefers (preferred prefers first second) third =
      preferred prefers first (preferred prefers second third) := by
  have ranks := isPreference
  unfold IsPreference at ranks
  simp only [preferred, ranks]
  split_ifs <;> first | rfl | omega

theorem rank_preferred (isPreference : IsPreference prefers rank) (first second : Moment) :
    rank (preferred prefers first second).instant = min (rank first.instant) (rank second.instant) := by
  have ranks := isPreference
  unfold IsPreference at ranks
  simp only [preferred, ranks]
  split <;> omega

theorem chooseTime_self (known : time.isSome = true) : chooseTime prefers time time = .ok time := by
  obtain ⟨moment, rfl⟩ := Option.isSome_iff_exists.mp known
  exact chooseTime_eq_ok_iff.mpr
    ⟨moment, moment, rfl, rfl, beq_self_eq_true _, congrArg some (preferred_self moment)⟩

theorem chooseTime_assoc (isPreference : IsPreference prefers rank) {third : Option Moment}
    (comparable : AreComparable left right) (nextComparable : AreComparable right third) :
    ∃ one other whole, chooseTime prefers left right = .ok one ∧
      chooseTime prefers right third = .ok other ∧ chooseTime prefers one third = .ok whole ∧
      chooseTime prefers left other = .ok whole := by
  obtain ⟨first, second, rfl, rfl, alike⟩ := comparable
  obtain ⟨_, last, same, rfl, nextAlike⟩ := nextComparable
  cases same
  have leftAlike : (preferred prefers first second).comparable last = true := by
    rw [Moment.comparable, isAware_preferred alike, eq_of_beq alike]
    exact nextAlike
  have rightAlike : first.comparable (preferred prefers second last) = true := by
    rw [Moment.comparable, isAware_preferred nextAlike]
    exact alike
  refine ⟨_, _, _, chooseTime_some alike, chooseTime_some nextAlike, chooseTime_some leftAlike, ?_⟩
  rw [chooseTime_some rightAlike, preferred_assoc isPreference]

theorem ranksWithin_of_chooseTime (isPreference : IsPreference prefers rank)
    (chosen : chooseTime prefers left right = .ok time) :
    RanksWithin rank time left ∧ RanksWithin rank time right ∧ (time = left ∨ time = right) := by
  obtain ⟨first, second, rfl, rfl, alike, rfl⟩ := chooseTime_eq_ok_iff.mp chosen
  have least := rank_preferred isPreference first second
  have aware : (preferred prefers first second).isAware = first.isAware := isAware_preferred alike
  refine ⟨⟨_, first, rfl, rfl, ?_, ?_⟩, ⟨_, second, rfl, rfl, ?_, ?_⟩, ?_⟩
  · rw [Moment.comparable, aware, beq_self_eq_true]
  · omega
  · rw [Moment.comparable, aware]
    exact alike
  · omega
  · unfold preferred
    split
    · exact .inr rfl
    · exact .inl rfl

end Choice

theorem earlier_isPreference :
    IsPreference (fun candidate current => decide (candidate < current)) fun instant => instant :=
  fun _ _ => decide_eq_true_iff

theorem later_isPreference :
    IsPreference (fun candidate current => decide (current < candidate)) Neg.neg := by
  intro candidate current
  rw [decide_eq_true_iff]
  omega

theorem isNoLater_of_ranksWithin {left right : Option Moment}
    (within : RanksWithin Neg.neg right left) : IsNoLater left right := by
  obtain ⟨second, first, rfl, rfl, comparable, ranked⟩ := within
  refine ⟨first, second, rfl, rfl, ?_, Int.neg_le_neg_iff.mp ranked⟩
  rw [Moment.comparable, BEq.comm]
  exact comparable

theorem AreComparable.symm {left right : Option Moment} (comparable : AreComparable left right) :
    AreComparable right left := by
  obtain ⟨first, second, rfl, rfl, alike⟩ := comparable
  refine ⟨second, first, rfl, rfl, ?_⟩
  rw [Moment.comparable, BEq.comm]
  exact alike

/-! ## Campaigns -/

/-- A campaign that tells its times, a known severity and every name once. -/
structure IsRegular (campaign : Campaign) : Prop where
  firstSeen : campaign.firstSeen.isSome = true
  lastSeen : campaign.lastSeen.isSome = true
  severity : ∃ level : Severity, campaign.severity = level.name
  attacks : AreDistinct campaign.attacks
  techniques : AreDistinct campaign.techniques
  regions : AreDistinct campaign.regions

/-- Campaigns whose times can be ordered. -/
structure SharesClock (first second : Campaign) : Prop where
  firstSeen : AreComparable first.firstSeen second.firstSeen
  lastSeen : AreComparable first.lastSeen second.lastSeen

/-- All that one campaign tells of threats, another tells too, and perhaps more. -/
structure IsWithin (part whole : Campaign) : Prop where
  firstSeen : IsNoLater whole.firstSeen part.firstSeen
  lastSeen : IsNoLater part.lastSeen whole.lastSeen
  eventCount : part.eventCount ≤ whole.eventCount
  uniqueAddresses : part.uniqueAddresses ≤ whole.uniqueAddresses
  attacks : part.attacks ⊆ whole.attacks
  techniques : part.techniques ⊆ whole.techniques
  regions : part.regions ⊆ whole.regions
  severity : ∃ own told : Severity, part.severity = own.name ∧ whole.severity = told.name ∧
    own.rank ≤ told.rank

/-- Campaigns that tell the same of threats, with the names in any order. -/
structure TellsAlike (left right : Campaign) : Prop where
  firstSeen : left.firstSeen.map Moment.instant = right.firstSeen.map Moment.instant
  lastSeen : left.lastSeen.map Moment.instant = right.lastSeen.map Moment.instant
  eventCount : left.eventCount = right.eventCount
  uniqueAddresses : left.uniqueAddresses = right.uniqueAddresses
  attacks : ∀ name, name ∈ left.attacks ↔ name ∈ right.attacks
  techniques : ∀ name, name ∈ left.techniques ↔ name ∈ right.techniques
  regions : ∀ name, name ∈ left.regions ↔ name ∈ right.regions
  severity : left.severity = right.severity

/-- A record that is still the record of the same campaign. -/
structure Continues (record existing : Campaign) : Prop where
  id : record.id = existing.id
  name : record.name = existing.name
  kind : record.kind = existing.kind
  status : record.status = existing.status
  createdAt : record.createdAt = existing.createdAt
  updatedAt : record.updatedAt = existing.updatedAt

def joined (existing incoming : Campaign) (first last : Option Moment) : Campaign :=
  { existing with
    firstSeen := first
    lastSeen := last
    eventCount := max existing.eventCount incoming.eventCount
    uniqueAddresses := max existing.uniqueAddresses incoming.uniqueAddresses
    attacks := distinctNames (existing.attacks ++ incoming.attacks)
    techniques := distinctNames (existing.techniques ++ incoming.techniques)
    regions := distinctNames (existing.regions ++ incoming.regions)
    severity := (severest [existing.severity, incoming.severity]).name }

variable {first second third merged : Campaign}

theorem merge_eq_ok_iff :
    first.merge second = .ok merged ↔
      ∃ start finish, earlier first.firstSeen second.firstSeen = .ok start ∧
        later first.lastSeen second.lastSeen = .ok finish ∧
        joined first second start finish = merged := by
  simp only [merge, bind_eq_ok_iff, pure_eq_ok_iff, joined]
  constructor
  · rintro ⟨start, starts, finish, finishes, rfl⟩
    exact ⟨start, finish, starts, finishes, rfl⟩
  · rintro ⟨start, finish, starts, finishes, rfl⟩
    exact ⟨start, starts, finish, finishes, rfl⟩

theorem exists_merge_iff : (∃ merged, first.merge second = .ok merged) ↔ first.SharesClock second := by
  simp only [merge_eq_ok_iff]
  constructor
  · rintro ⟨_, start, finish, starts, finishes, _⟩
    exact ⟨exists_chooseTime_iff.mp ⟨start, starts⟩, exists_chooseTime_iff.mp ⟨finish, finishes⟩⟩
  · intro shares
    obtain ⟨start, starts⟩ := exists_chooseTime_iff.mpr shares.firstSeen
    obtain ⟨finish, finishes⟩ := exists_chooseTime_iff.mpr shares.lastSeen
    exact ⟨_, start, finish, starts, finishes, rfl⟩

theorem merge_self (regular : first.IsRegular) : first.merge first = .ok first := by
  obtain ⟨level, severity⟩ := regular.severity
  refine merge_eq_ok_iff.mpr ⟨first.firstSeen, first.lastSeen, chooseTime_self regular.firstSeen,
    chooseTime_self regular.lastSeen, ?_⟩
  rw [joined, Int.max_self, Int.max_self, distinctNames_append_self regular.attacks,
    distinctNames_append_self regular.techniques, distinctNames_append_self regular.regions,
    severity, severest_pair, Severity.worse_self, ← severity]

theorem merge_assoc (firstRegular : first.IsRegular) (secondRegular : second.IsRegular)
    (thirdRegular : third.IsRegular) (shares : first.SharesClock second)
    (nextShares : second.SharesClock third) :
    ∃ one other whole, first.merge second = .ok one ∧ second.merge third = .ok other ∧
      one.merge third = .ok whole ∧ first.merge other = .ok whole := by
  obtain ⟨firstLevel, firstSeverity⟩ := firstRegular.severity
  obtain ⟨secondLevel, secondSeverity⟩ := secondRegular.severity
  obtain ⟨thirdLevel, thirdSeverity⟩ := thirdRegular.severity
  obtain ⟨oneStart, otherStart, start, oneStarts, otherStarts, starts, alsoStarts⟩ :=
    chooseTime_assoc earlier_isPreference shares.firstSeen nextShares.firstSeen
  obtain ⟨oneFinish, otherFinish, finish, oneFinishes, otherFinishes, finishes, alsoFinishes⟩ :=
    chooseTime_assoc later_isPreference shares.lastSeen nextShares.lastSeen
  refine ⟨joined first second oneStart oneFinish, joined second third otherStart otherFinish,
    joined (joined first second oneStart oneFinish) third start finish,
    merge_eq_ok_iff.mpr ⟨_, _, oneStarts, oneFinishes, rfl⟩,
    merge_eq_ok_iff.mpr ⟨_, _, otherStarts, otherFinishes, rfl⟩,
    merge_eq_ok_iff.mpr ⟨_, _, starts, finishes, rfl⟩,
    merge_eq_ok_iff.mpr ⟨_, _, alsoStarts, alsoFinishes, ?_⟩⟩
  simp only [joined, Int.max_assoc, distinctNames_assoc, firstSeverity, secondSeverity,
    thirdSeverity, severest_pair, Severity.worse_assoc]

/-! ## Bounds -/

theorem subset_distinctNames {names others all : List (Option String)} (known : none ∉ names)
    (among : names ⊆ others) (isAll : all = distinctNames others) : names ⊆ all := by
  intro name member
  rw [isAll, mem_distinctNames]
  refine ⟨among member, ?_⟩
  rintro rfl
  exact known member

theorem within_of_merge (firstRegular : first.IsRegular) (secondRegular : second.IsRegular)
    (merges : first.merge second = .ok merged) :
    first.IsWithin merged ∧ second.IsWithin merged := by
  obtain ⟨firstLevel, firstSeverity⟩ := firstRegular.severity
  obtain ⟨secondLevel, secondSeverity⟩ := secondRegular.severity
  obtain ⟨start, finish, starts, finishes, rfl⟩ := merge_eq_ok_iff.mp merges
  obtain ⟨startsFirst, startsSecond, _⟩ := ranksWithin_of_chooseTime earlier_isPreference starts
  obtain ⟨endsFirst, endsSecond, _⟩ := ranksWithin_of_chooseTime later_isPreference finishes
  have severity : (joined first second start finish).severity =
      (firstLevel.worse secondLevel).name := by
    rw [joined, firstSeverity, secondSeverity, severest_pair]
  have rank := Severity.rank_worse firstLevel secondLevel
  constructor
  · exact {
      firstSeen := startsFirst
      lastSeen := isNoLater_of_ranksWithin endsFirst
      eventCount := Int.le_max_left _ _
      uniqueAddresses := Int.le_max_left _ _
      attacks := subset_distinctNames firstRegular.attacks.known (List.subset_append_left _ _) rfl
      techniques := subset_distinctNames firstRegular.techniques.known
        (List.subset_append_left _ _) rfl
      regions := subset_distinctNames firstRegular.regions.known (List.subset_append_left _ _) rfl
      severity := ⟨firstLevel, _, firstSeverity, severity, by omega⟩ }
  · exact {
      firstSeen := startsSecond
      lastSeen := isNoLater_of_ranksWithin endsSecond
      eventCount := Int.le_max_right _ _
      uniqueAddresses := Int.le_max_right _ _
      attacks := subset_distinctNames secondRegular.attacks.known (List.subset_append_right _ _) rfl
      techniques := subset_distinctNames secondRegular.techniques.known
        (List.subset_append_right _ _) rfl
      regions := subset_distinctNames secondRegular.regions.known
        (List.subset_append_right _ _) rfl
      severity := ⟨secondLevel, _, secondSeverity, severity, by omega⟩ }

theorem distinctNames_subset {names others bound : List (Option String)} (among : names ⊆ bound)
    (othersAmong : others ⊆ bound) : distinctNames (names ++ others) ⊆ bound := by
  intro name member
  obtain ⟨told, _⟩ := mem_distinctNames.mp member
  exact List.append_subset.mpr ⟨among, othersAmong⟩ told

theorem within_of_bound {bound : Campaign} (merges : first.merge second = .ok merged)
    (firstWithin : first.IsWithin bound) (secondWithin : second.IsWithin bound) :
    merged.IsWithin bound := by
  obtain ⟨firstLevel, told, firstSeverity, boundSeverity, firstMilder⟩ := firstWithin.severity
  obtain ⟨secondLevel, again, secondSeverity, sameSeverity, secondMilder⟩ := secondWithin.severity
  obtain rfl : told = again := Severity.name_injective (boundSeverity.symm.trans sameSeverity)
  obtain ⟨start, finish, starts, finishes, rfl⟩ := merge_eq_ok_iff.mp merges
  obtain ⟨_, _, startChosen⟩ := ranksWithin_of_chooseTime earlier_isPreference starts
  obtain ⟨_, _, finishChosen⟩ := ranksWithin_of_chooseTime later_isPreference finishes
  have rank := Severity.rank_worse firstLevel secondLevel
  exact {
    firstSeen := by
      cases startChosen with
      | inl isFirst => exact isFirst ▸ firstWithin.firstSeen
      | inr isSecond => exact isSecond ▸ secondWithin.firstSeen
    lastSeen := by
      cases finishChosen with
      | inl isFirst => exact isFirst ▸ firstWithin.lastSeen
      | inr isSecond => exact isSecond ▸ secondWithin.lastSeen
    eventCount := Int.max_le.mpr ⟨firstWithin.eventCount, secondWithin.eventCount⟩
    uniqueAddresses := Int.max_le.mpr ⟨firstWithin.uniqueAddresses, secondWithin.uniqueAddresses⟩
    attacks := distinctNames_subset firstWithin.attacks secondWithin.attacks
    techniques := distinctNames_subset firstWithin.techniques secondWithin.techniques
    regions := distinctNames_subset firstWithin.regions secondWithin.regions
    severity := by
      refine ⟨firstLevel.worse secondLevel, told, ?_, boundSeverity, by omega⟩
      rw [joined, firstSeverity, secondSeverity, severest_pair] }

theorem instant_eq_of_isNoLater {left right : Option Moment} (before : IsNoLater left right)
    (after : IsNoLater right left) : left.map Moment.instant = right.map Moment.instant := by
  obtain ⟨moment, other, rfl, rfl, _, noLater⟩ := before
  obtain ⟨_, _, same, alsoSame, _, noEarlier⟩ := after
  cases same
  cases alsoSame
  exact congrArg some (Int.le_antisymm noLater noEarlier)

theorem IsWithin.tellsAlike {left right : Campaign} (within : left.IsWithin right)
    (around : right.IsWithin left) : left.TellsAlike right where
  firstSeen := instant_eq_of_isNoLater around.firstSeen within.firstSeen
  lastSeen := instant_eq_of_isNoLater within.lastSeen around.lastSeen
  eventCount := Int.le_antisymm within.eventCount around.eventCount
  uniqueAddresses := Int.le_antisymm within.uniqueAddresses around.uniqueAddresses
  attacks _ := ⟨fun member => within.attacks member, fun member => around.attacks member⟩
  techniques _ := ⟨fun member => within.techniques member, fun member => around.techniques member⟩
  regions _ := ⟨fun member => within.regions member, fun member => around.regions member⟩
  severity := by
    obtain ⟨own, told, ownName, toldName, milder⟩ := within.severity
    obtain ⟨again, also, againName, alsoName, harsher⟩ := around.severity
    obtain rfl : own = also := Severity.name_injective (ownName.symm.trans alsoName)
    obtain rfl : told = again := Severity.name_injective (toldName.symm.trans againName)
    rw [ownName, toldName, Severity.rank_injective (Nat.le_antisymm milder harsher)]

theorem continues_of_merge (merges : first.merge second = .ok merged) :
    merged.Continues first := by
  obtain ⟨_, _, _, _, rfl⟩ := merge_eq_ok_iff.mp merges
  exact ⟨rfl, rfl, rfl, rfl, rfl, rfl⟩

theorem SharesClock.symm (shares : first.SharesClock second) : second.SharesClock first :=
  ⟨shares.firstSeen.symm, shares.lastSeen.symm⟩

/-- The merge of campaigns is their join. A campaign merged with itself stays as it is. Two
campaigns can be merged where their times can be ordered, and what comes of it is still the
first of them, tells what both tell and is within every campaign that tells as much; in the
other order it tells the same. Three can be grouped in either way. -/
theorem merge_is_join (firstRegular : first.IsRegular) (secondRegular : second.IsRegular)
    (thirdRegular : third.IsRegular) :
    first.merge first = .ok first ∧
    ((∃ merged, first.merge second = .ok merged) ↔ first.SharesClock second) ∧
    (∀ merged, first.merge second = .ok merged →
      merged.Continues first ∧ first.IsWithin merged ∧ second.IsWithin merged ∧
      (∀ bound, first.IsWithin bound → second.IsWithin bound → merged.IsWithin bound) ∧
      ∃ turned, second.merge first = .ok turned ∧ merged.TellsAlike turned) ∧
    (first.SharesClock second → second.SharesClock third →
      ∃ one other whole, first.merge second = .ok one ∧ second.merge third = .ok other ∧
        one.merge third = .ok whole ∧ first.merge other = .ok whole) := by
  refine ⟨merge_self firstRegular, exists_merge_iff, fun merged merges => ?_,
    merge_assoc firstRegular secondRegular thirdRegular⟩
  obtain ⟨firstWithin, secondWithin⟩ := within_of_merge firstRegular secondRegular merges
  have shares := exists_merge_iff.mp ⟨merged, merges⟩
  obtain ⟨turned, turns⟩ := exists_merge_iff.mpr shares.symm
  obtain ⟨secondTurned, firstTurned⟩ := within_of_merge secondRegular firstRegular turns
  have within := within_of_bound merges firstTurned secondTurned
  have around := within_of_bound turns secondWithin firstWithin
  exact ⟨continues_of_merge merges, firstWithin, secondWithin,
    fun _ => within_of_bound merges, turned, turns, within.tellsAlike around⟩

def loginsBetween (first last : Nat) (eventCount : Int) (attacks : List (Option String))
    (severity : Severity) : Campaign where
  id := "C-1"
  name := "logins"
  kind := .addressCluster
  firstSeen := some (History.reading first)
  lastSeen := some (History.reading last)
  eventCount := eventCount
  uniqueAddresses := 1
  attacks := attacks
  severity := severity.name

theorem isRegular_loginsBetween {first last : Nat} {eventCount : Int}
    {attacks : List (Option String)} {severity : Severity} (distinct : AreDistinct attacks) :
    (loginsBetween first last eventCount attacks severity).IsRegular where
  firstSeen := rfl
  lastSeen := rfl
  severity := ⟨severity, rfl⟩
  attacks := distinct
  techniques := ⟨List.not_mem_nil, List.nodup_nil⟩
  regions := ⟨List.not_mem_nil, List.nodup_nil⟩

theorem sharesClock_loginsBetween {first last start finish : Nat} {eventCount count : Int}
    {attacks others : List (Option String)} {severity another : Severity} :
    (loginsBetween first last eventCount attacks severity).SharesClock
      (loginsBetween start finish count others another) where
  firstSeen := ⟨_, _, rfl, rfl, rfl⟩
  lastSeen := ⟨_, _, rfl, rfl, rfl⟩

/-- Three records of one campaign are joined into one that has the attacks of all. -/
theorem three_records_are_joined :
    ∃ one other whole,
      (loginsBetween 5 9 3 [some "ssh"] .high).merge
        (loginsBetween 2 7 4 [some "rdp", some "ssh"] .low) = .ok one ∧
      (loginsBetween 2 7 4 [some "rdp", some "ssh"] .low).merge
        (loginsBetween 3 12 2 [some "smb"] .critical) = .ok other ∧
      one.merge (loginsBetween 3 12 2 [some "smb"] .critical) = .ok whole ∧
      (loginsBetween 5 9 3 [some "ssh"] .high).merge other = .ok whole ∧
      (loginsBetween 2 7 4 [some "rdp", some "ssh"] .low).IsWithin one ∧
      some "rdp" ∈ one.attacks := by
  have firstRegular : (loginsBetween 5 9 3 [some "ssh"] .high).IsRegular :=
    isRegular_loginsBetween ⟨by decide, by decide⟩
  have secondRegular : (loginsBetween 2 7 4 [some "rdp", some "ssh"] .low).IsRegular :=
    isRegular_loginsBetween ⟨by decide, by decide⟩
  have thirdRegular : (loginsBetween 3 12 2 [some "smb"] .critical).IsRegular :=
    isRegular_loginsBetween ⟨by decide, by decide⟩
  obtain ⟨_, _, joins, groups⟩ := merge_is_join firstRegular secondRegular thirdRegular
  obtain ⟨one, other, whole, merges, laterMerges, grouped, otherwise⟩ :=
    groups sharesClock_loginsBetween sharesClock_loginsBetween
  obtain ⟨_, _, within, _⟩ := joins one merges
  exact ⟨one, other, whole, merges, laterMerges, grouped, otherwise, within,
    within.attacks (by decide)⟩

def loginsWithoutOffset : Campaign :=
  { loginsBetween 5 9 3 [some "ssh"] .high with
    firstSeen := some { History.reading 5 with offset := none } }

/-- It cannot be merged with a record of the same campaign that has one. -/
theorem record_without_offset_is_not_merged :
    (loginsBetween 5 9 3 [some "ssh"] .high).IsRegular ∧ loginsWithoutOffset.IsRegular ∧
    loginsWithoutOffset.id = (loginsBetween 5 9 3 [some "ssh"] .high).id ∧
    (loginsBetween 5 9 3 [some "ssh"] .high).merge loginsWithoutOffset = .error .mixedOffsets := by
  have regular : (loginsBetween 5 9 3 [some "ssh"] .high).IsRegular :=
    isRegular_loginsBetween ⟨by decide, by decide⟩
  have otherRegular : loginsWithoutOffset.IsRegular :=
    ⟨rfl, rfl, ⟨.high, rfl⟩, regular.attacks, regular.techniques, regular.regions⟩
  exact ⟨regular, otherRegular, rfl, rfl⟩

end Campaign

end ThreatWatch
