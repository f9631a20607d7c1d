import ThreatWatch.Proofs.Completion
import ThreatWatch.Proofs.Partition

/-! Bursts of attacks. The clusters of an address start with their own first threats, and so a
burst that falls into one length of the window may be cut. It is cut into two parts at most: a
burst of nearly twice as many threats as a campaign needs is always found. -/

namespace ThreatWatch

/-! ## Counting in lists -/

section Counting

variable {α : Type u}

theorem countP_flatten_filter_any (counts : α → Bool) (lists : List (List α)) :
    (lists.filter fun items => items.any counts).flatten.countP counts =
      lists.flatten.countP counts := by
  induction lists with
  | nil => rfl
  | cons items others induction =>
      rw [List.filter_cons, List.flatten_cons, List.countP_append, ← induction]
      split
      · rw [List.flatten_cons, List.countP_append]
      · next none =>
          have uncounted : items.countP counts = 0 := by
            rw [List.countP_eq_zero]
            simpa using none
          rw [uncounted, Nat.zero_add]

theorem exists_more_than_share {counts : α → Bool} {lists : List (List α)} {share : Nat}
    (many : lists.length * share < lists.flatten.countP counts) :
    ∃ items ∈ lists, share < items.countP counts := by
  induction lists with
  | nil => simp at many
  | cons items others induction =>
      rw [List.length_cons, Nat.succ_mul, List.flatten_cons, List.countP_append] at many
      by_cases more : share < items.countP counts
      · exact ⟨items, by simp, more⟩
      · rcases induction (by omega) with ⟨other, member, otherMore⟩
        exact ⟨other, List.mem_cons_of_mem _ member, otherMore⟩

end Counting

/-! ## Clusters during a span -/

namespace Threat

variable {span : Int} {ordered : List Threat}

def isDuring (start span : Int) (threat : Threat) : Bool :=
  decide (start ≤ threat.instant ∧ threat.instant ≤ start + span)

theorem isDuring_iff {start : Int} {threat : Threat} :
    threat.isDuring start span = true ↔ start ≤ threat.instant ∧ threat.instant ≤ start + span :=
  decide_eq_true_iff

theorem length_le_two (start : Int) {clusters : List (List Threat)}
    (following : clusters.Pairwise fun cluster later =>
      ∀ threat ∈ cluster, ∀ other ∈ later, threat.instant ≤ other.instant)
    (beyond : clusters.Pairwise fun cluster later =>
      ∀ anchor ∈ cluster.head?, ∀ threat ∈ later, within span anchor threat = false)
    (met : ∀ cluster ∈ clusters, ∃ threat ∈ cluster, threat.isDuring start span = true) :
    clusters.length ≤ 2 := by
  match clusters with
  | [] | [_] | [_, _] => simp
  | first :: second :: third :: rest =>
      rcases met first (by simp) with ⟨early, inFirst, earlyDuring⟩
      rcases met second (by simp) with ⟨between, inSecond, _⟩
      rcases met third (by simp) with ⟨late, inThird, lateDuring⟩
      rcases List.exists_cons_of_ne_nil (List.ne_nil_of_mem inSecond) with ⟨anchor, others, rfl⟩
      have afterEarly := (List.pairwise_cons.mp following).1 (anchor :: others) (by simp)
        early inFirst anchor (by simp)
      have beforeLate := (List.pairwise_cons.mp (List.pairwise_cons.mp beyond).2).1 third (by simp)
        anchor rfl late inThird
      rw [far_iff] at beforeLate
      rw [isDuring_iff] at earlyDuring lateDuring
      omega

theorem exists_cluster_during
    (inOrder : ordered.Pairwise fun left right => left.instant ≤ right.instant) {start : Int}
    {share : Nat} (many : 2 * share < ordered.countP (isDuring start span)) :
    ∃ cluster ∈ clustersWithin span ordered, share < cluster.countP (isDuring start span) := by
  have whole : (clustersWithin span ordered).flatten = ordered := flatten_runsFrom _ _
  let meeting := (clustersWithin span ordered).filter fun cluster =>
    cluster.any (isDuring start span)
  have few : meeting.length ≤ 2 := by
    have following := (List.pairwise_flatten.mp (whole.symm ▸ inOrder)).2
    have beyond := (recedes_within span inOrder).pairwise_runsFrom
    refine length_le_two start (following.sublist List.filter_sublist)
      (beyond.sublist List.filter_sublist) fun cluster member => ?_
    exact List.any_eq_true.mp (List.mem_filter.mp member).2
  have shared : meeting.length * share < meeting.flatten.countP (isDuring start span) := by
    rw [countP_flatten_filter_any, whole]
    exact (Nat.mul_le_mul_right share few).trans_lt many
  rcases exists_more_than_share shared with ⟨cluster, member, more⟩
  exact ⟨cluster, (List.mem_filter.mp member).1, more⟩

end Threat

/-! ## What is found -/

namespace FoundCampaign

variable {settings : CorrelationSettings} {day : Calendar.Date} {threats : List Threat}
  {founds : List FoundCampaign}

theorem exists_during {least : Nat} (positive : 0 < least)
    (isLeast : settings.leastEvents = .whole least)
    (told : byAddress settings day threats = .ok founds) {span : Int}
    (isSpan : Calendar.spanOf Calendar.microsPerMinute settings.windowMinutes = .ok span)
    {address : Option String} {start : Int}
    (many : 2 * least - 1 ≤
      (Threat.sentFrom address threats).countP (Threat.isDuring start span)) :
    ∃ found ∈ founds, ofCluster day address found.members = .ok found ∧
      (∀ threat ∈ found.members, threat.address = address) ∧
      least ≤ found.members.countP (Threat.isDuring start span) := by
  have perm := Threat.sorted_perm (Threat.sentFrom address threats)
  have more : 2 * (least - 1) <
      (Threat.sorted (Threat.sentFrom address threats)).countP (Threat.isDuring start span) := by
    rw [perm.countP_eq]
    omega
  rcases Threat.exists_cluster_during (Threat.pairwise_sorted _) more with
    ⟨window, windowMember, share⟩
  have isWindow : window ∈ Threat.windows settings.windowMinutes (Threat.sentFrom address threats) := by
    rw [Threat.windows, isSpan]
    exact windowMember
  have large : settings.isLarge window = true := by
    have enough : least ≤ window.length := by
      have counted : window.countP (Threat.isDuring start span) ≤ window.length :=
        List.countP_le_length
      omega
    rw [CorrelationSettings.isLarge, Bool.not_eq_true', ← Bool.not_eq_true, isLeast,
      Amount.exceeds_whole]
    omega
  rcases exists_of_window told (List.mem_filter.mpr ⟨isWindow, large⟩) with
    ⟨found, foundMember, windowTold⟩
  have members := members_of_ofMembers windowTold
  refine ⟨found, foundMember, members ▸ windowTold, fun threat inMembers => ?_, ?_⟩
  · rw [members] at inMembers
    exact eq_of_beq (List.mem_filter.mp (Threat.mem_of_mem_windows isWindow inMembers)).2
  · rw [members]
    omega

/-- Where the campaigns of addresses are found, a length of the window in which an address has
one threat less than twice as many as a campaign needs shows in a campaign of this address that
has enough of these threats. Threats with numbers that can be put in order at each address have
their campaigns found exactly where the window is a length of time or there are too few of them
at each address. -/
theorem bursts_are_found {settings : CorrelationSettings} {least : Nat} (positive : 0 < least)
    (isLeast : settings.leastEvents = .whole least) (day : Calendar.Date)
    (threats : List Threat) :
    (∀ founds span, byAddress settings day threats = .ok founds →
      Calendar.spanOf Calendar.microsPerMinute settings.windowMinutes = .ok span →
      ∀ address start,
        2 * least - 1 ≤
            (Threat.sentFrom address threats).countP (Threat.isDuring start span) →
          ∃ found ∈ founds, ofCluster day address found.members = .ok found ∧
            (∀ threat ∈ found.members, threat.address = address) ∧
            least ≤ found.members.countP (Threat.isDuring start span)) ∧
      (Threat.AreOrderable threats → (∀ threat ∈ threats, threat.IsNumbered) →
        ((∃ founds, byAddress settings day threats = .ok founds) ↔
          (∃ span, Calendar.spanOf Calendar.microsPerMinute settings.windowMinutes = .ok span) ∨
            settings.AreFew threats)) :=
  ⟨fun _ _ told isSpan _ _ many => exists_during positive isLeast told isSpan many,
    exists_byAddress_iff⟩

def numberedScan (number : Int) (minute : Nat) : Threat :=
  { Threat.scanAt minute with id := some number }

/-- Four scans from one address. The hour of the first one ends between the second and the
third. -/
def fourScans : List Threat :=
  [numberedScan 1 0, numberedScan 2 50, numberedScan 3 70, numberedScan 4 90]

theorem areStored_fourScans : Threat.AreStored fourScans := by
  simp only [Threat.AreStored, fourScans, List.forall_mem_cons]
  refine ⟨⟨?_, 1, rfl, ?_⟩, ⟨?_, 2, rfl, ?_⟩, ⟨?_, 3, rfl, ?_⟩, ⟨?_, 4, rfl, ?_⟩, by simp⟩ <;>
    decide +kernel

/-- Three of the scans are seen in the hour after the second one, and two of them make a
campaign. -/
theorem split_burst_is_found :
    ∃ founds, byAddress History.pairs (History.reading 0).date fourScans = .ok founds ∧
      ∃ found ∈ founds, (∀ threat ∈ found.members, threat.address = some "10.0.0.1") ∧
        2 ≤ found.members.countP
          (Threat.isDuring (50 * Calendar.microsPerMinute) (60 * Calendar.microsPerMinute)) := by
  have isSpan : Calendar.spanOf Calendar.microsPerMinute History.pairs.windowMinutes =
      .ok (60 * Calendar.microsPerMinute) := by decide +kernel
  have isLeast : History.pairs.leastEvents = .whole (2 : Nat) := rfl
  rcases bursts_are_found (by decide) isLeast (History.reading 0).date fourScans with
    ⟨guaranteed, returns⟩
  rcases (returns areStored_fourScans.areOrderable areStored_fourScans.isNumbered).mpr
    (.inl ⟨_, isSpan⟩) with ⟨founds, told⟩
  rcases guaranteed founds _ told isSpan (some "10.0.0.1") (50 * Calendar.microsPerMinute)
    (by decide +kernel) with ⟨found, member, _, sameAddress, share⟩
  exact ⟨founds, told, found, member, sameAddress, share⟩

/-- So many minutes that no length of time holds them are accepted for the window. All scans
are seen within it, and none of their campaigns are found. Neither are those of scans without
numbers. -/
theorem burst_in_endless_window_is_not_found :
    ∃ settings, CorrelationSettings.ofValue (.map
        [(.text "time_window_minutes", .int 2000000000000),
          (.text "min_events_for_campaign", .int 2)]) = .ok settings ∧
      settings.leastEvents = .whole 2 ∧
      3 ≤ (Threat.sentFrom (some "10.0.0.1") fourScans).countP
        (Threat.isDuring 0 (2000000000000 * Calendar.microsPerMinute)) ∧
      (∀ founds, byAddress settings (History.reading 0).date fourScans ≠ .ok founds) ∧
      ∀ founds, byAddress History.pairs (History.reading 0).date
        [Threat.scanAt 0, Threat.scanAt 0, Threat.scanAt 0] ≠ .ok founds := by
  have accepted : CorrelationSettings.ofValue (.map
      [(.text "time_window_minutes", .int 2000000000000),
        (.text "min_events_for_campaign", .int 2)]) =
      .ok { windowMinutes := .whole 2000000000000, leastEvents := .whole 2 } := by decide +kernel
  have endless : (byAddress { windowMinutes := .whole 2000000000000, leastEvents := .whole 2 }
      (History.reading 0).date fourScans).toBool = false := by decide +kernel
  have unnumbered : (byAddress History.pairs (History.reading 0).date
      [Threat.scanAt 0, Threat.scanAt 0, Threat.scanAt 0]).toBool = false := by decide +kernel
  refine ⟨_, accepted, rfl, by decide +kernel, fun founds told => ?_, fun founds told => ?_⟩
  · rw [told] at endless
    cases endless
  · rw [told] at unnumbered
    cases unnumbered

end FoundCampaign

end ThreatWatch
