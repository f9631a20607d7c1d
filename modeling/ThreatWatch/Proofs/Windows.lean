import ThreatWatch.Proofs.Grouping
import ThreatWatch.Proofs.Outcome
import ThreatWatch.Threat.Basic

/-! Windows of time: the clusters that threats fall into when each cluster reaches
a fixed span beyond its first threat. Taking whole windows away leaves the other
windows as they were; taking single threats away need not. -/

namespace ThreatWatch.Threat

def IsTimed (threat : Threat) : Prop :=
  threat.time.bind Calendar.Moment.offset = some Calendar.Offset.utc

instance (threat : Threat) : Decidable threat.IsTimed :=
  inferInstanceAs (Decidable (_ = _))

theorem IsTimed.clock_eq {threat : Threat} (timed : threat.IsTimed) :
    threat.clock = some true := by
  rcases Option.bind_eq_some_iff.mp timed with ⟨time, told, utc⟩
  simp [clock, told, Calendar.Moment.isAware, utc]

theorem orderable_iff {threats : List Threat} :
    orderable threats = true ↔
      threats.length ≤ 1 ∨ ∃ aware, ∀ threat ∈ threats, threat.clock = some aware := by
  match threats with
  | [] | [_] => simp [orderable]
  | first :: second :: others =>
      simp only [orderable, List.length_cons, Bool.and_eq_true, Option.isSome_iff_exists,
        List.all_eq_true, beq_iff_eq]
      constructor
      · rintro ⟨⟨aware, firstClock⟩, same⟩
        refine .inr ⟨aware, List.forall_mem_cons.mpr ⟨firstClock, fun other member => ?_⟩⟩
        exact (same other member).trans firstClock
      · rintro (single | ⟨aware, same⟩)
        · omega
        · rcases List.forall_mem_cons.mp same with ⟨firstClock, others⟩
          exact ⟨⟨aware, firstClock⟩, fun other member =>
            (others other member).trans firstClock.symm⟩

theorem orderable_of_timed {threats : List Threat} (timed : ∀ threat ∈ threats, threat.IsTimed) :
    orderable threats = true :=
  orderable_iff.mpr (.inr ⟨true, fun threat member => (timed threat member).clock_eq⟩)

theorem orderable_of_subperm {part threats : List Threat} (subperm : part.Subperm threats)
    (comparable : orderable threats = true) : orderable part = true := by
  rw [orderable_iff] at comparable ⊢
  rcases comparable with single | ⟨aware, same⟩
  · exact .inl (subperm.length_le.trans single)
  · exact .inr ⟨aware, fun threat member => same threat (subperm.subset member)⟩

theorem eq_sorted_of_sortedByTime {threats result : List Threat}
    (sortable : sortedByTime threats = .ok result) : result = sorted threats := by
  unfold sortedByTime at sortable
  split at sortable
  · exact (Except.ok.inj sortable).symm
  · cases sortable

/-! ## Windows -/

/-- The windows of time that threats fall into; there are none where the span is
no span. -/
def windows (minutes : Amount) (threats : List Threat) : List (List Threat) :=
  match Calendar.spanOf Calendar.microsPerMinute minutes with
  | .ok span => clustersWithin span (sorted threats)
  | .error _ => []

@[simp] theorem windows_nil (minutes : Amount) : windows minutes [] = [] := by
  unfold windows
  split
  · exact runsFrom_nil _
  · rfl

theorem windows_sorted (minutes : Amount) (threats : List Threat) :
    windows minutes (sorted threats) = windows minutes threats := by
  have again : sorted (sorted threats) = sorted threats :=
    sorted_eq_self (pairwise_sorted threats)
  unfold windows
  rw [again]

theorem eq_windows_of_clusters {minutes : Amount} {threats : List Threat}
    {found : List (List Threat)} (told : clusters minutes threats = .ok found) :
    found = windows minutes threats := by
  unfold clusters at told
  split at told
  · next empty =>
      rw [List.isEmpty_iff.mp empty, windows_nil]
      exact (Except.ok.inj told).symm
  · rcases bind_eq_ok_iff.mp told with ⟨ordered, sortable, rest⟩
    rcases bind_eq_ok_iff.mp rest with ⟨span, isSpan, equal⟩
    rw [← pure_eq_ok_iff.mp equal, eq_sorted_of_sortedByTime sortable, windows, isSpan]

theorem clusters_eq_ok {minutes : Amount} {threats : List Threat} {span : Int}
    (comparable : orderable threats = true)
    (isSpan : Calendar.spanOf Calendar.microsPerMinute minutes = .ok span) :
    clusters minutes threats = .ok (clustersWithin span (sorted threats)) := by
  have sortable : sortedByTime threats = .ok (sorted threats) := if_pos comparable
  unfold clusters
  split
  · next empty =>
      rw [List.isEmpty_iff.mp empty]
      exact congrArg _ (runsFrom_nil _).symm
  · rw [sortable, isSpan]
    rfl

theorem clusters_eq_error {minutes : Amount} {threats : List Threat} {fault : Fault}
    (comparable : orderable threats = true)
    (failed : Calendar.spanOf Calendar.microsPerMinute minutes = .error fault) :
    clusters minutes threats = if threats.isEmpty then .ok [] else .error fault := by
  have sortable : sortedByTime threats = .ok (sorted threats) := if_pos comparable
  unfold clusters
  rw [sortable, failed]
  rfl

theorem exists_clusters_iff {minutes : Amount} {threats : List Threat} :
    (∃ found, clusters minutes threats = .ok found) ↔
      threats = [] ∨ (orderable threats = true ∧
        ∃ span, Calendar.spanOf Calendar.microsPerMinute minutes = .ok span) := by
  constructor
  · rintro ⟨found, told⟩
    unfold clusters at told
    split at told
    · next empty => exact .inl (List.isEmpty_iff.mp empty)
    · rcases bind_eq_ok_iff.mp told with ⟨ordered, sortable, rest⟩
      rcases bind_eq_ok_iff.mp rest with ⟨span, isSpan, _⟩
      refine .inr ⟨?_, span, isSpan⟩
      unfold sortedByTime at sortable
      split at sortable
      · assumption
      · cases sortable
  · rintro (rfl | ⟨comparable, span, isSpan⟩)
    · exact ⟨[], rfl⟩
    · exact ⟨_, clusters_eq_ok comparable isSpan⟩

theorem ne_nil_of_mem_windows {minutes : Amount} {threats window : List Threat}
    (member : window ∈ windows minutes threats) : window ≠ [] := by
  unfold windows at member
  split at member
  · exact ne_nil_of_mem_runsFrom member
  · cases member

theorem flatten_windows {minutes : Amount} {span : Int}
    (isSpan : Calendar.spanOf Calendar.microsPerMinute minutes = .ok span)
    (threats : List Threat) : (windows minutes threats).flatten = sorted threats := by
  rw [windows, isSpan]
  exact flatten_runsFrom _ _

theorem flatten_windows_sublist (minutes : Amount) (threats : List Threat) :
    (windows minutes threats).flatten.Sublist (sorted threats) := by
  cases isSpan : Calendar.spanOf Calendar.microsPerMinute minutes with
  | ok span => rw [flatten_windows isSpan]
  | error fault => simp [windows, isSpan]

theorem subperm_of_mem_windows {minutes : Amount} {threats window : List Threat}
    (member : window ∈ windows minutes threats) : window.Subperm threats := by
  have part : window.Sublist (sorted threats) :=
    (List.sublist_flatten_of_mem member).trans (flatten_windows_sublist minutes threats)
  exact part.subperm.trans (sorted_perm threats).subperm

theorem mem_of_mem_windows {minutes : Amount} {threats window : List Threat}
    (member : window ∈ windows minutes threats) {threat : Threat} (inWindow : threat ∈ window) :
    threat ∈ threats :=
  (subperm_of_mem_windows member).subset inWindow

theorem length_le_of_mem_windows {minutes : Amount} {threats window : List Threat}
    (member : window ∈ windows minutes threats) : window.length ≤ threats.length :=
  (subperm_of_mem_windows member).length_le

theorem existsUnique_window {minutes : Amount} {span : Int}
    (isSpan : Calendar.spanOf Calendar.microsPerMinute minutes = .ok span) {threats : List Threat}
    (nodup : threats.Nodup) {threat : Threat} (member : threat ∈ threats) :
    ∃ window ∈ windows minutes threats, threat ∈ window ∧
      ∀ other ∈ windows minutes threats, threat ∈ other → other = window := by
  have covered : threat ∈ (windows minutes threats).flatten := by
    rw [flatten_windows isSpan]
    exact (sorted_perm threats).mem_iff.mpr member
  have once : (windows minutes threats).flatten.Nodup := by
    rw [flatten_windows isSpan]
    exact (sorted_perm threats).nodup_iff.mpr nodup
  rcases List.mem_flatten.mp covered with ⟨window, windowMember, inWindow⟩
  exact ⟨window, windowMember, inWindow, fun other otherMember inOther =>
    eq_of_mem_of_nodup_flatten once otherMember windowMember inOther inWindow⟩

theorem recedes_within (span : Int) {threats : List Threat}
    (inOrder : threats.Pairwise fun left right => left.instant ≤ right.instant) :
    Recedes (within span) threats := by
  refine inOrder.imp fun {earlier later} ordered anchor near => ?_
  simp only [within, decide_eq_true_eq] at near ⊢
  omega

theorem windows_flatten_of_sublist {minutes : Amount} {threats : List Threat}
    {chosen : List (List Threat)} (sublist : chosen.Sublist (windows minutes threats)) :
    windows minutes chosen.flatten = chosen := by
  have inOrder : chosen.flatten.Pairwise fun left right => left.instant ≤ right.instant :=
    (pairwise_sorted threats).sublist
      (sublist.flatten.trans (flatten_windows_sublist minutes threats))
  cases isSpan : Calendar.spanOf Calendar.microsPerMinute minutes with
  | ok span =>
      rw [windows, isSpan] at sublist ⊢
      rw [sorted_eq_self inOrder]
      exact runsFrom_flatten_of_sublist (recedes_within span (pairwise_sorted threats)) sublist
  | error fault =>
      rw [windows, isSpan] at sublist ⊢
      exact (List.sublist_nil.mp sublist).symm

/-- Where nothing occurs twice, what is left when all windows but the chosen ones
are taken away falls into the chosen ones. -/
theorem windows_filter_of_nodup {minutes : Amount} {threats : List Threat} {span : Int}
    (isSpan : Calendar.spanOf Calendar.microsPerMinute minutes = .ok span)
    {keeps : Threat → Bool} {chosen : List Threat → Bool}
    (agree : ∀ window ∈ windows minutes threats, ∀ threat ∈ window,
      keeps threat = chosen window) :
    windows minutes (threats.filter keeps) = (windows minutes threats).filter chosen := by
  have left : sorted (threats.filter keeps) = ((windows minutes threats).filter chosen).flatten := by
    rw [← filter_sorted, ← flatten_windows isSpan, filter_flatten agree]
  rw [← windows_sorted, left]
  exact windows_flatten_of_sublist List.filter_sublist

end ThreatWatch.Threat
