import Mathlib.Data.List.Chain
import ThreatWatch.Proofs.Windows

/-! Clusters of time as a partition of the threats. They are the only way to cut the
threats, in their order of time, into pieces that keep to the span of their first threat
and start beyond that of the piece before. No partition into groups of that span has
fewer groups. -/

namespace ThreatWatch

/-! ## Counting groups -/

theorem length_le_of_apart {α : Type u} {items : List α} {groups : List (List α)}
    (covered : ∀ item ∈ items, ∃ group ∈ groups, item ∈ group)
    (apart : items.Pairwise fun first second => ∀ group ∈ groups, first ∈ group → second ∉ group) :
    items.length ≤ groups.length := by
  induction items generalizing groups with
  | nil => exact Nat.zero_le _
  | cons item rest induction =>
      rcases List.pairwise_cons.mp apart with ⟨fromItem, restApart⟩
      rcases covered item (by simp) with ⟨own, ownMember, inOwn⟩
      rcases List.append_of_mem ownMember with ⟨before, after, rfl⟩
      have others : ∀ group ∈ before ++ after, group ∈ before ++ own :: after :=
        fun group member => by
          rcases List.mem_append.mp member with early | late <;> simp [*]
      -- the later items are in none of the places of this group
      have restCovered : ∀ other ∈ rest, ∃ group ∈ before ++ after, other ∈ group := by
        intro other member
        rcases covered other (List.mem_cons_of_mem _ member) with ⟨group, groupMember, inGroup⟩
        have different : group ≠ own := fun same =>
          fromItem other member own ownMember inOwn (same ▸ inGroup)
        refine ⟨group, ?_, inGroup⟩
        simpa [different] using groupMember
      have fewer := induction restCovered (restApart.imp fun separate group member =>
        separate group (others group member))
      simp only [List.length_cons, List.length_append] at fewer ⊢
      omega

namespace Threat

/-! ## The order of time -/

/-- The threats in order of time, those of one time in the order in which they came. -/
structure IsStablySorted (threats ordered : List Threat) : Prop where
  perm : ordered.Perm threats
  inOrder : ordered.Pairwise fun left right => left.instant ≤ right.instant
  keepsOrder : ∀ instant : Int,
    (ordered.filter fun threat => threat.instant = instant) =
      threats.filter fun threat => threat.instant = instant

theorem isStablySorted_sorted (threats : List Threat) : IsStablySorted threats (sorted threats) where
  perm := sorted_perm threats
  inOrder := pairwise_sorted threats
  keepsOrder instant := by
    rw [filter_sorted]
    apply sorted_eq_self
    refine List.pairwise_of_forall_mem_list fun left leftMember right rightMember => ?_
    have leftThen := of_decide_eq_true (List.mem_filter.mp leftMember).2
    have rightThen := of_decide_eq_true (List.mem_filter.mp rightMember).2
    omega

/-! ## Cuts -/

/-- A cut of threats in order: each piece starts with an anchor and reaches no further than the
span beyond it, and the anchor of the next piece is still later. -/
structure IsAnchoredCut (span : Int) (ordered : List Threat) (pieces : List (List Threat)) :
    Prop where
  flatten_eq : pieces.flatten = ordered
  anchored : ∀ piece ∈ pieces, ∃ anchor ∈ piece.head?, ∀ threat ∈ piece,
    anchor.instant ≤ threat.instant ∧ threat.instant ≤ anchor.instant + span
  apart : pieces.IsChain fun piece next =>
    ∀ anchor ∈ piece.head?, ∀ later ∈ next.head?, anchor.instant + span < later.instant

variable {span : Int} {threats ordered : List Threat}

theorem far_iff {anchor threat : Threat} :
    within span anchor threat = false ↔ anchor.instant + span < threat.instant := by
  simp only [within, decide_eq_false_iff_not]
  omega

theorem near_iff {anchor threat : Threat} :
    within span anchor threat = true ↔ threat.instant ≤ anchor.instant + span := by
  simp only [within, decide_eq_true_eq]
  omega

theorem isAnchoredCut_clustersWithin (nonneg : 0 ≤ span)
    (inOrder : ordered.Pairwise fun left right => left.instant ≤ right.instant) :
    IsAnchoredCut span ordered (clustersWithin span ordered) where
  flatten_eq := flatten_runsFrom _ _
  anchored := by
    unfold clustersWithin
    fun_induction runsFrom (within span) ordered with
    | case1 => simp
    | case2 first rest induction =>
        rcases List.pairwise_cons.mp inOrder with ⟨leads, restInOrder⟩
        refine List.forall_mem_cons.mpr
          ⟨⟨first, rfl, ?_⟩, induction (restInOrder.sublist (List.dropWhile_sublist _))⟩
        refine List.forall_mem_cons.mpr ⟨by omega, fun threat member => ?_⟩
        exact ⟨leads threat ((List.takeWhile_sublist _).mem member),
          near_iff.mp (List.mem_takeWhile_imp member)⟩
  apart := by
    refine ((recedes_within span inOrder).pairwise_runsFrom.imp ?_).isChain
    intro piece next far anchor isAnchor later isLater
    exact far_iff.mp (far anchor isAnchor later (List.mem_of_mem_head? isLater))

theorem IsAnchoredCut.eq_clustersWithin {pieces : List (List Threat)}
    (cut : IsAnchoredCut span ordered pieces)
    (inOrder : ordered.Pairwise fun left right => left.instant ≤ right.instant) :
    pieces = clustersWithin span ordered := by
  induction pieces generalizing ordered with
  | nil => rw [← cut.flatten_eq]; exact (runsFrom_nil _).symm
  | cons piece others induction =>
      rcases List.forall_mem_cons.mp cut.anchored with ⟨⟨anchor, isAnchor, reached⟩, othersAnchored⟩
      rcases List.head?_eq_some_iff.mp isAnchor with ⟨rest, rfl⟩
      have split : anchor :: rest ++ others.flatten = ordered := cut.flatten_eq
      have othersInOrder : others.flatten.Pairwise fun left right => left.instant ≤ right.instant :=
        (List.pairwise_append.mp (split ▸ inOrder)).2.1
      have later := induction ⟨rfl, othersAnchored, cut.apart.tail⟩ othersInOrder
      -- the first of the others is beyond the span, and the rest are no earlier
      have far : ∀ threat ∈ others.flatten, within span anchor threat = false := by
        cases others with
        | nil => simp
        | cons next more =>
            rcases othersAnchored next (by simp) with ⟨first, isFirst, _⟩
            have beyond := cut.apart.rel anchor rfl first isFirst
            rcases List.head?_eq_some_iff.mp isFirst with ⟨following, rfl⟩
            rw [List.flatten_cons, List.cons_append] at othersInOrder ⊢
            intro threat member
            rw [far_iff]
            rcases List.mem_cons.mp member with rfl | inRest
            · exact beyond
            · have ordered := (List.pairwise_cons.mp othersInOrder).1 threat inRest
              omega
      have near : ∀ threat ∈ rest, within span anchor threat = true := fun threat member =>
        near_iff.mpr (reached threat (List.mem_cons_of_mem _ member)).2
      rw [← split, clustersWithin, runsFrom_append near far]
      exact congrArg _ later

theorem length_clustersWithin_le
    (inOrder : ordered.Pairwise fun left right => left.instant ≤ right.instant)
    {groups : List (List Threat)} (whole : groups.flatten.Perm ordered)
    (close : ∀ group ∈ groups, ∀ first ∈ group, ∀ second ∈ group,
      second.instant - first.instant ≤ span) :
    (clustersWithin span ordered).length ≤ groups.length := by
  let anchors := (clustersWithin span ordered).filterMap List.head?
  have covered : ∀ anchor ∈ anchors, ∃ group ∈ groups, anchor ∈ group := by
    intro anchor member
    rcases List.mem_filterMap.mp member with ⟨cluster, clusterMember, isAnchor⟩
    have inOrdered : anchor ∈ ordered := by
      rw [← flatten_runsFrom (within span) ordered]
      exact List.mem_flatten_of_mem clusterMember (List.mem_of_mem_head? isAnchor)
    exact List.mem_flatten.mp (whole.mem_iff.mpr inOrdered)
  have apart : anchors.Pairwise fun first second =>
      ∀ group ∈ groups, first ∈ group → second ∉ group := by
    refine List.pairwise_filterMap.mpr
      ((recedes_within span inOrder).pairwise_runsFrom.imp fun {cluster later} far => ?_)
    intro first isFirst second isSecond group member inGroup alsoInGroup
    have beyond := far_iff.mp (far first isFirst second (List.mem_of_mem_head? isSecond))
    have reached := close group member first inGroup second alsoInGroup
    omega
  have counted : anchors.length = (clustersWithin span ordered).length := by
    rw [List.length_filterMap_eq_countP, List.countP_eq_length]
    intro cluster member
    rw [List.isSome_head?]
    exact ne_nil_of_mem_runsFrom member
  rw [← counted]
  exact length_le_of_apart covered apart

/-! ## Clusters -/

/-- Threats that can be ordered fall into clusters of a length of time. Put together the
clusters are the threats in order of time; there is one cut between anchors, which they are; and
no partition into groups of this length has fewer groups. Where the minutes are no length of
time there are no clusters, unless there are no threats. -/
theorem clusters_are_the_fewest {threats : List Threat} (comparable : orderable threats = true)
    (minutes : Amount) :
    (∀ span, Calendar.spanOf Calendar.microsPerMinute minutes = .ok span → 0 ≤ span →
      ∃ found, clusters minutes threats = .ok found ∧
        IsStablySorted threats found.flatten ∧
        (∀ pieces, IsAnchoredCut span found.flatten pieces ↔ pieces = found) ∧
        ∀ groups : List (List Threat), groups.flatten.Perm threats →
          (∀ group ∈ groups, ∀ first ∈ group, ∀ second ∈ group,
            second.instant - first.instant ≤ span) →
          found.length ≤ groups.length) ∧
      ∀ fault, Calendar.spanOf Calendar.microsPerMinute minutes = .error fault →
        clusters minutes threats = if threats.isEmpty then .ok [] else .error fault := by
  have inOrder := pairwise_sorted threats
  have whole (span : Int) : (clustersWithin span (sorted threats)).flatten = sorted threats :=
    flatten_runsFrom _ _
  refine ⟨fun span isSpan nonneg => ?_, fun _ failed => clusters_eq_error comparable failed⟩
  refine ⟨_, clusters_eq_ok comparable isSpan, ?_, fun pieces => ?_, fun groups parts close => ?_⟩
  · rw [whole]
    exact isStablySorted_sorted threats
  · rw [whole]
    constructor
    · intro cut
      exact cut.eq_clustersWithin inOrder
    · rintro rfl
      exact isAnchoredCut_clustersWithin nonneg inOrder
  · exact length_clustersWithin_le inOrder (parts.trans (sorted_perm threats).symm) close

def scanAt (minute : Nat) : Threat where
  source := .guard
  address := some "10.0.0.1"
  attack := some "scan"
  time := Calendar.Moment.ofWall? (minute * Calendar.microsPerMinute : Nat) (some .utc)
  hash := none

/-- Scans at four minutes, as they may come, make two clusters of an hour. Another partition
has the first of them alone, and no partition is smaller. -/
theorem four_scans_make_two_clusters :
    clusters (.whole 60) [scanAt 80, scanAt 10, scanAt 100, scanAt 50] =
        .ok [[scanAt 10, scanAt 50], [scanAt 80, scanAt 100]] ∧
      [[scanAt 10, scanAt 50], [scanAt 80, scanAt 100]].length ≤
        [[scanAt 10], [scanAt 50, scanAt 80, scanAt 100]].length := by
  have comparable : orderable [scanAt 80, scanAt 10, scanAt 100, scanAt 50] = true := by
    decide +kernel
  have isSpan : Calendar.spanOf Calendar.microsPerMinute (.whole 60) = .ok 3600000000 := by
    decide +kernel
  have told : clusters (.whole 60) [scanAt 80, scanAt 10, scanAt 100, scanAt 50] =
      .ok [[scanAt 10, scanAt 50], [scanAt 80, scanAt 100]] := by decide +kernel
  rcases (clusters_are_the_fewest comparable (.whole 60)).1 _ isSpan (by decide) with
    ⟨found, foundTold, _, _, fewest⟩
  cases told.symm.trans foundTold
  exact ⟨told, fewest [[scanAt 10], [scanAt 50, scanAt 80, scanAt 100]] (by decide +kernel)
    (by decide +kernel)⟩

/-- So many minutes that no length of time holds them: two scans have no clusters of it. -/
theorem no_clusters_of_endless_window :
    (Amount.whole 2000000000000).atMostZero = false ∧
      orderable [scanAt 10, scanAt 20] = true ∧
      ∀ found, clusters (.whole 2000000000000) [scanAt 10, scanAt 20] ≠ .ok found := by
  have refused : clusters (.whole 2000000000000) [scanAt 10, scanAt 20] =
      .error .spanTooLarge := by decide +kernel
  refine ⟨by decide, by decide +kernel, fun found told => ?_⟩
  cases refused.symm.trans told

end Threat

end ThreatWatch
