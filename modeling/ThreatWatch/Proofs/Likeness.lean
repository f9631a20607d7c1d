import Mathlib.Algebra.BigOperators.Group.List.Basic
import Mathlib.Algebra.Order.Group.Multiset
import ThreatWatch.Proofs.Summary

/-! Lists of the same attacks. What attacks are like does not depend on their numbers,
on the campaigns they belong to, or on the order in which they are known, and neither
does how they fall into windows of time, into crowds at one address and into patterns,
or what a campaign says of them. -/

namespace ThreatWatch

namespace Threat

def bare (threat : Threat) : Threat :=
  { threat with id := none, campaign := none }

@[simp] theorem instant_bare (threat : Threat) : threat.bare.instant = threat.instant := rfl

def gist (threats : List Threat) : Multiset Threat :=
  (threats.map bare : List Threat)

variable {left right : List Threat}

theorem gist_eq_iff : gist left = gist right ↔ (left.map bare).Perm (right.map bare) :=
  Multiset.coe_eq_coe

theorem gist_of_perm (perm : left.Perm right) : gist left = gist right :=
  gist_eq_iff.mpr (perm.map bare)

theorem gist_sorted (threats : List Threat) : gist (sorted threats) = gist threats :=
  gist_of_perm (sorted_perm threats)

theorem gist_map_campaign (threats : List Threat) (name : Option String) :
    gist (threats.map fun threat => { threat with campaign := name }) = gist threats := by
  rw [gist, List.map_map]
  rfl

theorem gist_append (left right : List Threat) : gist (left ++ right) = gist left + gist right := by
  simp [gist]

theorem gist_flatten (lists : List (List Threat)) : gist lists.flatten = (lists.map gist).sum := by
  induction lists with
  | nil => rfl
  | cons first rest induction =>
      rw [List.flatten_cons, gist_append, induction, List.map_cons, List.sum_cons]

theorem map_perm_of_gist {β : Type v} {view : Threat → β}
    (blind : ∀ threat, view threat.bare = view threat) (same : gist left = gist right) :
    (left.map view).Perm (right.map view) := by
  have seen (threats : List Threat) : threats.map view = (threats.map bare).map view := by
    rw [List.map_map]
    exact List.map_congr_left fun threat _ => (blind threat).symm
  rw [seen left, seen right]
  exact (gist_eq_iff.mp same).map view

theorem length_of_gist (same : gist left = gist right) : left.length = right.length := by
  simpa using (gist_eq_iff.mp same).length_eq

theorem exists_instant_of_gist (same : gist left = gist right) {threat : Threat}
    (member : threat ∈ left) : ∃ other ∈ right, other.instant = threat.instant := by
  have instants := map_perm_of_gist (fun threat => instant_bare threat) same
  exact List.mem_map.mp (instants.mem_iff.mp (List.mem_map_of_mem member))

theorem gist_filter {keeps : Threat → Bool} (blind : ∀ threat, keeps threat.bare = keeps threat)
    (same : gist left = gist right) : gist (left.filter keeps) = gist (right.filter keeps) := by
  have kept (threats : List Threat) :
      (threats.filter keeps).map bare = (threats.map bare).filter keeps := by
    rw [List.filter_map]
    exact congrArg _ (List.filter_congr fun threat _ => (blind threat).symm)
  rw [gist_eq_iff, kept, kept]
  exact (gist_eq_iff.mp same).filter keeps

/-! ## Windows -/

theorem instant_eq_of_first {first second : Threat} (same : gist left = gist right)
    (firstMember : first ∈ left) (secondMember : second ∈ right)
    (firstLeads : ∀ threat ∈ left, first.instant ≤ threat.instant)
    (secondLeads : ∀ threat ∈ right, second.instant ≤ threat.instant) :
    first.instant = second.instant := by
  rcases exists_instant_of_gist same firstMember with ⟨other, otherMember, otherInstant⟩
  rcases exists_instant_of_gist same.symm secondMember with ⟨another, anotherMember, anotherInstant⟩
  have secondLeast := secondLeads other otherMember
  have firstLeast := firstLeads another anotherMember
  omega

theorem instant_eq_of_last {first second : Threat} (same : gist left = gist right)
    (firstMember : first ∈ left) (secondMember : second ∈ right)
    (firstTrails : ∀ threat ∈ left, threat.instant ≤ first.instant)
    (secondTrails : ∀ threat ∈ right, threat.instant ≤ second.instant) :
    first.instant = second.instant := by
  rcases exists_instant_of_gist same firstMember with ⟨other, otherMember, otherInstant⟩
  rcases exists_instant_of_gist same.symm secondMember with ⟨another, anotherMember, anotherInstant⟩
  have secondMost := secondTrails other otherMember
  have firstMost := firstTrails another anotherMember
  omega

theorem runsFrom_eq_filter {near : Threat → Threat → Bool} {first : Threat} {rest : List Threat}
    (recedes : Recedes near rest) (isNear : near first first = true) :
    runsFrom near (first :: rest) =
      (first :: rest).filter (near first) ::
        runsFrom near ((first :: rest).filter fun threat => !near first threat) := by
  have whole := List.takeWhile_append_dropWhile (p := near first) (l := rest)
  have taken : rest.filter (near first) = rest.takeWhile (near first) := by
    conv_lhs => rw [← whole, List.filter_append]
    rw [List.filter_eq_self.mpr fun _ member => List.mem_takeWhile_imp member,
      List.filter_eq_nil_iff.mpr, List.append_nil]
    intro threat member
    simp [recedes.far_of_mem_dropWhile member]
  have dropped : rest.filter (fun threat => !near first threat) =
      rest.dropWhile (near first) := by
    conv_lhs => rw [← whole, List.filter_append]
    rw [List.filter_eq_nil_iff.mpr, List.filter_eq_self.mpr, List.nil_append]
    · intro threat member
      simp [recedes.far_of_mem_dropWhile member]
    · intro threat member
      simp [List.mem_takeWhile_imp member]
  rw [runsFrom_cons, List.filter_cons_of_pos isNear, List.filter_cons_of_neg (by simp [isNear]),
    taken, dropped]

theorem runsFrom_eq_map {near : Threat → Threat → Bool} {threats : List Threat}
    (far : threats.Pairwise fun earlier later => near earlier later = false) :
    runsFrom near threats = threats.map fun threat => [threat] := by
  induction threats with
  | nil => exact runsFrom_nil near
  | cons first rest induction =>
      rcases List.pairwise_cons.mp far with ⟨farFirst, farRest⟩
      have none : rest.takeWhile (near first) = [] := by
        cases rest with
        | nil => rfl
        | cons next others => simp [farFirst next (by simp)]
      have all := List.takeWhile_append_dropWhile (p := near first) (l := rest)
      rw [none, List.nil_append] at all
      rw [runsFrom_cons, none, all, induction farRest, List.map_cons]

theorem map_gist_runsFrom {span : Int} (forward : 0 ≤ span) (same : gist left = gist right)
    (leftOrder : left.Pairwise fun earlier later => earlier.instant ≤ later.instant)
    (rightOrder : right.Pairwise fun earlier later => earlier.instant ≤ later.instant) :
    (runsFrom (within span) left).map gist = (runsFrom (within span) right).map gist := by
  induction length : left.length using Nat.strong_induction_on generalizing left right with
  | _ length induction =>
      subst length
      cases left with
      | nil =>
          have empty : right = [] := List.eq_nil_of_length_eq_zero (length_of_gist same).symm
          rw [empty]
      | cons first rest =>
          cases right with
          | nil => exact absurd (length_of_gist same) (by simp)
          | cons second others =>
              have leads {threat : Threat} {threats : List Threat}
                  (inOrder : (threat :: threats).Pairwise fun earlier later =>
                    earlier.instant ≤ later.instant) :
                  ∀ other ∈ threat :: threats, threat.instant ≤ other.instant := by
                intro other member
                rcases List.mem_cons.mp member with rfl | later
                · exact Int.le_refl _
                · exact (List.pairwise_cons.mp inOrder).1 other later
              have sameInstant : first.instant = second.instant :=
                instant_eq_of_first same (by simp) (by simp) (leads leftOrder) (leads rightOrder)
              have sameNear : within span second = within span first := by
                funext threat
                rw [within, within, sameInstant]
              have isNear (threat : Threat) : within span threat threat = true := by
                simp [within, forward]
              have blind (threat : Threat) :
                  within span first threat.bare = within span first threat := rfl
              rw [runsFrom_eq_filter (recedes_within span (List.pairwise_cons.mp leftOrder).2)
                  (isNear first),
                runsFrom_eq_filter (recedes_within span (List.pairwise_cons.mp rightOrder).2)
                  (isNear second), sameNear, List.map_cons, List.map_cons,
                gist_filter blind same]
              refine congrArg _ (induction _ ?_ ?_ (leftOrder.sublist List.filter_sublist)
                (rightOrder.sublist List.filter_sublist) rfl)
              · rw [List.filter_cons_of_neg (by simp [isNear])]
                exact Nat.lt_succ_of_le (List.length_filter_le _ _)
              · exact gist_filter (fun threat => rfl) same

theorem windows_perm_of_gist (minutes : Amount) (same : gist left = gist right) :
    ((windows minutes left).map gist).Perm ((windows minutes right).map gist) := by
  have sameSorted : gist (sorted left) = gist (sorted right) := by
    rw [gist_sorted, gist_sorted, same]
  unfold windows
  split
  · next span _ =>
      unfold clustersWithin
      by_cases forward : 0 ≤ span
      · rw [map_gist_runsFrom forward sameSorted (pairwise_sorted left) (pairwise_sorted right)]
      · have far (threats : List Threat) : (sorted threats).Pairwise fun earlier later =>
            within span earlier later = false :=
          (pairwise_sorted threats).imp fun {earlier later} ordered => by
            simp only [within, decide_eq_false_iff_not]
            omega
        rw [runsFrom_eq_map (far left), runsFrom_eq_map (far right), List.map_map, List.map_map]
        exact map_perm_of_gist (fun threat => rfl) sameSorted
  · exact .refl _

end Threat

/-! ## Groups -/

section Groups

variable {left right : List Threat}

theorem flatMap_groupsBy_perm_of_gist {κ : Type v} [BEq κ] [LawfulBEq κ] {key : Threat → κ}
    (blind : ∀ threat, key threat.bare = key threat) (parts : List Threat → List (List Threat))
    (sameParts : ∀ one other, Threat.gist one = Threat.gist other →
      ((parts one).map Threat.gist).Perm ((parts other).map Threat.gist))
    (same : Threat.gist left = Threat.gist right) :
    (((groupsBy key left).flatMap fun group => parts group.2).map Threat.gist).Perm
      (((groupsBy key right).flatMap fun group => parts group.2).map Threat.gist) := by
  have names : (left.map key).eraseDups.Perm (right.map key).eraseDups :=
    eraseDups_perm (Threat.map_perm_of_gist blind same)
  have ofName (name : κ) :
      ((parts (left.filter fun threat => key threat == name)).map Threat.gist).Perm
        ((parts (right.filter fun threat => key threat == name)).map Threat.gist) :=
    sameParts _ _ (Threat.gist_filter (fun threat => by rw [blind]) same)
  simp only [groupsBy, List.flatMap_map, List.map_flatMap]
  exact (List.Perm.flatMap_left _ fun name _ => ofName name).trans (names.flatMap_right _)

end Groups

namespace CorrelationSettings

variable (settings : CorrelationSettings) {left right : List Threat}

theorem map_gist_filter_perm {one other : List (List Threat)}
    (perm : (one.map Threat.gist).Perm (other.map Threat.gist)) :
    ((one.filter settings.isLarge).map Threat.gist).Perm
      ((other.filter settings.isLarge).map Threat.gist) := by
  let large (attacks : Multiset Threat) : Bool := !settings.leastEvents.exceeds attacks.card
  have kept (windows : List (List Threat)) :
      (windows.filter settings.isLarge).map Threat.gist = (windows.map Threat.gist).filter large := by
    rw [List.filter_map]
    refine congrArg _ (List.filter_congr fun window _ => ?_)
    simp [large, isLarge, Threat.gist]
  rw [kept, kept]
  exact perm.filter large

theorem crowds_perm_of_gist (same : Threat.gist left = Threat.gist right) :
    ((settings.crowds left).map Threat.gist).Perm ((settings.crowds right).map Threat.gist) :=
  flatMap_groupsBy_perm_of_gist (fun _ => rfl)
    (fun group => (Threat.windows settings.windowMinutes group).filter settings.isLarge)
    (fun _ _ sameGroup => settings.map_gist_filter_perm (Threat.windows_perm_of_gist _ sameGroup))
    same

theorem flatten_crowds_append_sparse_perm {threats : List Threat} (nodup : threats.Nodup) :
    ((settings.crowds threats).flatten ++ settings.sparse threats).Perm threats := by
  have crowded : (settings.crowds threats).flatten.Perm
      (threats.filter fun threat => !settings.isSparse threats threat) := by
    refine (List.perm_ext_iff_of_nodup (nodup_of_subperm (settings.flatten_crowds_subperm _) nodup)
      (nodup.sublist List.filter_sublist)).mpr fun threat => ?_
    rw [settings.mem_flatten_crowds, List.mem_filter, Bool.not_eq_true']
  exact ((crowded.append_right _).trans List.perm_append_comm).trans
    (List.filter_append_perm _ threats)

theorem gist_sparse (same : Threat.gist left = Threat.gist right) (leftNodup : left.Nodup)
    (rightNodup : right.Nodup) :
    Threat.gist (settings.sparse left) = Threat.gist (settings.sparse right) := by
  have parts {threats : List Threat} (nodup : threats.Nodup) :
      ((settings.crowds threats).map Threat.gist).sum + Threat.gist (settings.sparse threats) =
        Threat.gist threats := by
    rw [← Threat.gist_flatten, ← Threat.gist_append]
    exact Threat.gist_of_perm (settings.flatten_crowds_append_sparse_perm nodup)
  have crowds := (settings.crowds_perm_of_gist same).sum_eq
  have whole := (parts leftNodup).trans (same.trans (parts rightNodup).symm)
  rw [crowds] at whole
  exact add_left_cancel whole

def whereWide (attacks : List Threat) : List (List Threat) :=
  if settings.leastAddresses.exceeds (FoundCampaign.addressesOf attacks).length then []
  else [attacks]

theorem spreads_eq_flatMap (threats : List Threat) :
    settings.spreads threats = (groupsBy Threat.pattern threats).flatMap fun group =>
      settings.whereWide group.2 := by
  unfold spreads whereWide
  induction groupsBy Threat.pattern threats with
  | nil => rfl
  | cons group rest induction =>
      rw [List.flatMap_cons, ← induction]
      by_cases few : settings.leastAddresses.exceeds (FoundCampaign.addressesOf group.2).length =
        true
      · rw [List.filter_cons_of_neg (by simp [few]), if_pos few, List.nil_append]
      · rw [List.filter_cons_of_pos (by simp [few]), if_neg few, List.map_cons,
          List.singleton_append]

theorem length_addressesOf_of_gist (same : Threat.gist left = Threat.gist right) :
    (FoundCampaign.addressesOf left).length = (FoundCampaign.addressesOf right).length := by
  have blind (threat : Threat) : threat.bare.address = threat.address := rfl
  exact (eraseDups_perm (Threat.map_perm_of_gist blind same)).length_eq

theorem spreads_perm_of_gist (same : Threat.gist left = Threat.gist right) :
    ((settings.spreads left).map Threat.gist).Perm ((settings.spreads right).map Threat.gist) := by
  have blind (threat : Threat) : threat.bare.pattern = threat.pattern := rfl
  rw [spreads_eq_flatMap, spreads_eq_flatMap]
  refine flatMap_groupsBy_perm_of_gist blind settings.whereWide (fun one other sameGroup => ?_) same
  rw [whereWide, whereWide, length_addressesOf_of_gist sameGroup]
  split
  · exact .refl _
  · rw [List.map_singleton, List.map_singleton, sameGroup]

end CorrelationSettings

end ThreatWatch
