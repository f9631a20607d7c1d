import ThreatWatch.Proofs.Derivations
import ThreatWatch.Proofs.Meaning

/-! Conditions among other selections. A condition that has been read names some
selections outright and the rest through groups; read among other selections it keeps
its shape and its groups gather what belongs to them there. -/

namespace ThreatWatch.Condition

def groups : Condition → List String
  | .selection _ => []
  | .negation operand => operand.groups
  | .both left right => left.groups ++ right.groups
  | .either left right => left.groups ++ right.groups
  | .every _ group => [group]
  | .atLeast _ _ group => [group]

def onNames (names : List String) : Condition → Condition
  | .selection name => .selection name
  | .negation operand => .negation (operand.onNames names)
  | .both left right => .both (left.onNames names) (right.onNames names)
  | .either left right => .either (left.onNames names) (right.onNames names)
  | .every _ group => .every (names.filter (inGroup group)) group
  | .atLeast count _ group => .atLeast count (names.filter (inGroup group)) group

/-! ## Reading again -/

theorem StandsFor.eq_filter {names members : List String} {group : String}
    (stands : StandsFor names group members) (nonempty : members ≠ []) :
    members = names.filter (inGroup group) :=
  expandGroup_eq_ok ((expandGroup_eq_ok_iff nonempty).mpr stands)

theorem StandsFor.among {names others members : List String} {group : String}
    (stands : StandsFor names group members) (nonempty : others.filter (inGroup group) ≠ []) :
    StandsFor others group (others.filter (inGroup group)) := by
  cases stands with
  | whole isWhole =>
      have everyName : others.filter (inGroup group) = others :=
        List.filter_eq_self.mpr fun name _ => by simp [inGroup, isWhole]
      rw [everyName]
      exact .whole isWhole
  | @beginning start starred plain begun =>
      have noKeyword : keyword? group = none := keyword?_of_star (by simp [starred])
      have belongs : inGroup group = fun name => Text.startsWith start name.toList := by
        funext name
        simp [inGroup, noKeyword, starred]
      rw [belongs] at nonempty ⊢
      rcases List.exists_mem_of_ne_nil _ nonempty with ⟨name, member⟩
      rcases List.mem_filter.mp member with ⟨known, begins⟩
      exact .beginning starred plain ⟨name, known, List.isPrefixOf_iff_prefix.mp begins⟩

theorem filter_ne_nil_of_subset {names others : List String} {group : String}
    (nonempty : names.filter (inGroup group) ≠ [])
    (known : ∀ name ∈ names.filter (inGroup group), name ∈ others) :
    others.filter (inGroup group) ≠ [] := by
  rcases List.exists_mem_of_ne_nil _ nonempty with ⟨name, member⟩
  exact List.ne_nil_of_mem
    (List.mem_filter.mpr ⟨known name member, (List.mem_filter.mp member).2⟩)

/-- The tokens of a condition make it up among other names too, so long as these hold
all the names that it mentions. -/
theorem Derives.onNames {names others tokens : List String} {rank : Rank} {condition : Condition}
    (derives : Derives names rank tokens condition)
    (known : ∀ name ∈ condition.names, name ∈ others) :
    Derives others rank tokens (condition.onNames others) := by
  induction derives with
  | conjunction _ induction => exact .conjunction (induction known)
  | negation _ induction => exact .negation (induction known)
  | atom _ induction => exact .atom (induction known)
  | either joins _ _ chainInduction operandInduction =>
      exact .either joins
        (chainInduction fun name member => known name (List.mem_append_left _ member))
        (operandInduction fun name member => known name (List.mem_append_right _ member))
  | both joins _ _ chainInduction operandInduction =>
      exact .both joins
        (chainInduction fun name member => known name (List.mem_append_left _ member))
        (operandInduction fun name member => known name (List.mem_append_right _ member))
  | not negates _ induction => exact .not negates (induction known)
  | parentheses _ induction => exact .parentheses (induction known)
  | name isName _ => exact .name isName (known _ (List.mem_singleton_self _))
  | atLeast writes positive joins stands nonempty =>
      obtain rfl := stands.eq_filter nonempty
      have gathered := filter_ne_nil_of_subset nonempty known
      exact .atLeast writes positive joins (stands.among gathered) gathered
  | every all joins stands nonempty =>
      obtain rfl := stands.eq_filter nonempty
      have gathered := filter_ne_nil_of_subset nonempty known
      exact .every all joins (stands.among gathered) gathered

theorem parse_onNames {text : String} {names others : List String} {condition : Condition}
    (parsed : parse text names = .ok condition)
    (known : ∀ name ∈ condition.names, name ∈ others) :
    parse text others = .ok (condition.onNames others) :=
  ofTokens_eq_ok_iff.mpr ((ofTokens_eq_ok_iff.mp parsed).onNames known)

/-! ## What stays -/

theorem onNames_eq_self {names others : List String} {condition : Condition}
    (isOver : condition.IsOver names)
    (gathers : ∀ group ∈ condition.groups,
      others.filter (inGroup group) = names.filter (inGroup group)) :
    condition.onNames others = condition := by
  induction condition with
  | selection name => rfl
  | negation operand induction => exact congrArg _ (induction isOver gathers)
  | both left right leftInduction rightInduction | either left right leftInduction rightInduction =>
      rw [onNames,
        leftInduction isOver.1 fun group member => gathers group (List.mem_append_left _ member),
        rightInduction isOver.2 fun group member => gathers group (List.mem_append_right _ member)]
  | every members group =>
      obtain rfl : members = _ := isOver
      rw [onNames, gathers group (List.mem_singleton_self group)]
  | atLeast count members group =>
      obtain ⟨_, rfl⟩ := isOver
      rw [onNames, gathers group (List.mem_singleton_self group)]

theorem inGroup_eq_false {group name : String} (notWhole : keyword? group ≠ some .wholeGroup)
    (differs : ¬group.toList.dropLast <+: name.toList) : inGroup group name = false := by
  simp only [inGroup, Text.startsWith, Bool.or_eq_false_iff, decide_eq_false_iff_not]
  exact ⟨notWhole, Bool.eq_false_iff.mpr fun begins =>
    differs (List.isPrefixOf_iff_prefix.mp begins)⟩

theorem parse_around {text name : String} {front back : List String} {condition : Condition}
    (parsed : parse text (front ++ back) = .ok condition)
    (apart : ∀ group ∈ condition.groups, inGroup group name = false) :
    parse text (front ++ name :: back) = .ok condition := by
  have isOver := parse_eq_ok parsed
  have gathers (group : String) (member : group ∈ condition.groups) :
      (front ++ name :: back).filter (inGroup group) = (front ++ back).filter (inGroup group) := by
    rw [List.filter_append, List.filter_append,
      List.filter_cons_of_neg (by rw [apart group member]; exact Bool.false_ne_true)]
  have known (other : String) (mentioned : other ∈ condition.names) : other ∈ front ++ name :: back := by
    have before := isOver.mem_of_mem_names mentioned
    simp only [List.mem_append, List.mem_cons] at before ⊢
    exact before.imp_right .inr
  rw [parse_onNames parsed known, onNames_eq_self isOver gathers]

/-! ## Names in another order -/

theorem names_onNames_perm {names others : List String} {condition : Condition}
    (perm : names.Perm others) (isOver : condition.IsOver names) :
    condition.names.Perm (condition.onNames others).names := by
  induction condition with
  | selection name => exact .refl _
  | negation operand induction => exact induction isOver
  | both left right leftInduction rightInduction | either left right leftInduction rightInduction =>
      exact (leftInduction isOver.1).append (rightInduction isOver.2)
  | every members group =>
      obtain rfl : members = _ := isOver
      exact perm.filter _
  | atLeast count members group =>
      obtain ⟨_, rfl⟩ := isOver
      exact perm.filter _

theorem evaluate_onNames {names others : List String} {condition : Condition}
    {holds otherHolds : String → Bool} (perm : names.Perm others) (isOver : condition.IsOver names)
    (same : ∀ name ∈ condition.names, holds name = otherHolds name) :
    condition.evaluate holds = (condition.onNames others).evaluate otherHolds := by
  induction condition with
  | selection name => exact same name (List.mem_singleton_self name)
  | negation operand induction => exact congrArg _ (induction isOver same)
  | both left right leftInduction rightInduction | either left right leftInduction rightInduction =>
      rw [onNames, evaluate, evaluate,
        leftInduction isOver.1 fun name member => same name (List.mem_append_left _ member),
        rightInduction isOver.2 fun name member => same name (List.mem_append_right _ member)]
  | every members group =>
      obtain rfl : members = _ := isOver
      rw [onNames, evaluate, evaluate, Bool.eq_iff_iff, List.all_eq_true, List.all_eq_true]
      refine forall_congr' fun name => ?_
      rw [(perm.filter _).mem_iff]
      exact forall_congr' fun member => by rw [same name ((perm.filter _).mem_iff.mpr member)]
  | atLeast count members group =>
      obtain ⟨positive, rfl⟩ := isOver
      have lengths := ((perm.filter (inGroup group)).filter otherHolds).length_eq
      have kept : (names.filter (inGroup group)).filter holds =
          (names.filter (inGroup group)).filter otherHolds := List.filter_congr same
      rw [onNames, evaluate, evaluate, Bool.eq_iff_iff, reaches_eq_true_iff positive,
        reaches_eq_true_iff positive, ← lengths, kept]

end ThreatWatch.Condition
