import ThreatWatch.Proofs.Conditions

/-! What conditions mean. A quantified condition speaks of all selections of the rule
that belong to its group, and so many of them hold when a part of them of that size
does. Evaluation ends early and asks only for some of the names, but it comes to what
the condition means. -/

namespace ThreatWatch.Condition

/-- What a condition says of the selections of a rule, where `holds` tells which of
them are true. -/
def Means (selections : List String) (holds : String → Prop) : Condition → Prop
  | .selection name => holds name
  | .negation operand => ¬operand.Means selections holds
  | .both left right => left.Means selections holds ∧ right.Means selections holds
  | .either left right => left.Means selections holds ∨ right.Means selections holds
  | .every _ group => ∀ name ∈ selections, inGroup group name = true → holds name
  | .atLeast count _ group =>
      ∃ chosen : List String, chosen.Sublist selections ∧ count ≤ chosen.length ∧
        ∀ name ∈ chosen, inGroup group name = true ∧ holds name

/-! ## Counting -/

theorem reaches_eq_true_iff {holds : String → Bool} {needed : Nat} {names : List String}
    (positive : 1 ≤ needed) :
    reaches holds needed names = true ↔ needed ≤ (names.filter holds).length := by
  induction names generalizing needed with
  | nil => simp [reaches]; omega
  | cons name rest induction =>
      unfold reaches
      cases told : holds name with
      | false => simpa [told] using induction positive
      | true =>
          rw [if_pos rfl, List.filter_cons_of_pos told, List.length_cons]
          split
          · next last => simp; omega
          · next more =>
              rw [induction (by omega)]
              omega

theorem le_length_filter_iff {α : Type} {passes : α → Bool} {items : List α} {needed : Nat} :
    needed ≤ (items.filter passes).length ↔
      ∃ chosen : List α, chosen.Sublist items ∧ needed ≤ chosen.length ∧
        ∀ item ∈ chosen, passes item = true := by
  constructor
  · intro enough
    exact ⟨items.filter passes, List.filter_sublist, enough, fun _ => List.of_mem_filter⟩
  · rintro ⟨chosen, part, enough, pass⟩
    have kept : chosen.filter passes = chosen := List.filter_eq_self.mpr pass
    have within := (part.filter passes).length_le
    rw [kept] at within
    omega

/-! ## Evaluation -/

theorem evaluate_iff_means {selections : List String} {condition : Condition}
    {answer : String → Bool} {holds : String → Prop} (isOver : condition.IsOver selections)
    (tells : ∀ name ∈ condition.names, answer name = true ↔ holds name) :
    condition.evaluate answer = true ↔ condition.Means selections holds := by
  induction condition with
  | selection name => exact tells name (by simp [names])
  | negation operand induction =>
      simp only [evaluate, Means, Bool.not_eq_true', ← induction isOver tells,
        Bool.not_eq_true]
  | both left right leftInduction rightInduction =>
      have leftTells := leftInduction isOver.1 fun name member =>
        tells name (List.mem_append_left _ member)
      have rightTells := rightInduction isOver.2 fun name member =>
        tells name (List.mem_append_right _ member)
      rw [evaluate, Bool.and_eq_true, leftTells, rightTells, Means]
  | either left right leftInduction rightInduction =>
      have leftTells := leftInduction isOver.1 fun name member =>
        tells name (List.mem_append_left _ member)
      have rightTells := rightInduction isOver.2 fun name member =>
        tells name (List.mem_append_right _ member)
      rw [evaluate, Bool.or_eq_true, leftTells, rightTells, Means]
  | every members group =>
      obtain rfl : members = _ := isOver
      simp only [evaluate, Means, List.all_eq_true, List.mem_filter, and_imp]
      exact forall₃_congr fun name member belongs =>
        tells name (List.mem_filter.mpr ⟨member, belongs⟩)
  | atLeast count members group =>
      obtain ⟨positive, rfl⟩ := isOver
      rw [evaluate, reaches_eq_true_iff positive, List.filter_filter, le_length_filter_iff, Means]
      refine exists_congr fun chosen => and_congr_right fun part => and_congr_right fun _ =>
        forall₂_congr fun name member => ?_
      rw [Bool.and_eq_true, and_comm]
      exact and_congr_right fun belongs =>
        tells name (List.mem_filter.mpr ⟨part.subset member, belongs⟩)

/-! ## What is asked for -/

theorem upTo_subset (stop : Bool) (holds : String → Bool) (names : List String) :
    upTo stop holds names ⊆ names := by
  induction names with
  | nil => exact List.Subset.refl _
  | cons name rest induction =>
      unfold upTo
      split
      · simp
      · exact List.cons_subset_cons name induction

theorem consultedFor_subset (holds : String → Bool) (needed : Nat) (names : List String) :
    consultedFor holds needed names ⊆ names := by
  induction names generalizing needed with
  | nil => exact List.Subset.refl _
  | cons name rest induction =>
      unfold consultedFor
      split
      · split
        · simp
        · exact List.cons_subset_cons name (induction _)
      · exact List.cons_subset_cons name (induction _)

theorem consulted_subset (holds : String → Bool) (condition : Condition) :
    condition.consulted holds ⊆ condition.names := by
  induction condition with
  | selection name => exact List.Subset.refl _
  | negation operand induction => exact induction
  | both left right leftInduction rightInduction =>
      refine List.append_subset.mpr
        ⟨List.subset_append_of_subset_left _ leftInduction, ?_⟩
      split
      · exact List.subset_append_of_subset_right _ rightInduction
      · exact List.nil_subset _
  | either left right leftInduction rightInduction =>
      refine List.append_subset.mpr
        ⟨List.subset_append_of_subset_left _ leftInduction, ?_⟩
      split
      · exact List.nil_subset _
      · exact List.subset_append_of_subset_right _ rightInduction
  | every members group => exact upTo_subset false holds members
  | atLeast count members group => exact consultedFor_subset holds count members

end ThreatWatch.Condition
