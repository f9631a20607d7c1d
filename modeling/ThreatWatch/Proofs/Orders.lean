import Mathlib.Data.List.Perm.Basic
import ThreatWatch.Proofs.Outcome

/-! Lists written in another order. A list is rearranged into another one where the
items of the two are related one for one, in some order; what a step makes of each item
is rearranged along with them. A search that ends early may fail in one order and
succeed in the other, but where it comes to an answer in both this is the same. -/

namespace ThreatWatch

/-- The items of the second list are related, one for one, to those of the first in some
order. -/
def Rearranged {α : Type u} {β : Type v} (related : α → β → Prop) (items : List α)
    (others : List β) : Prop :=
  ∃ ordered, items.Perm ordered ∧ List.Forall₂ related ordered others

namespace Rearranged

variable {α β : Type u} {γ δ : Type v} {related : α → β → Prop} {items : List α}
  {others : List β}

theorem of_perm {other : List α} (perm : items.Perm other) : Rearranged Eq items other :=
  ⟨other, perm, List.forall₂_refl other⟩

theorem refl {related : α → α → Prop} (reflexive : ∀ item, related item item) (items : List α) :
    Rearranged related items items :=
  ⟨items, .refl items, List.forall₂_same.mpr fun item _ => reflexive item⟩

theorem of_reverse (pairs : List.Forall₂ related items.reverse others) :
    Rearranged related items others :=
  ⟨items.reverse, (List.reverse_perm items).symm, pairs⟩

theorem isEmpty_eq (arranged : Rearranged related items others) :
    items.isEmpty = others.isEmpty := by
  rcases arranged with ⟨ordered, perm, pairs⟩
  rw [Bool.eq_iff_iff, List.isEmpty_iff_length_eq_zero, List.isEmpty_iff_length_eq_zero,
    perm.length_eq, pairs.length_eq]

theorem exists_left (arranged : Rearranged related items others) {item : α}
    (member : item ∈ items) : ∃ other ∈ others, related item other := by
  rcases arranged with ⟨ordered, perm, pairs⟩
  exact exists_of_forall₂_left pairs (perm.mem_iff.mp member)

theorem exists_right (arranged : Rearranged related items others) {other : β}
    (member : other ∈ others) : ∃ item ∈ items, related item other := by
  rcases arranged with ⟨ordered, perm, pairs⟩
  rcases exists_of_forall₂_right pairs member with ⟨item, itemMember, here⟩
  exact ⟨item, perm.mem_iff.mpr itemMember, here⟩

theorem map {first : α → γ} {second : β → δ} {made : γ → δ → Prop}
    (arranged : Rearranged related items others)
    (carries : ∀ item other, related item other → made (first item) (second other)) :
    Rearranged made (items.map first) (others.map second) := by
  rcases arranged with ⟨ordered, perm, pairs⟩
  refine ⟨ordered.map first, perm.map first, ?_⟩
  rw [List.forall₂_map_left_iff, List.forall₂_map_right_iff]
  exact pairs.imp fun item other => carries item other

theorem perm {other : List α} (arranged : Rearranged Eq items other) : items.Perm other := by
  rcases arranged with ⟨ordered, perm, pairs⟩
  rw [List.forall₂_eq_eq_eq] at pairs
  exact pairs ▸ perm

theorem filter {keeps : α → Bool} {keepsOther : β → Bool}
    (arranged : Rearranged related items others)
    (alike : ∀ item other, related item other → keeps item = keepsOther other) :
    Rearranged related (items.filter keeps) (others.filter keepsOther) := by
  rcases arranged with ⟨ordered, perm, pairs⟩
  refine ⟨ordered.filter keeps, perm.filter keeps, ?_⟩
  clear perm
  induction pairs with
  | nil => exact .nil
  | @cons item other _ _ here _ induction =>
      rw [List.filter_cons, List.filter_cons, ← alike item other here]
      split
      · exact .cons here induction
      · exact induction

/-- Steps that succeed for the items of one list succeed for the related items of the
other, and their results are rearranged in turn. -/
theorem mapM_eq_ok {α β γ δ : Type u} {related : α → β → Prop} {items : List α} {others : List β}
    {made : γ → δ → Prop} {step : α → Except ε γ} {otherStep : β → Except ε δ} {results : List γ}
    (arranged : Rearranged related items others) (steps : items.mapM step = .ok results)
    (carries : ∀ item other result, related item other → step item = .ok result →
      ∃ otherResult, otherStep other = .ok otherResult ∧ made result otherResult) :
    ∃ otherResults, others.mapM otherStep = .ok otherResults ∧
      Rearranged made results otherResults := by
  rcases arranged with ⟨ordered, perm, pairs⟩
  rcases List.perm_comp_forall₂ perm.symm (ThreatWatch.mapM_eq_ok_iff.mp steps) with
    ⟨reordered, inOrder, resultsPerm⟩
  have paired : ∃ otherResults, others.mapM otherStep = .ok otherResults ∧
      List.Forall₂ made reordered otherResults := by
    clear perm steps resultsPerm
    induction pairs generalizing reordered with
    | nil =>
        cases inOrder
        exact ⟨[], rfl, .nil⟩
    | @cons item other _ _ here _ induction =>
        cases inOrder with
        | @cons _ result _ _ stepped later =>
            rcases carries item other result here stepped with ⟨first, firstStep, isMade⟩
            rcases induction _ later with ⟨rest, restSteps, areMade⟩
            refine ⟨first :: rest, ?_, .cons isMade areMade⟩
            rw [mapM_eq_ok_iff] at restSteps ⊢
            exact .cons firstStep restSteps
  rcases paired with ⟨otherResults, otherSteps, areMade⟩
  exact ⟨otherResults, otherSteps, reordered, resultsPerm.symm, areMade⟩

end Rearranged

/-! ## Searches that end early -/

/-- Two outcomes that do not contradict each other: where both are answers, they are the
same one. -/
def Agree (first second : Except ε Bool) : Prop :=
  ∀ answer other, first = .ok answer → second = .ok other → answer = other

theorem Agree.refl (outcome : Except ε Bool) : Agree outcome outcome := by
  intro answer other first second
  rw [first] at second
  cases second
  rfl

def search (stop : Bool) : List (Except ε Bool) → Except ε Bool
  | [] => .ok (!stop)
  | outcome :: rest => do if (← outcome) = stop then return stop else search stop rest

section

variable {outcomes others : List (Except ε Bool)} {stop answer : Bool}

theorem exists_of_search (found : search stop outcomes = .ok stop) :
    ∃ outcome ∈ outcomes, outcome = .ok stop := by
  induction outcomes with
  | nil => cases stop <;> cases found
  | cons outcome rest induction =>
      rcases bind_eq_ok_iff.mp found with ⟨first, here, later⟩
      split at later
      · next stops => exact ⟨outcome, List.mem_cons_self, stops ▸ here⟩
      · rcases induction later with ⟨other, member, there⟩
        exact ⟨other, List.mem_cons_of_mem _ member, there⟩

theorem eq_ok_of_search (found : search stop outcomes = .ok answer) (different : answer ≠ stop) :
    ∀ outcome ∈ outcomes, outcome = .ok answer := by
  induction outcomes with
  | nil => simp
  | cons outcome rest induction =>
      rcases bind_eq_ok_iff.mp found with ⟨first, here, later⟩
      split at later
      · cases later
        exact absurd rfl different
      · next goesOn =>
          have same : first = answer :=
            (Bool.eq_not.mpr goesOn).trans (Bool.eq_not.mpr different).symm
          exact List.forall_mem_cons.mpr ⟨same ▸ here, induction later⟩

theorem search_map_ok (stop : Bool) (answers : List Bool) :
    search stop (answers.map .ok) =
      (.ok (if stop then answers.any id else answers.all id) : Except ε Bool) := by
  induction answers with
  | nil => cases stop <;> rfl
  | cons answer rest induction =>
      rw [List.map_cons, search, induction]
      cases stop <;> cases answer <;> rfl

theorem Rearranged.agree_search (arranged : Rearranged Agree outcomes others) (stop : Bool) :
    Agree (search stop outcomes) (search stop others) := by
  intro answer other first second
  by_cases stops : answer = stop
  · subst stops
    by_contra different
    rcases exists_of_search first with ⟨outcome, member, isStop⟩
    rcases arranged.exists_left member with ⟨partner, partnerMember, agree⟩
    have goesOn := eq_ok_of_search second (Ne.symm different) partner partnerMember
    exact different (agree _ _ isStop goesOn)
  · by_contra different
    have stopsThere : other = stop :=
      (Bool.eq_not.mpr (Ne.symm different)).trans (Bool.eq_not.mpr (Ne.symm stops)).symm
    subst stopsThere
    rcases exists_of_search second with ⟨partner, member, isStop⟩
    rcases arranged.exists_right member with ⟨outcome, outcomeMember, agree⟩
    have goesOn := eq_ok_of_search first stops outcome outcomeMember
    exact different (agree _ _ goesOn isStop)

end

end ThreatWatch
