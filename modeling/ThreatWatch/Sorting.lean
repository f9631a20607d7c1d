/-! Sorting of lists by insertion. Items that may stand either way keep the order
in which they came, and every step is one comparison, so that sorting a list that
is already in order costs one comparison an item. -/

namespace ThreatWatch

variable {α : Type u}

def insertBy (before : α → α → Bool) (item : α) : List α → List α
  | [] => [item]
  | first :: rest =>
      if before item first then item :: first :: rest
      else first :: insertBy before item rest

def sortBy (before : α → α → Bool) : List α → List α
  | [] => []
  | item :: rest => insertBy before item (sortBy before rest)

/-- A relation that can order every list: of two items one may precede the other,
and what may precede a predecessor may precede the item itself. -/
structure IsOrdering (before : α → α → Bool) : Prop where
  total : ∀ left right, before left right = true ∨ before right left = true
  trans : ∀ first second third,
    before first second = true → before second third = true → before first third = true

theorem insertBy_perm (before : α → α → Bool) (item : α) (items : List α) :
    (insertBy before item items).Perm (item :: items) := by
  induction items with
  | nil => exact .refl _
  | cons first rest induction =>
      simp only [insertBy]
      split
      · exact .refl _
      · exact (induction.cons first).trans (.swap item first rest)

theorem sortBy_perm (before : α → α → Bool) (items : List α) :
    (sortBy before items).Perm items := by
  induction items with
  | nil => exact .refl _
  | cons item rest induction =>
      exact (insertBy_perm before item _).trans (induction.cons item)

theorem sortBy_eq_self {before : α → α → Bool} {items : List α}
    (inOrder : items.Pairwise fun left right => before left right = true) :
    sortBy before items = items := by
  induction items with
  | nil => rfl
  | cons item rest induction =>
      rcases List.pairwise_cons.mp inOrder with ⟨leads, restInOrder⟩
      rw [sortBy, induction restInOrder]
      cases rest with
      | nil => rfl
      | cons next others => simp [insertBy, leads next (by simp)]

theorem insertBy_map {β : Type v} {before : α → α → Bool} {other : β → β → Bool} {change : α → β}
    (same : ∀ left right, other (change left) (change right) = before left right) (item : α)
    (items : List α) :
    insertBy other (change item) (items.map change) = (insertBy before item items).map change := by
  induction items with
  | nil => rfl
  | cons first rest induction =>
      rw [List.map_cons, insertBy, insertBy, same]
      split
      · rfl
      · rw [induction, List.map_cons]

theorem sortBy_map {β : Type v} {before : α → α → Bool} {other : β → β → Bool} {change : α → β}
    (same : ∀ left right, other (change left) (change right) = before left right)
    (items : List α) : sortBy other (items.map change) = (sortBy before items).map change := by
  induction items with
  | nil => rfl
  | cons item rest induction => rw [List.map_cons, sortBy, induction, insertBy_map same, sortBy]

namespace IsOrdering

variable {before : α → α → Bool} (ordering : IsOrdering before)

include ordering

theorem pairwise_insertBy (item : α) {items : List α}
    (inOrder : items.Pairwise fun left right => before left right = true) :
    (insertBy before item items).Pairwise fun left right => before left right = true := by
  induction items with
  | nil => exact List.pairwise_singleton _ _
  | cons first rest induction =>
      rcases List.pairwise_cons.mp inOrder with ⟨leads, restInOrder⟩
      simp only [insertBy]
      split
      · next precedes =>
          refine List.pairwise_cons.mpr ⟨fun other member => ?_, inOrder⟩
          rcases List.mem_cons.mp member with rfl | member
          · exact precedes
          · exact ordering.trans _ _ _ precedes (leads other member)
      · next follows =>
          refine List.pairwise_cons.mpr ⟨fun other member => ?_, induction restInOrder⟩
          rcases List.mem_cons.mp ((insertBy_perm before item rest).mem_iff.mp member) with
            rfl | member
          · exact (ordering.total first other).resolve_right follows
          · exact leads other member

theorem pairwise_sortBy (items : List α) :
    (sortBy before items).Pairwise fun left right => before left right = true := by
  induction items with
  | nil => exact .nil
  | cons item rest induction => exact ordering.pairwise_insertBy item induction

theorem pairwise_insertBy_of_stable {related : α → α → Prop} (item : α) {items : List α}
    (inOrder : items.Pairwise fun left right =>
      before left right = true ∧ (before right left = true → related left right))
    (leads : ∀ other ∈ items, related item other) :
    (insertBy before item items).Pairwise fun left right =>
      before left right = true ∧ (before right left = true → related left right) := by
  induction items with
  | nil => exact List.pairwise_singleton _ _
  | cons first rest induction =>
      rcases List.pairwise_cons.mp inOrder with ⟨firstLeads, restInOrder⟩
      simp only [insertBy]
      split
      · next precedes =>
          refine List.pairwise_cons.mpr ⟨fun other member => ⟨?_, fun _ => leads other member⟩, inOrder⟩
          rcases List.mem_cons.mp member with rfl | member
          · exact precedes
          · exact ordering.trans _ _ _ precedes (firstLeads other member).1
      · next follows =>
          have restLeads : ∀ other ∈ rest, related item other :=
            fun other member => leads other (List.mem_cons_of_mem _ member)
          refine List.pairwise_cons.mpr ⟨fun other member => ?_, induction restInOrder restLeads⟩
          rcases List.mem_cons.mp ((insertBy_perm before item rest).mem_iff.mp member) with
            rfl | member
          · exact ⟨(ordering.total first other).resolve_right follows, fun back => absurd back follows⟩
          · exact firstLeads other member

theorem pairwise_sortBy_of_stable {related : α → α → Prop} {items : List α}
    (inOrder : items.Pairwise related) :
    (sortBy before items).Pairwise fun left right =>
      before left right = true ∧ (before right left = true → related left right) := by
  induction items with
  | nil => exact .nil
  | cons item rest induction =>
      rcases List.pairwise_cons.mp inOrder with ⟨leads, restInOrder⟩
      refine ordering.pairwise_insertBy_of_stable item (induction restInOrder) fun other member => ?_
      exact leads other ((sortBy_perm before rest).mem_iff.mp member)

theorem filter_insertBy (keeps : α → Bool) (item : α) {items : List α}
    (inOrder : items.Pairwise fun left right => before left right = true) :
    (insertBy before item items).filter keeps =
      if keeps item then insertBy before item (items.filter keeps) else items.filter keeps := by
  induction items with
  | nil => cases kept : keeps item <;> simp [insertBy, kept]
  | cons first rest induction =>
      rcases List.pairwise_cons.mp inOrder with ⟨leads, restInOrder⟩
      have later := induction restInOrder
      simp only [insertBy]
      split
      · next precedes =>
          cases kept : keeps item with
          | false => simp [kept]
          | true =>
              -- what is left of the list starts with an item that the new one may precede
              have leading : ∀ other ∈ (first :: rest).filter keeps,
                  before item other = true := by
                intro other member
                rcases List.mem_cons.mp (List.mem_filter.mp member).1 with rfl | member
                · exact precedes
                · exact ordering.trans _ _ _ precedes (leads other member)
              rw [List.filter_cons_of_pos kept, if_pos rfl]
              cases left : (first :: rest).filter keeps with
              | nil => rfl
              | cons next others =>
                  have precedesNext := leading next (by rw [left]; simp)
                  simp [insertBy, precedesNext]
      · next follows =>
          cases kept : keeps first <;> cases keptItem : keeps item <;>
            simp [kept, keptItem, insertBy, follows] at later ⊢ <;> exact later

theorem filter_sortBy (keeps : α → Bool) (items : List α) :
    (sortBy before items).filter keeps = sortBy before (items.filter keeps) := by
  induction items with
  | nil => rfl
  | cons item rest induction =>
      rw [sortBy, ordering.filter_insertBy keeps item (ordering.pairwise_sortBy rest), induction]
      cases kept : keeps item <;> simp [kept, sortBy]

end IsOrdering

example : sortBy (fun left right : Nat × Nat => left.1 ≤ right.1) [(2, 0), (1, 0), (2, 1), (1, 1)] =
    [(1, 0), (1, 1), (2, 0), (2, 1)] := by decide

end ThreatWatch
