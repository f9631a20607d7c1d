import Mathlib.Data.List.Lex
import Mathlib.Data.List.TakeWhile
import Mathlib.Order.Lattice
import ThreatWatch.Sorting
import ThreatWatch.Text.Basic

/-! Texts in order and texts made of parts. Texts are ordered by their code points, and so is
whatever has a text for its name. A text that joins parts with a separator tells these parts
where none of them is empty or has the separator. -/

namespace ThreatWatch

namespace IsOrdering

variable {α β : Type}

theorem comap {before : β → β → Bool} (ordering : IsOrdering before) (key : α → β) :
    IsOrdering fun left right => before (key left) (key right) where
  total left right := ordering.total (key left) (key right)
  trans first second third := ordering.trans (key first) (key second) (key third)

end IsOrdering

namespace Text

/-! ## Order -/

def codes (text : String) : List Nat :=
  text.toList.map Char.toNat

theorem precedes_iff {left right : String} :
    precedes left right = true ↔ codes left < codes right := by
  simp [precedes, codes]

theorem codes_inj {left right : String} : codes left = codes right ↔ left = right := by
  have injective : Function.Injective (List.map Char.toNat) :=
    List.map_injective_iff.mpr fun _ _ same => Char.toNat_inj.mp same
  rw [codes, codes, injective.eq_iff, String.toList_inj]

theorem notAfter_isOrdering : IsOrdering fun left right => !precedes right left where
  total left right := by
    simp only [Bool.not_eq_true', ← Bool.not_eq_true, precedes_iff, not_lt]
    exact le_total _ _
  trans first second third := by
    simp only [Bool.not_eq_true', ← Bool.not_eq_true, precedes_iff, not_lt]
    exact le_trans

theorem precedes_of_notAfter {left right : String} (inOrder : (!precedes right left) = true)
    (different : left ≠ right) : precedes left right = true := by
  simp only [Bool.not_eq_true', ← Bool.not_eq_true, precedes_iff, not_lt] at inOrder ⊢
  exact lt_of_le_of_ne inOrder (mt codes_inj.mp different)

theorem sortBy_eq_of_perm {left right : List String} (perm : left.Perm right) :
    sortBy (fun left right => !precedes right left) left =
      sortBy (fun left right => !precedes right left) right := by
  refine List.Perm.eq_of_pairwise (fun first second _ _ before after => ?_)
    (notAfter_isOrdering.pairwise_sortBy left) (notAfter_isOrdering.pairwise_sortBy right)
    (((sortBy_perm _ left).trans perm).trans (sortBy_perm _ right).symm)
  simp only [Bool.not_eq_true', ← Bool.not_eq_true, precedes_iff, not_lt] at before after
  exact codes_inj.mp (le_antisymm before after)

end Text

theorem IsOrdering.ofNumberAndName {α κ : Type} [LinearOrder κ] {before : α → α → Bool}
    (number : α → κ) (name : α → String)
    (tells : ∀ {left right}, before left right = true ↔ number right < number left ∨
      number left = number right ∧ Text.codes (name left) ≤ Text.codes (name right)) :
    IsOrdering before where
  total left right := by
    rw [tells, tells]
    rcases lt_trichotomy (number left) (number right) with less | same | greater
    · exact .inr (.inl less)
    · rcases le_total (Text.codes (name left)) (Text.codes (name right)) with first | first
      · exact .inl (.inr ⟨same, first⟩)
      · exact .inr (.inr ⟨same.symm, first⟩)
    · exact .inl (.inl greater)
  trans first second third := by
    rw [tells, tells, tells]
    rintro (greater | ⟨same, names⟩) (greaterStill | ⟨sameStill, namesStill⟩)
    · exact .inl (greaterStill.trans greater)
    · exact .inl (sameStill ▸ greater)
    · exact .inl (same ▸ greaterStill)
    · exact .inr ⟨same.trans sameStill, names.trans namesStill⟩

namespace Text

/-! ## Texts without blanks -/

theorem dropWhile_isBlank {characters : List Char} (solid : ∀ character ∈ characters,
    isBlank character = false) : characters.dropWhile isBlank = characters := by
  refine List.dropWhile_eq_self_iff.mpr fun filled blank => ?_
  rw [solid _ (List.getElem_mem filled)] at blank
  cases blank

theorem trimCharacters_of_solid {characters : List Char} (solid : ∀ character ∈ characters,
    isBlank character = false) : trimCharacters characters = characters := by
  rw [trimCharacters, dropWhile_isBlank solid, trimEnd,
    dropWhile_isBlank fun character member => solid character (List.mem_reverse.mp member),
    List.reverse_reverse]

theorem trim_ofList {characters : List Char} (solid : ∀ character ∈ characters,
    isBlank character = false) : trim (String.ofList characters) = String.ofList characters := by
  rw [trim, String.toList_ofList, trimCharacters_of_solid solid]

/-! ## Joined texts -/

theorem pieces_append_separator (separator : Char) (before after : List Char) :
    pieces separator (before ++ separator :: after) =
      pieces separator before ++ pieces separator after := by
  induction before with
  | nil => simp [pieces]
  | cons first rest induction =>
      rw [List.cons_append, pieces, pieces, induction]
      split
      · rfl
      · cases found : pieces separator rest with
        | nil => exact absurd found (pieces_ne_nil _ _)
        | cons piece others => rfl

theorem join_inj {separator : Char} {left right : List String}
    (leftParts : ∀ part ∈ left, part ≠ "" ∧ separator ∉ part.toList)
    (rightParts : ∀ part ∈ right, part ≠ "" ∧ separator ∉ part.toList)
    (same : join (String.singleton separator) left = join (String.singleton separator) right) :
    left = right := by
  have cut {parts : List String} (told : ∀ part ∈ parts, part ≠ "" ∧ separator ∉ part.toList) :
      (pieces separator (join (String.singleton separator) parts).toList).filter (· ≠ []) =
        parts.map String.toList := by
    cases parts with
    | nil => rfl
    | cons part others =>
        have filled : ∀ piece ∈ (part :: others).map String.toList, piece ≠ [] := by
          refine List.forall_mem_map.mpr fun part member => ?_
          simpa using (told part member).1
        rw [join, String.toList_intercalate, String.toList_singleton, pieces_intercalate (by simp)
          (List.forall_mem_map.mpr fun part member => (told part member).2)]
        simpa using filled
  have injective : Function.Injective (List.map String.toList) :=
    List.map_injective_iff.mpr fun _ _ equal => String.toList_inj.mp equal
  apply injective
  rw [← cut leftParts, ← cut rightParts, same]

end Text

end ThreatWatch
