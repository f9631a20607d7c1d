import ThreatWatch.Text.Blank

/-! Cutting and searching texts. The operations are stated on lists of
characters, where they recurse; the forms on strings only convert. -/

namespace ThreatWatch.Text

def trimEnd (characters : List Char) : List Char :=
  (characters.reverse.dropWhile isBlank).reverse

def trimCharacters (characters : List Char) : List Char :=
  trimEnd (characters.dropWhile isBlank)

def trim (text : String) : String :=
  String.ofList (trimCharacters text.toList)

def isBlankText (text : String) : Bool :=
  text.toList.all isBlank

/-- The pieces between the occurrences of a separator; there is always one
piece more than there are separators. -/
def pieces (separator : Char) : List Char → List (List Char)
  | [] => [[]]
  | character :: rest =>
      if character = separator then [] :: pieces separator rest
      else
        match pieces separator rest with
        | [] => [[character]]
        | first :: others => (character :: first) :: others

theorem pieces_ne_nil (separator : Char) (characters : List Char) :
    pieces separator characters ≠ [] := by
  cases characters with
  | nil => simp [pieces]
  | cons character rest =>
      simp only [pieces]
      split
      · simp
      · split <;> simp

theorem intercalate_pieces (separator : Char) (characters : List Char) :
    [separator].intercalate (pieces separator characters) = characters := by
  induction characters with
  | nil => rfl
  | cons character rest induction =>
      simp only [pieces]
      split
      · next equal =>
        subst equal
        cases found : pieces character rest with
        | nil => exact absurd found (pieces_ne_nil _ _)
        | cons first others =>
            rw [found] at induction
            simpa [List.intercalate] using induction
      · cases found : pieces separator rest with
        | nil => exact absurd found (pieces_ne_nil _ _)
        | cons first others =>
            rw [found] at induction
            cases others with
            | nil => simpa [List.intercalate] using induction
            | cons second others => simpa [List.intercalate] using induction

theorem not_mem_of_mem_pieces {separator : Char} {characters piece : List Char}
    (member : piece ∈ pieces separator characters) : separator ∉ piece := by
  induction characters generalizing piece with
  | nil => simp_all [pieces]
  | cons character rest induction =>
      simp only [pieces] at member
      split at member
      · rcases List.mem_cons.mp member with rfl | later
        · exact List.not_mem_nil
        · exact induction later
      · next different =>
          split at member
          · next missing => exact absurd missing (pieces_ne_nil _ _)
          · next first others found =>
              rcases List.mem_cons.mp member with rfl | later
              · have apart := induction (found ▸ List.mem_cons_self)
                simp [apart, Ne.symm different]
              · exact induction (found ▸ List.mem_cons_of_mem _ later)

theorem pieces_append {separator : Char} {piece : List Char} (absent : separator ∉ piece)
    (rest : List Char) :
    pieces separator (piece ++ separator :: rest) = piece :: pieces separator rest := by
  induction piece with
  | nil => simp [pieces]
  | cons character others induction =>
      have different : character ≠ separator := fun equal => absent (by simp [equal])
      have othersAbsent : separator ∉ others := fun member => absent (by simp [member])
      rw [List.cons_append, pieces, if_neg different, induction othersAbsent]

theorem pieces_of_not_mem {separator : Char} {characters : List Char}
    (absent : separator ∉ characters) : pieces separator characters = [characters] := by
  induction characters with
  | nil => rfl
  | cons character rest induction =>
      rw [List.mem_cons, not_or] at absent
      rw [pieces, if_neg (Ne.symm absent.1), induction absent.2]

theorem pieces_intercalate {separator : Char} {parts : List (List Char)} (some : parts ≠ [])
    (absent : ∀ part ∈ parts, separator ∉ part) :
    pieces separator ([separator].intercalate parts) = parts := by
  induction parts with
  | nil => exact absurd rfl some
  | cons part rest induction =>
      rcases List.forall_mem_cons.mp absent with ⟨here, later⟩
      cases rest with
      | nil => rw [List.intercalate_singleton, pieces_of_not_mem here]
      | cons next others =>
          rw [List.intercalate_cons_cons, List.append_assoc, List.singleton_append,
            pieces_append here, induction (by simp) later]

def splitOn (separator : Char) (text : String) : List String :=
  (pieces separator text.toList).map String.ofList

def join (separator : String) (parts : List String) : String :=
  separator.intercalate parts

def startsWith (start : List Char) (whole : List Char) : Bool :=
  start.isPrefixOf whole

def endsWith (ending : List Char) (whole : List Char) : Bool :=
  ending.isSuffixOf whole

def occursIn (part : List Char) : List Char → Bool
  | [] => part.isEmpty
  | whole@(_ :: rest) => part.isPrefixOf whole || occursIn part rest

theorem occursIn_iff (part whole : List Char) : occursIn part whole = true ↔ part <:+: whole := by
  induction whole with
  | nil => simp [occursIn]
  | cons character rest induction =>
      simp [occursIn, induction, List.infix_cons_iff]

def precedes (left right : String) : Bool :=
  decide (left.toList.map Char.toNat < right.toList.map Char.toNat)

example : trim " a b " = "a b" := by decide
example : splitOn '|' "a|b|" = ["a", "b", ""] := by decide

end ThreatWatch.Text
