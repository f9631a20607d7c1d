import ThreatWatch.Pattern.Letter

/-! Patterns in which a star stands for any characters and everything else for
itself, in either letter case. The whole text has to match, except that one line
break may follow. -/

namespace ThreatWatch.Pattern

inductive GlobItem where
  | star
  | letter (character : Char)
  deriving DecidableEq, Repr

abbrev Glob := List GlobItem

namespace Glob

def ofCharacters (characters : List Char) : Glob :=
  characters.map fun character => if character = '*' then .star else .letter character

def lettersAgree (expected actual : Char) : Bool :=
  pointsAgree expected.toNat actual.toNat

def atEnd (characters : List Char) : Bool :=
  characters == [] || characters == ['\n']

/-- Whether some remainder of the text, from all of it to nothing, passes. -/
def someRemainder (passes : List Char → Bool) : List Char → Bool
  | [] => passes []
  | character :: rest => passes (character :: rest) || someRemainder passes rest

def fits : Glob → List Char → Bool
  | [] => atEnd
  | .star :: items => someRemainder (fits items)
  | .letter expected :: items => fun characters =>
      match characters with
      | [] => false
      | actual :: rest => lettersAgree expected actual && fits items rest

theorem someRemainder_iff (passes : List Char → Bool) (characters : List Char) :
    someRemainder passes characters = true ↔
      ∃ skipped rest, characters = skipped ++ rest ∧ passes rest = true := by
  induction characters with
  | nil =>
      constructor
      · exact fun holds => ⟨[], [], rfl, holds⟩
      · rintro ⟨skipped, rest, split, holds⟩
        obtain ⟨rfl, rfl⟩ := List.append_eq_nil_iff.1 split.symm
        exact holds
  | cons character others induction =>
      simp only [someRemainder, Bool.or_eq_true, induction]
      constructor
      · rintro (holds | ⟨skipped, rest, split, holds⟩)
        · exact ⟨[], character :: others, rfl, holds⟩
        · exact ⟨character :: skipped, rest, by simp [split], holds⟩
      · rintro ⟨skipped, rest, split, holds⟩
        cases skipped with
        | nil => exact .inl (by simpa [split] using holds)
        | cons first skipped =>
            simp only [List.cons_append, List.cons.injEq] at split
            exact .inr ⟨skipped, rest, split.2, holds⟩

end Glob

end ThreatWatch.Pattern
