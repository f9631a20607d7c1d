import ThreatWatch.Proofs.Placements
import ThreatWatch.Proofs.Rearranging

/-! Placements written with stars. A star at one side of a text, or at both, leaves open what
stands there, as an operator that asks for a placement does. With characters of the first half
of the octets a criterion finds the same in either way of writing it: the star goes through the
fitting of globs, the operator through the lower case of whole texts, and both come to a part
of the value with the same letters at the place. -/

namespace ThreatWatch

/-! ## Texts -/

namespace Text

variable {agrees : Char → Char → Prop} {piece content : List Char}

theorem spells_pair_nil_iff :
    Spells agrees [piece, []] content ↔
      ∃ written after, content = written ++ after ∧ List.Forall₂ agrees piece written := by
  constructor
  · intro spells
    cases spells with
    | @gap _ written skipped rest _ same later =>
        cases spells_single_iff.mp later
        exact ⟨written, skipped, List.append_nil _, same⟩
  · rintro ⟨written, after, rfl, same⟩
    have whole : Spells agrees [piece, []] (written ++ after ++ []) := .gap same (.last .nil)
    rwa [List.append_nil] at whole

theorem lowerForm_of_ascii {character : Char} (ascii : character.toNat < 128)
    (before after : List Char) : lowerForm before character after = [character.toLower] := by
  have notSigma : character ≠ 'Σ' := by
    rintro rfl
    exact absurd ascii (by decide)
  have notDotted : character ≠ 'İ' := by
    rintro rfl
    exact absurd ascii (by decide)
  have simple : simpleLower character = character.toLower := by
    change Char.ofNat (Pattern.lowerPoint character.toNat) = _
    rw [Pattern.lowerPoint_of_ascii _ ascii, Char.ofNat_toNat, Char.ofNat_toNat]
  rw [lowerForm, if_neg notSigma, if_neg notDotted, simple]

theorem lowerAfter_of_ascii {characters : List Char}
    (ascii : ∀ character ∈ characters, character.toNat < 128) (before : List Char) :
    lowerAfter before characters = characters.map Char.toLower := by
  induction characters generalizing before with
  | nil => rfl
  | cons character rest induction =>
      obtain ⟨here, later⟩ := List.forall_mem_cons.mp ascii
      rw [lowerAfter, lowerForm_of_ascii here, induction later, List.map_cons,
        List.singleton_append]

theorem IsAscii.lowerCharacters_eq {text : String} (ascii : IsAscii text) :
    lowerCharacters text.toList = text.toList.map Char.toLower :=
  lowerAfter_of_ascii ascii []

end Text

/-! ## Places -/

namespace Placement

def starred (text : String) : Placement → String
  | .anywhere => "*" ++ text ++ "*"
  | .atStart => text ++ "*"
  | .atEnd => "*" ++ text

def finds (text actual : String) (placement : Placement) : Bool :=
  placement.holds (text.toList.map Char.toLower) (actual.toList.map Char.toLower)

variable {placement : Placement} {text actual : String} {content : List Char}

theorem allows_map {before after : List Char} (change : Char → Char) :
    placement.Allows (before.map change) (after.map change) ↔ placement.Allows before after := by
  cases placement with
  | anywhere => exact .rfl
  | atStart => exact List.map_eq_nil_iff
  | atEnd => exact List.map_eq_nil_iff

theorem finds_iff :
    placement.finds text actual = true ↔
      ∃ before part after, actual.toList = before ++ part ++ after ∧
        placement.Allows before after ∧ List.Forall₂ Text.SameLetter text.toList part := by
  have sameLetters (part : List Char) : List.Forall₂ Text.SameLetter text.toList part ↔
      text.toList.map Char.toLower = part.map Char.toLower := by
    rw [← List.forall₂_eq_eq_eq, List.forall₂_map_left_iff, List.forall₂_map_right_iff]
    rfl
  rw [finds, holds_iff]
  constructor
  · rintro ⟨lowerBefore, lowerAfter, lowered, allowed⟩
    obtain ⟨start, after, split, starts, rfl⟩ := List.map_eq_append_iff.mp lowered
    obtain ⟨before, part, rfl, rfl, written⟩ := List.map_eq_append_iff.mp starts
    exact ⟨before, part, after, split, (allows_map _).mp allowed,
      (sameLetters part).mpr written.symm⟩
  · rintro ⟨before, part, after, split, allowed, same⟩
    refine ⟨before.map Char.toLower, after.map Char.toLower, ?_, (allows_map _).mpr allowed⟩
    rw [split, (sameLetters part).mp same, List.map_append, List.map_append]

theorem star_mem_starred : '*' ∈ (placement.starred text).toList := by
  cases placement <;> simp [starred]

theorem isAscii_starred (ascii : Text.IsAscii text) : Text.IsAscii (placement.starred text) := by
  intro character member
  have among : character = '*' ∨ character ∈ text.toList := by
    cases placement <;> simp [starred] at member <;> tauto
  cases among with
  | inl star => rw [star]; decide
  | inr own => exact ascii character own

def pieces (characters : List Char) : Placement → List (List Char)
  | .anywhere => [[], characters, []]
  | .atStart => [characters, []]
  | .atEnd => [[], characters]

theorem pieces_starred (plain : '*' ∉ text.toList) :
    Text.pieces '*' (placement.starred text).toList = placement.pieces text.toList := by
  have whole := Text.pieces_of_not_mem plain
  have followed := Text.pieces_append_separator '*' text.toList []
  rw [whole, Text.pieces, List.singleton_append] at followed
  cases placement with
  | anywhere => simp [starred, pieces, Text.pieces, followed]
  | atStart => simp [starred, pieces, followed]
  | atEnd => simp [starred, pieces, Text.pieces, whole]

theorem spells_pieces_iff {agrees : Char → Char → Prop} {characters content : List Char} :
    Text.Spells agrees (placement.pieces characters) content ↔
      ∃ before part after, content = before ++ part ++ after ∧ placement.Allows before after ∧
        List.Forall₂ agrees characters part := by
  cases placement with
  | anywhere =>
      rw [pieces, Text.spells_nil_cons_iff (List.cons_ne_nil _ _)]
      simp only [Text.spells_pair_nil_iff]
      constructor
      · rintro ⟨before, rest, rfl, part, after, rfl, same⟩
        exact ⟨before, part, after, (List.append_assoc _ _ _).symm, trivial, same⟩
      · rintro ⟨before, part, after, rfl, _, same⟩
        exact ⟨before, part ++ after, List.append_assoc _ _ _, part, after, rfl, same⟩
  | atStart =>
      rw [pieces, Text.spells_pair_nil_iff]
      constructor
      · rintro ⟨part, after, rfl, same⟩
        exact ⟨[], part, after, rfl, rfl, same⟩
      · rintro ⟨before, part, after, rfl, rfl, same⟩
        exact ⟨part, after, rfl, same⟩
  | atEnd =>
      rw [pieces, Text.spells_nil_cons_iff (List.cons_ne_nil _ _)]
      simp only [Text.spells_single_iff]
      constructor
      · rintro ⟨before, part, rfl, same⟩
        exact ⟨before, part, [], (List.append_nil _).symm, rfl, same⟩
      · rintro ⟨before, part, after, rfl, rfl, same⟩
        exact ⟨before, part, List.append_nil _, same⟩

theorem fits_starred (ascii : Text.IsAscii text) (plain : '*' ∉ text.toList)
    (actualAscii : Text.IsAscii actual)
    (ended : placement = .atEnd → actual.toList.getLast? ≠ some '\n') :
    (Pattern.Glob.ofCharacters (placement.starred text).toList).fits actual.toList =
      placement.finds text actual := by
  have starredAscii : Text.IsAscii (placement.starred text) := isAscii_starred ascii
  have accepted := Pattern.Glob.fits_ofCharacters_iff fun letter member other among =>
    Pattern.lettersAgree_iff_of_ascii (starredAscii letter member) (actualAscii other among)
  have apart : actual.toList.getLast? ≠ some '\n' ∨
      1 < (placement.pieces text.toList).length ∧
        (placement.pieces text.toList).getLast? = some [] := by
    cases placement with
    | anywhere | atStart => exact .inr ⟨by simp [pieces], rfl⟩
    | atEnd => exact .inl (ended rfl)
  rw [Bool.eq_iff_iff, accepted, pieces_starred plain, Text.spellsLine_iff_spells apart,
    spells_pieces_iff, finds_iff]
  rfl

end Placement

/-! ## Criteria -/

namespace Criterion

open Text (IsAscii)

def outcomes (criterion : Criterion) (actual : Value) : List (Except Fault Bool) :=
  criterion.tests.map fun test => test.2.passes actual

def verdict (requireAll : Bool) (answers : List Bool) : Bool :=
  if requireAll then !answers.isEmpty && answers.all id else answers.any id

theorem passes_of_outcomes {criterion : Criterion} {actual : Value} {answers : List Bool}
    (present : actual.isNull = false) (told : criterion.outcomes actual = answers.map .ok) :
    criterion.passes actual = .ok (verdict criterion.requireAll answers) := by
  have sizes := congrArg List.isEmpty told
  rw [outcomes, List.isEmpty_map, List.isEmpty_map] at sizes
  unfold outcomes at told
  rw [passes, present, sizes, anyPasses_eq_search, allPass_eq_search, told, search_map_ok,
    search_map_ok, verdict]
  cases answers with
  | nil => cases criterion.requireAll <;> rfl
  | cons answer rest => cases criterion.requireAll <;> rfl

/-- Of each text the criterion tells whether it is found in a value, and of all of them together
whether one is found, or each where that is required. -/
structure Finds (criterion : Criterion) (requireAll : Bool) (placement : Placement)
    (texts : List String) (actual : String) : Prop where
  each : criterion.outcomes (.text actual) =
    (texts.map fun text => placement.finds text actual).map .ok
  together : criterion.passes (.text actual) =
    .ok (verdict requireAll (texts.map fun text => placement.finds text actual))

variable {field : String} {requireAll : Bool} {starKey placeKey starValue placeValue : Value}
  {placement : Placement} {texts : List String}

theorem finds_of_tests {criterion : Criterion} {test : String → ValueTest}
    {written : String → Value} {actual : String}
    (all : criterion.requireAll = requireAll)
    (made : criterion.tests = texts.map fun text => (written text, test text))
    (told : ∀ text ∈ texts,
      (test text).passes (.text actual) = .ok (placement.finds text actual)) :
    criterion.Finds requireAll placement texts actual := by
  have each : criterion.outcomes (.text actual) =
      (texts.map fun text => placement.finds text actual).map .ok := by
    rw [outcomes, made, List.map_map, List.map_map]
    exact List.map_congr_left told
  exact ⟨each, all ▸ passes_of_outcomes rfl each⟩

/-- Stars around texts ask for the same as the operator for their place. Both criteria are made,
and find the same of every text and of all of them together. At the end a starred text may have
a line break behind it, so that a value which ends in one is left out there. -/
theorem stars_agree_with_placements
    (byStars : IsKeyOf field .equals requireAll starKey)
    (byPlace : IsKeyOf field placement.operator requireAll placeKey)
    (starListed : expectedValues starValue = (texts.map placement.starred).map .text)
    (placeListed : expectedValues placeValue = texts.map .text)
    (ascii : ∀ text ∈ texts, IsAscii text) (plain : ∀ text ∈ texts, '*' ∉ text.toList) :
    ∃ starred placed, compile starKey starValue = .ok starred ∧
      compile placeKey placeValue = .ok placed ∧ starred.field = field ∧ placed.field = field ∧
      ∀ actual, IsAscii actual →
        (placement = .atEnd → actual.toList.getLast? ≠ some '\n') →
          starred.outcomes (.text actual) = placed.outcomes (.text actual) ∧
            starred.passes (.text actual) = placed.passes (.text actual) ∧
            placed.Finds requireAll placement texts actual := by
  have starPrepared : ∀ text ∈ texts.map placement.starred, ∀ shownKey,
      prepare .equals shownKey (.text text) =
        .ok (.glob (Pattern.Glob.ofCharacters text.toList)) := by
    intro text member shownKey
    obtain ⟨inner, _, rfl⟩ := List.mem_map.mp member
    exact prepare_of_star Placement.star_mem_starred shownKey
  obtain ⟨starred, starCompiled, starField, starAll, starTests⟩ :=
    exists_compile_of_texts byStars starListed starPrepared
  obtain ⟨placed, placeCompiled, placeField, placeAll, placeTests⟩ :=
    exists_compile_of_texts byPlace placeListed fun text _ shownKey =>
      prepare_placement placement shownKey (.text text)
  refine ⟨starred, placed, starCompiled, placeCompiled, starField, placeField, ?_⟩
  intro actual actualAscii ended
  rw [List.map_map] at starTests
  have starFinds : starred.Finds requireAll placement texts actual := by
    refine finds_of_tests starAll starTests fun text member => congrArg Except.ok ?_
    exact Placement.fits_starred (ascii text member) (plain text member) actualAscii ended
  have placeFinds : placed.Finds requireAll placement texts actual := by
    refine finds_of_tests placeAll placeTests fun text member => congrArg Except.ok ?_
    rw [Placement.finds, ← (ascii text member).lowerCharacters_eq, ← actualAscii.lowerCharacters_eq]
  refine ⟨?_, ?_, placeFinds⟩
  · rw [starFinds.each, placeFinds.each]
  · rw [starFinds.together, placeFinds.together]

/-- Marks of expressions stand for themselves both ways, and an empty text stands at the start of
every value. -/
theorem marks_are_found_both_ways :
    IsKeyOf "image" .equals true (.text "image|all") ∧
      IsKeyOf "image" (Placement.operator .atStart) true (.text "image|startswith|all") ∧
      (∀ text ∈ ["a.(b", ""], IsAscii text) ∧ (∀ text ∈ ["a.(b", ""], '*' ∉ text.toList) ∧
      ∃ starred placed,
        compile (.text "image|all") (.list [.text "a.(b*", .text "*"]) = .ok starred ∧
        compile (.text "image|startswith|all") (.list [.text "a.(b", .text ""]) = .ok placed ∧
        starred.passes (.text "A.(B\n") = .ok true ∧ placed.passes (.text "A.(B\n") = .ok true := by
  have byStars : IsKeyOf "image" .equals true (.text "image|all") :=
    ⟨"image|all", _, rfl, rfl, by decide +kernel, by decide +kernel⟩
  have byPlace : IsKeyOf "image" (Placement.operator .atStart) true
      (.text "image|startswith|all") :=
    ⟨"image|startswith|all", _, rfl, rfl, by decide +kernel, by decide +kernel⟩
  have starListed : expectedValues (.list [.text "a.(b*", .text "*"]) =
      (["a.(b", ""].map (Placement.starred · .atStart)).map .text := by
    simp [expectedValues, Value.items?, Placement.starred]
  have placeListed : expectedValues (.list [.text "a.(b", .text ""]) =
      ["a.(b", ""].map .text := rfl
  have ascii : ∀ text ∈ ["a.(b", ""], IsAscii text := by decide
  have plain : ∀ text ∈ ["a.(b", ""], '*' ∉ text.toList := by decide
  obtain ⟨starred, placed, starCompiled, placeCompiled, _, _, agree⟩ :=
    stars_agree_with_placements byStars byPlace starListed placeListed ascii plain
  obtain ⟨_, together, finds⟩ := agree "A.(B\n" (by decide) (fun atEnd => by cases atEnd)
  have found : verdict true (["a.(b", ""].map fun text => Placement.atStart.finds text "A.(B\n") =
      true := by
    decide +kernel
  have passes : placed.passes (.text "A.(B\n") = .ok true := by rw [finds.together, found]
  exact ⟨byStars, byPlace, ascii, plain, starred, placed, starCompiled, placeCompiled,
    together.trans passes, passes⟩

end Criterion

end ThreatWatch
