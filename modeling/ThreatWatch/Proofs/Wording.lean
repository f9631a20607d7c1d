import ThreatWatch.Proofs.Derivations
import ThreatWatch.Proofs.Tokens

/-! Conditions as they are worded. A condition is put into words with those parentheses
alone that the binding of its parts requires, its keywords in any letter case, and read
back from every text that lays the words out. -/

namespace ThreatWatch.Condition

/-! ## Keywords -/

def IsSpelling (keyword : Keyword) (token : String) : Prop :=
  List.Forall₂ (fun letter character => character = letter ∨ character = letter.toUpper)
    keyword.name.toList token.toList

def keywordLetters : List Char :=
  ['a', 'n', 'd', 'o', 'r', 't', 'f', 'l', 'h', 'e', 'm']

theorem mem_keywordLetters (keyword : Keyword) :
    ∀ letter ∈ keyword.name.toList, letter ∈ keywordLetters := by
  have listed : (keyword.name.toList.all keywordLetters.contains) = true := by
    cases keyword <;> decide
  exact fun letter member => List.contains_iff_mem.mp (List.all_eq_true.mp listed letter member)

theorem simpleLower_spelled : ∀ letter ∈ keywordLetters,
    ∀ character ∈ [letter, letter.toUpper],
      Text.simpleLower character = letter ∧ character ≠ 'Σ' ∧ character ≠ 'İ' := by
  have each : (keywordLetters.all fun letter => [letter, letter.toUpper].all fun character =>
      decide (Text.simpleLower character = letter ∧ character ≠ 'Σ' ∧ character ≠ 'İ')) = true := by
    decide
  intro letter isLetter character spelled
  have ofLetter := List.all_eq_true.mp each letter isLetter
  exact of_decide_eq_true (List.all_eq_true.mp ofLetter character spelled)

theorem lowerForm_spelled {letter character : Char} (isLetter : letter ∈ keywordLetters)
    (spelled : character = letter ∨ character = letter.toUpper) (before after : List Char) :
    Text.lowerForm before character after = [letter] := by
  have found := simpleLower_spelled letter isLetter character (by simpa using spelled)
  rw [Text.lowerForm, if_neg found.2.1, if_neg found.2.2, found.1]

theorem lowerAfter_spelled {letters characters : List Char}
    (spelled : List.Forall₂ (fun letter character =>
      character = letter ∨ character = letter.toUpper) letters characters)
    (areLetters : ∀ letter ∈ letters, letter ∈ keywordLetters) (before : List Char) :
    Text.lowerAfter before characters = letters := by
  induction spelled generalizing before with
  | nil => rfl
  | cons here _ induction =>
      rcases List.forall_mem_cons.mp areLetters with ⟨isLetter, others⟩
      rw [Text.lowerAfter, lowerForm_spelled isLetter here, induction others,
        List.singleton_append]

theorem IsSpelling.keyword?_eq_some {keyword : Keyword} {token : String}
    (spelling : IsSpelling keyword token) : keyword? token = some keyword := by
  rw [keyword?_eq_some_iff, Text.lower, Text.lowerCharacters,
    lowerAfter_spelled spelling (mem_keywordLetters keyword), String.ofList_toList]

/-! ## Words for conditions -/

def Rank.tightness : Rank → Nat
  | .disjunction => 0
  | .conjunction => 1
  | .negation => 2
  | .atom => 3

def rank : Condition → Rank
  | .either _ _ => .disjunction
  | .both _ _ => .conjunction
  | .negation _ => .negation
  | .selection _ | .every _ _ | .atLeast _ _ _ => .atom

/-- The words for a condition at a place that asks for a rank. A condition that binds
looser than that stands in parentheses, and no other does. -/
inductive Worded : Rank → Condition → List String → Prop where
  | parentheses {place : Rank} {condition : Condition} {tokens : List String}
      (looser : condition.rank.tightness < place.tightness)
      (inside : Worded .disjunction condition tokens) :
      Worded place condition ("(" :: tokens ++ [")"])
  | either {place : Rank} {joint : String} {left right : Condition} {first last : List String}
      (fits : place.tightness ≤ Rank.disjunction.tightness) (joins : IsSpelling .disjunction joint)
      (before : Worded .disjunction left first) (after : Worded .conjunction right last) :
      Worded place (.either left right) (first ++ joint :: last)
  | both {place : Rank} {joint : String} {left right : Condition} {first last : List String}
      (fits : place.tightness ≤ Rank.conjunction.tightness) (joins : IsSpelling .conjunction joint)
      (before : Worded .conjunction left first) (after : Worded .negation right last) :
      Worded place (.both left right) (first ++ joint :: last)
  | negation {place : Rank} {token : String} {operand : Condition} {tokens : List String}
      (fits : place.tightness ≤ Rank.negation.tightness) (negates : IsSpelling .negation token)
      (after : Worded .negation operand tokens) :
      Worded place (.negation operand) (token :: tokens)
  | selection {place : Rank} (name : String) : Worded place (.selection name) [name]
  | every {place : Rank} {token joint : String} (members : List String) (group : String)
      (all : IsSpelling .every token) (joins : IsSpelling .quantifier joint) :
      Worded place (.every members group) [token, joint, group]
  | atLeast {place : Rank} {token joint : String} {count : Nat} (members : List String)
      (group : String) (writes : Writes token count) (joins : IsSpelling .quantifier joint) :
      Worded place (.atLeast count members group) [token, joint, group]

/-- A name that needs no care: a word without a star that is neither keyword nor count. -/
structure IsPlainName (name : String) : Prop where
  nonempty : name.toList ≠ []
  ofWord : ∀ character ∈ name.toList, isOfWord character = true
  noStar : '*' ∉ name.toList
  noKeyword : keyword? name = none
  noCount : isCount name = false

/-- A condition over some names whose quantifiers hold what their groups stand for, if
that is anything, and count from one. -/
def IsExpanded (names : List String) : Condition → Prop
  | .selection name => name ∈ names
  | .negation operand => operand.IsExpanded names
  | .both left right => left.IsExpanded names ∧ right.IsExpanded names
  | .either left right => left.IsExpanded names ∧ right.IsExpanded names
  | .every members group => expandGroup group names = .ok members ∧ members ≠ []
  | .atLeast count members group =>
      1 ≤ count ∧ expandGroup group names = .ok members ∧ members ≠ []

/-! ## Reading the words -/

theorem IsPlainName.isName {name : String} (plain : IsPlainName name) : IsName name where
  noKeyword := plain.noKeyword
  noCount := plain.noCount
  noStar := plain.noStar
  noOpening := by
    rintro rfl
    exact absurd (plain.ofWord '(' (by decide)) (by decide)
  noClosing := by
    rintro rfl
    exact absurd (plain.ofWord ')' (by decide)) (by decide)

section

variable {names : List String}

theorem Derives.loosen {place found : Rank} {tokens : List String} {condition : Condition}
    (fits : place.tightness ≤ found.tightness) (derives : Derives names found tokens condition) :
    Derives names place tokens condition := by
  cases place with
  | disjunction =>
      cases found with
      | disjunction => exact derives
      | conjunction => exact .conjunction derives
      | negation => exact .conjunction (.negation derives)
      | atom => exact .conjunction (.negation (.atom derives))
  | conjunction =>
      cases found with
      | disjunction => simp [Rank.tightness] at fits
      | conjunction => exact derives
      | negation => exact .negation derives
      | atom => exact .negation (.atom derives)
  | negation =>
      cases found with
      | disjunction | conjunction => simp [Rank.tightness] at fits
      | negation => exact derives
      | atom => exact .atom derives
  | atom =>
      cases found with
      | disjunction | conjunction | negation => simp [Rank.tightness] at fits
      | atom => exact derives

theorem derives_of_worded (plain : ∀ name ∈ names, IsPlainName name) {place : Rank}
    {condition : Condition} {tokens : List String} (worded : Worded place condition tokens)
    (expanded : condition.IsExpanded names) : Derives names place tokens condition := by
  have fitsAtom (place : Rank) : place.tightness ≤ Rank.atom.tightness := by
    cases place <;> decide
  induction worded with
  | parentheses _ _ induction =>
      exact Derives.loosen (fitsAtom _) (.parentheses (induction expanded))
  | either fits joins _ _ before after =>
      exact Derives.loosen fits
        (.either joins.keyword?_eq_some (before expanded.1) (after expanded.2))
  | both fits joins _ _ before after =>
      exact Derives.loosen fits
        (.both joins.keyword?_eq_some (before expanded.1) (after expanded.2))
  | negation fits negates _ after =>
      exact Derives.loosen fits (.not negates.keyword?_eq_some (after expanded))
  | selection name =>
      exact Derives.loosen (fitsAtom _) (.name (plain name expanded).isName expanded)
  | every members group all joins =>
      have stands := (expandGroup_eq_ok_iff expanded.2).mp expanded.1
      exact Derives.loosen (fitsAtom _)
        (.every all.keyword?_eq_some joins.keyword?_eq_some stands expanded.2)
  | atLeast members group writes joins =>
      have stands := (expandGroup_eq_ok_iff expanded.2.2).mp expanded.2.1
      exact Derives.loosen (fitsAtom _)
        (.atLeast writes expanded.1 joins.keyword?_eq_some stands expanded.2.2)

end

/-- A condition over plain names is read back from every text that lays its words out. -/
theorem parse_of_worded {names : List String} (plain : ∀ name ∈ names, IsPlainName name)
    {condition : Condition} (expanded : condition.IsExpanded names) {tokens : List String}
    (worded : Worded .disjunction condition tokens) {text : String}
    (laysOut : LaysOut text.toList tokens) : parse text names = .ok condition := by
  rw [parse, tokens_eq_iff.mpr laysOut]
  exact ofTokens_eq_ok_iff.mpr (derives_of_worded plain worded expanded)

theorem isPlainName_a : IsPlainName "a" :=
  ⟨by decide, List.all_eq_true.mp (by decide), by decide, by decide, by decide⟩

theorem isPlainName_b : IsPlainName "b" :=
  ⟨by decide, List.all_eq_true.mp (by decide), by decide, by decide, by decide⟩

theorem negation_and_parentheses_read_back :
    parse "NOT a and(b Or all of them)" ["a", "b"] =
      .ok (.both (.negation (.selection "a"))
        (.either (.selection "b") (.every ["a", "b"] "them"))) := by
  have plain : ∀ name ∈ ["a", "b"], IsPlainName name := by
    simpa using ⟨isPlainName_a, isPlainName_b⟩
  have negates : IsSpelling .negation "NOT" := by simp [IsSpelling, Keyword.name]
  have joinsBoth : IsSpelling .conjunction "and" := by simp [IsSpelling, Keyword.name]
  have joinsEither : IsSpelling .disjunction "Or" := by simp [IsSpelling, Keyword.name]
  have all : IsSpelling .every "all" := by simp [IsSpelling, Keyword.name]
  have joinsGroup : IsSpelling .quantifier "of" := by simp [IsSpelling, Keyword.name]
  have inside : Worded .disjunction (.either (.selection "b") (.every ["a", "b"] "them"))
      (["b"] ++ "Or" :: ["all", "of", "them"]) :=
    .either (by decide) joinsEither (.selection "b") (.every _ "them" all joinsGroup)
  exact parse_of_worded plain (by simp [IsExpanded]; decide)
    (.both (by decide) joinsBoth (.negation (by decide) negates (.selection "a"))
      (.parentheses (by decide) inside))
    (tokens_eq_iff.mp (by decide))

/-- Counts of zero and groups that stand for nothing can be put into words, but are
refused; and a group is kept as it is spelled. -/
theorem worded_but_not_read_back :
    (Worded .disjunction (.atLeast 0 ["a"] "them") ["0", "of", "them"] ∧
      expandGroup "them" ["a"] = .ok ["a"] ∧
      parse "0 of them" ["a"] = .error (.ofCause (.countBelowOne 0))) ∧
    (Worded .disjunction (.every [] "z*") ["all", "of", "z*"] ∧
      expandGroup "z*" ["a"] = .ok [] ∧
      parse "all of z*" ["a"] = .error (.ofCause (.emptyGroup "z*"))) ∧
    (IsSpelling .wholeGroup "THEM" ∧ parse "all of THEM" ["a"] = .ok (.every ["a"] "THEM")) := by
  have all : IsSpelling .every "all" := by simp [IsSpelling, Keyword.name]
  have joins : IsSpelling .quantifier "of" := by simp [IsSpelling, Keyword.name]
  have writes : Writes "0" 0 :=
    ⟨by decide, List.all_eq_true.mp (by decide), by decide, by decide⟩
  refine ⟨⟨.atLeast _ _ writes joins, rfl, by decide⟩, ⟨.every _ _ all joins, rfl, by decide⟩,
    by simp [IsSpelling, Keyword.name], by decide⟩

end ThreatWatch.Condition
