import ThreatWatch.Proofs.Wildcards

/-! Placed texts without regard to case. A criterion that asks where a text stands compares
the lower-case forms of the two whole texts. That of a part is that of the part alone but for
capital sigmas, whose form depends on what stands around them. Where these keep their form, a
text that stands in a value as it is spelled is found there. -/

namespace ThreatWatch

/-! ## Lower case of parts -/

namespace Text

/-- The lower-case form of a part, between what comes before it, read backwards, and what
comes after it. -/
def lowerBetween (before : List Char) : List Char → List Char → List Char
  | [], _ => []
  | character :: rest, after =>
      lowerForm before character (rest ++ after) ++ lowerBetween (character :: before) rest after

/-- Each capital sigma of a part is final between its neighbours where it is final in the part
alone. -/
def KeepsSigmas (before part after : List Char) : Prop :=
  ∀ start rest, part = start ++ 'Σ' :: rest →
    isFinalSigma (start.reverse ++ before) (rest ++ after) = isFinalSigma start.reverse rest

theorem lowerAfter_append (before part after : List Char) :
    lowerAfter before (part ++ after) =
      lowerBetween before part after ++ lowerAfter (part.reverse ++ before) after := by
  induction part generalizing before with
  | nil => rfl
  | cons character rest induction =>
      rw [List.cons_append, lowerAfter, induction, lowerBetween, List.reverse_cons,
        List.append_assoc, List.append_assoc, List.singleton_append]

theorem lowerCharacters_eq_lowerBetween (part : List Char) :
    lowerCharacters part = lowerBetween [] part [] := by
  have whole := lowerAfter_append [] part []
  rwa [List.append_nil, lowerAfter, List.append_nil] at whole

theorem lowerCharacters_append (before part after : List Char) :
    lowerCharacters (before ++ part ++ after) =
      lowerBetween [] before (part ++ after) ++ lowerBetween before.reverse part after ++
        lowerAfter (part.reverse ++ before.reverse) after := by
  rw [lowerCharacters, List.append_assoc, lowerAfter_append, lowerAfter_append, List.append_nil,
    List.append_assoc]

theorem length_lowerForm (before after otherBefore otherAfter : List Char) (character : Char) :
    (lowerForm before character after).length =
      (lowerForm otherBefore character otherAfter).length := by
  unfold lowerForm
  split
  · rfl
  · split <;> rfl

theorem length_lowerBetween (before after otherBefore otherAfter part : List Char) :
    (lowerBetween before part after).length =
      (lowerBetween otherBefore part otherAfter).length := by
  induction part generalizing before otherBefore with
  | nil => rfl
  | cons character rest induction =>
      rw [lowerBetween, lowerBetween, List.length_append, List.length_append,
        length_lowerForm before _ otherBefore (rest ++ otherAfter), induction]

theorem lowerForm_eq_iff {before after otherBefore otherAfter : List Char} {character : Char} :
    lowerForm before character after = lowerForm otherBefore character otherAfter ↔
      (character = 'Σ' → isFinalSigma before after = isFinalSigma otherBefore otherAfter) := by
  unfold lowerForm
  by_cases sigma : character = 'Σ'
  · simp only [sigma, if_true, forall_const]
    cases isFinalSigma before after <;> cases isFinalSigma otherBefore otherAfter <;> decide
  · simp only [sigma, if_false, false_implies]

theorem lowerBetween_eq_iff {before after otherBefore otherAfter part : List Char} :
    lowerBetween before part after = lowerBetween otherBefore part otherAfter ↔
      ∀ start rest, part = start ++ 'Σ' :: rest →
        isFinalSigma (start.reverse ++ before) (rest ++ after) =
          isFinalSigma (start.reverse ++ otherBefore) (rest ++ otherAfter) := by
  induction part generalizing before otherBefore with
  | nil => simp [lowerBetween]
  | cons character others induction =>
      have parted : lowerBetween before (character :: others) after =
            lowerBetween otherBefore (character :: others) otherAfter ↔
          lowerForm before character (others ++ after) =
              lowerForm otherBefore character (others ++ otherAfter) ∧
            lowerBetween (character :: before) others after =
              lowerBetween (character :: otherBefore) others otherAfter :=
        ⟨fun same => List.append_inj same (length_lowerForm _ _ _ _ _),
          fun both => congrArg₂ List.append both.1 both.2⟩
      rw [parted, lowerForm_eq_iff, induction]
      constructor
      · rintro ⟨here, later⟩ start rest split
        cases start with
        | nil =>
            cases split
            exact here rfl
        | cons first start =>
            cases split
            simpa using later start rest rfl
      · intro each
        refine ⟨?_, fun start rest split => ?_⟩
        · rintro rfl
          exact each [] others rfl
        · simpa using each (character :: start) rest (by rw [split, List.cons_append])

theorem lowerBetween_eq_lowerCharacters_iff {before part after : List Char} :
    lowerBetween before part after = lowerCharacters part ↔ KeepsSigmas before part after := by
  rw [lowerCharacters_eq_lowerBetween, lowerBetween_eq_iff, KeepsSigmas]
  simp only [List.append_nil]

theorem keepsSigmas_of_not_mem {before part after : List Char} (absent : 'Σ' ∉ part) :
    KeepsSigmas before part after := by
  rintro start rest rfl
  exact absurd (List.mem_append_right start List.mem_cons_self) absent

end Text

/-! ## Places -/

namespace Placement

def operator : Placement → Operator
  | .anywhere => .contains
  | .atStart => .startsWith
  | .atEnd => .endsWith

def Allows (before after : List Char) : Placement → Prop
  | .anywhere => True
  | .atStart => before = []
  | .atEnd => after = []

variable {placement : Placement} {expected actual before after : List Char}

theorem holds_iff :
    placement.holds expected actual = true ↔
      ∃ before after, actual = before ++ expected ++ after ∧ placement.Allows before after := by
  cases placement with
  | anywhere =>
      rw [holds, Text.occursIn_iff]
      constructor
      · rintro ⟨before, after, equal⟩
        exact ⟨before, after, equal.symm, trivial⟩
      · rintro ⟨before, after, equal, _⟩
        exact ⟨before, after, equal.symm⟩
  | atStart =>
      rw [holds, Text.startsWith, List.isPrefixOf_iff_prefix]
      constructor
      · rintro ⟨after, equal⟩
        exact ⟨[], after, equal.symm, rfl⟩
      · rintro ⟨before, after, equal, rfl⟩
        exact ⟨after, equal.symm⟩
  | atEnd =>
      rw [holds, Text.endsWith, List.isSuffixOf_iff_suffix]
      constructor
      · rintro ⟨before, equal⟩
        exact ⟨before, [], by rw [List.append_nil, equal], rfl⟩
      · rintro ⟨before, after, equal, rfl⟩
        exact ⟨before, by rw [equal, List.append_nil]⟩

theorem holds_lower_of_keepsSigmas (equal : actual = before ++ expected ++ after)
    (allowed : placement.Allows before after)
    (keeps : Text.KeepsSigmas before.reverse expected after) :
    placement.holds (Text.lowerCharacters expected) (Text.lowerCharacters actual) = true := by
  rw [holds_iff, equal, Text.lowerCharacters_append,
    Text.lowerBetween_eq_lowerCharacters_iff.mpr keeps]
  refine ⟨_, _, rfl, ?_⟩
  cases placement with
  | anywhere => trivial
  | atStart =>
      obtain rfl : before = [] := allowed
      rfl
  | atEnd =>
      obtain rfl : after = [] := allowed
      rfl

theorem keepsSigmas_of_holds_lower (bound : placement ≠ .anywhere)
    (equal : actual = before ++ expected ++ after) (allowed : placement.Allows before after)
    (holds : placement.holds (Text.lowerCharacters expected) (Text.lowerCharacters actual) = true) :
    Text.KeepsSigmas before.reverse expected after := by
  rw [holds_iff, equal, Text.lowerCharacters_append] at holds
  obtain ⟨start, rest, split, restAllowed⟩ := holds
  rw [← Text.lowerBetween_eq_lowerCharacters_iff]
  have size : (Text.lowerBetween before.reverse expected after).length =
      (Text.lowerCharacters expected).length := by
    rw [Text.lowerCharacters_eq_lowerBetween]
    exact Text.length_lowerBetween _ _ _ _ _
  cases placement with
  | anywhere => exact absurd rfl bound
  | atStart =>
      obtain rfl : before = [] := allowed
      obtain rfl : start = [] := restAllowed
      exact (List.append_inj split size).1
  | atEnd =>
      obtain rfl : after = [] := allowed
      obtain rfl : rest = [] := restAllowed
      simp only [Text.lowerAfter, List.append_nil] at split
      exact (List.append_inj' split size).2

end Placement

/-! ## Criteria -/

namespace Criterion

def IsKeyOf (field : String) (operator : Operator) (requireAll : Bool) (rawKey : Value) : Prop :=
  ∃ key shownKey, rawKey.shown = .ok key ∧ rawKey.quoted = .ok shownKey ∧
    (SelectionKey.ofText key).field = field ∧
    (SelectionKey.ofText key).read shownKey = .ok (operator, requireAll)

/-- Values that can be written, as all can that hold no integer of too many digits. -/
def AreWritten (values : List Value) : Prop :=
  ∀ value ∈ values, ∃ text, value.operandText = .ok text

variable {field : String} {operator : Operator} {requireAll : Bool} {rawKey value : Value}

theorem exists_compile_of_tests (key : IsKeyOf field operator requireAll rawKey)
    {test : Value → ValueTest}
    (prepared : ∀ expected ∈ expectedValues value, ∀ shownKey,
      prepare operator shownKey expected = .ok (test expected)) :
    ∃ criterion, compile rawKey value = .ok criterion ∧ criterion.field = field ∧
      criterion.requireAll = requireAll ∧
      criterion.tests = (expectedValues value).map fun expected => (expected, test expected) := by
  obtain ⟨key, shownKey, shown, quoted, named, read⟩ := key
  have tests : (expectedValues value).mapM (fun expected => do
      return (expected, ← prepare operator shownKey expected)) =
        .ok ((expectedValues value).map fun expected => (expected, test expected)) :=
    mapM_eq_ok fun expected member =>
      bind_eq_ok_iff.mpr ⟨test expected, prepared expected member shownKey, rfl⟩
  refine ⟨⟨key, _, operator, requireAll, _⟩, ?_, named, rfl, rfl⟩
  exact bind_eq_ok_iff.mpr ⟨key, shown, bind_eq_ok_iff.mpr ⟨shownKey, quoted,
    bind_eq_ok_iff.mpr ⟨_, read, bind_eq_ok_iff.mpr ⟨_, tests, rfl⟩⟩⟩⟩

theorem exists_compile_of_texts (key : IsKeyOf field operator requireAll rawKey)
    {texts : List String} {test : String → ValueTest}
    (listed : expectedValues value = texts.map .text)
    (prepared : ∀ text ∈ texts, ∀ shownKey,
      prepare operator shownKey (.text text) = .ok (test text)) :
    ∃ criterion, compile rawKey value = .ok criterion ∧ criterion.field = field ∧
      criterion.requireAll = requireAll ∧
      criterion.tests = texts.map fun text => (.text text, test text) := by
  have each : ∀ expected ∈ expectedValues value, ∀ shownKey,
      prepare operator shownKey expected = .ok (test (expected.text?.getD "")) := by
    rw [listed]
    exact List.forall_mem_map.mpr prepared
  rw [show (texts.map fun text => (Value.text text, test text)) =
    (expectedValues value).map fun expected => (expected, test (expected.text?.getD "")) by
      rw [listed, List.map_map]; rfl]
  exact exists_compile_of_tests key each

theorem prepare_placement (placement : Placement) (shownKey : String) (expected : Value) :
    prepare placement.operator shownKey expected = .ok (.placed placement expected) := by
  cases placement <;> rfl

/-- A text that stands in a value as it is spelled, at a place that the operator asks for, is
found there where each of its capital sigmas keeps its form; at the start and at the end it is
found in no other case. A text without capital sigmas is always found. -/
theorem placed_text_is_found {placement : Placement}
    (key : IsKeyOf field placement.operator requireAll rawKey) (expected actual : String) :
    ∃ criterion answer, compile rawKey (.text expected) = .ok criterion ∧
      criterion.field = field ∧ criterion.passes (.text actual) = .ok answer ∧
      (∀ before after, actual.toList = before ++ expected.toList ++ after →
        placement.Allows before after →
          (Text.KeepsSigmas before.reverse expected.toList after → answer = true) ∧
          (placement ≠ .anywhere → answer = true →
            Text.KeepsSigmas before.reverse expected.toList after)) ∧
      ('Σ' ∉ expected.toList → placement.holds expected.toList actual.toList = true →
        answer = true) := by
  have listed : expectedValues (.text expected) = [expected].map .text := rfl
  obtain ⟨criterion, compiled, named, _, single⟩ :=
    exists_compile_of_texts key listed fun text _ shownKey =>
      prepare_placement placement shownKey (.text text)
  have tested : ValueTest.passes (.text actual) (.placed placement (.text expected)) =
      .ok (placement.holds (Text.lowerCharacters expected.toList)
        (Text.lowerCharacters actual.toList)) := rfl
  refine ⟨criterion, _, compiled, named, passes_of_single single rfl tested, ?_, ?_⟩
  · intro before after equal allowed
    exact ⟨Placement.holds_lower_of_keepsSigmas equal allowed,
      fun bound => Placement.keepsSigmas_of_holds_lower bound equal allowed⟩
  · intro absent stands
    obtain ⟨before, after, equal, allowed⟩ := Placement.holds_iff.mp stands
    exact Placement.holds_lower_of_keepsSigmas equal allowed (Text.keepsSigmas_of_not_mem absent)

/-- A sigma between two letters is found by a sigma alone, since neither is final. -/
theorem sigma_between_letters_is_found :
    IsKeyOf "name" .contains false (.text "name|contains") ∧
      ∃ criterion, compile (.text "name|contains") (.text "Σ") = .ok criterion ∧
        criterion.passes (.text "ΑΣΑ") = .ok true := by
  have key : IsKeyOf "name" (Placement.operator .anywhere) false (.text "name|contains") :=
    ⟨"name|contains", _, rfl, rfl, by decide +kernel, by decide +kernel⟩
  have keeps : Text.KeepsSigmas ['Α'] "Σ".toList ['Α'] :=
    Text.lowerBetween_eq_lowerCharacters_iff.mp (by decide +kernel)
  obtain ⟨criterion, answer, compiled, _, passes, places, _⟩ :=
    placed_text_is_found key "Σ" "ΑΣΑ"
  obtain rfl : answer = true := (places ['Α'] ['Α'] rfl trivial).1 keeps
  exact ⟨key, criterion, compiled, passes⟩

/-- A sigma that is final in the value and not in the expected text, or the other way round,
hides the text wherever it is looked for. -/
theorem final_sigma_hides_text :
    (Placement.anywhere.holds "Σ".toList "ΑΣ".toList = true ∧
      ∃ criterion, compile (.text "name|contains") (.text "Σ") = .ok criterion ∧
        criterion.passes (.text "ΑΣ") = .ok false) ∧
    (Placement.atStart.holds "ΑΣ".toList "ΑΣΑ".toList = true ∧
      ∃ criterion, compile (.text "name|startswith") (.text "ΑΣ") = .ok criterion ∧
        criterion.passes (.text "ΑΣΑ") = .ok false) ∧
    Placement.atEnd.holds "Σ".toList "ΑΣ".toList = true ∧
      ∃ criterion, compile (.text "name|endswith") (.text "Σ") = .ok criterion ∧
        criterion.passes (.text "ΑΣ") = .ok false :=
  ⟨⟨by decide, _, rfl, by decide +kernel⟩, ⟨by decide, _, rfl, by decide +kernel⟩,
    by decide, _, rfl, by decide +kernel⟩

end Criterion

end ThreatWatch
