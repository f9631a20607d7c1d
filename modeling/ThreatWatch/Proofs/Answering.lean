import ThreatWatch.Proofs.Comparing

/-! Which events can be matched with every rule. An event of which all integers are near
a finite double is compared with any set of rules without a fault, and no other event
is; what an operator cannot compare makes its criterion false and nothing else. -/

namespace ThreatWatch

/-! ## Events -/

def Scalar.InRange : Scalar → Prop
  | .float (.finite _ units) => units < Binary64.unitsLimit
  | _ => True

namespace SecurityEvent

def InRange (event : SecurityEvent) : Prop :=
  ∀ entry ∈ event.metadata, entry.2.InRange

def IsModerate (event : SecurityEvent) : Prop :=
  ∀ key number, (SelectionKey.ofText key).field ≠ "" →
    event.fieldValue (SelectionKey.ofText key).field = .int number →
    number.natAbs < Binary64.integerLimit

theorem fieldValue_cases (event : SecurityEvent) (field : String) :
    event.fieldValue field = .null ∨ (∃ content, event.fieldValue field = .text content) ∨
      ∃ scalar, (field, scalar) ∈ event.metadata ∧ event.fieldValue field = scalar.toValue := by
  unfold fieldValue resolve
  split
  · exact .inr (.inl ⟨_, rfl⟩)
  · cases found : event.metadata.get? field with
    | none => exact .inl rfl
    | some scalar => exact .inr (.inr ⟨scalar, Table.mem_of_get?_eq_some found, rfl⟩)

end SecurityEvent

namespace Operator

theorem takes_of_exists {value : Value} (written : ∃ text, value.operandText = .ok text)
    (numbered : ∃ number, value.operandNumber = .ok number) (operator : Operator) :
    operator.Takes value := by
  cases operator <;> first | exact written | exact numbered | trivial

theorem takes_toValue {scalar : Scalar} (inRange : scalar.InRange)
    (moderate : ∀ number, scalar = .int number → number.natAbs < Binary64.integerLimit)
    (operator : Operator) : operator.Takes scalar.toValue := by
  apply takes_of_exists
  · cases scalar with
    | bool flag => exact ⟨_, rfl⟩
    | text content => exact ⟨_, rfl⟩
    | int number =>
        have small := (moderate number rfl).trans_le Binary64.integerLimit_le
        rw [Scalar.toValue, Value.operandText_int]
        exact Value.exists_writtenInt small
    | float number =>
        cases number with
        | finite negative units => exact Value.exists_operandText_float inRange
        | infinite negative => exact ⟨_, rfl⟩
        | undefined => exact ⟨_, rfl⟩
  · cases scalar with
    | bool flag => exact ⟨_, rfl⟩
    | text content => exact ⟨_, rfl⟩
    | int number => exact (Value.exists_operandNumber_int_iff number).mpr (moderate number rfl)
    | float number => exact ⟨_, rfl⟩

theorem takes_fieldValue {event : SecurityEvent} {field : String} (inRange : event.InRange)
    (moderate : ∀ number, event.fieldValue field = .int number →
      number.natAbs < Binary64.integerLimit) (operator : Operator) :
    operator.Takes (event.fieldValue field) := by
  rcases event.fieldValue_cases field with absent | ⟨content, own⟩ | ⟨scalar, member, held⟩
  · rw [absent]
    exact takes_of_exists ⟨_, rfl⟩ ⟨_, rfl⟩ operator
  · rw [own]
    exact takes_of_exists ⟨_, rfl⟩ ⟨_, rfl⟩ operator
  · rw [held] at moderate ⊢
    have scalarInRange : scalar.InRange := inRange _ member
    exact takes_toValue scalarInRange
      (fun number equal => moderate number (congrArg Scalar.toValue equal)) operator

end Operator

/-! ## Rules -/

namespace BoundRule

def IsModerate (bound : BoundRule) : Prop :=
  ∀ criterion ∈ bound.criteria, ∀ expected ∈ criterion.expected, criterion.operator.Takes expected

theorem exists_entry_of_mem_criteria {rule : Rule} {bound : BoundRule}
    (binds : ofRule rule = .ok bound) {criterion : Criterion}
    (member : criterion ∈ bound.criteria) :
    ∃ entry : Value × Value, Criterion.compile entry.1 entry.2 = .ok criterion := by
  rcases List.mem_flatMap.mp member with ⟨⟨name, selection⟩, selectionMember, flattened⟩
  rcases List.mem_flatten.mp flattened with ⟨clause, clauseMember, criterionMember⟩
  rcases exists_of_mem_of_mapM_eq_ok (ofRule_eq_ok binds).2.1 selectionMember with
    ⟨⟨key, definition⟩, _, step⟩
  rcases bind_eq_ok_iff.mp step with ⟨compiled, made, equal⟩
  cases equal
  rcases exists_of_forall₂_right (Selection.compile_eq_ok made) clauseMember with
    ⟨entries, _, clauseMade⟩
  rcases exists_of_mem_of_mapM_eq_ok clauseMade criterionMember with ⟨entry, _, compiles⟩
  exact ⟨entry, compiles⟩

theorem exists_key_of_mem_criteria {rule : Rule} {bound : BoundRule}
    (binds : ofRule rule = .ok bound) {criterion : Criterion}
    (member : criterion ∈ bound.criteria) :
    ∃ key, (SelectionKey.ofText key).field ≠ "" ∧
      criterion.field = (SelectionKey.ofText key).field := by
  rcases exists_entry_of_mem_criteria binds member with ⟨entry, compiles⟩
  rcases Criterion.compile_eq_ok compiles with ⟨key, _, _, _, _, field, read, _⟩
  refine ⟨key, fun empty => ?_, field⟩
  rw [SelectionKey.read, if_pos empty] at read
  cases read

section

variable {rule : Rule} {bound : BoundRule} {event : SecurityEvent}

theorem exists_matchEvent (answers : bound.Answers event) :
    ∃ outcome, bound.matchEvent event = .ok outcome := by
  rcases exists_outcomes answers with ⟨table, compared⟩
  exact ⟨_, matchEvent_of_outcomes compared⟩

theorem takes_of_mem_criteria (binds : ofRule rule = .ok bound) (inRange : event.InRange)
    (moderate : event.IsModerate) {criterion : Criterion} (member : criterion ∈ bound.criteria) :
    criterion.operator.Takes (event.fieldValue criterion.field) := by
  rcases exists_key_of_mem_criteria binds member with ⟨key, named, field⟩
  rw [field]
  exact Operator.takes_fieldValue inRange (fun number => moderate key number named) _

theorem answers_of_isModerate (binds : ofRule rule = .ok bound) (rules : bound.IsModerate)
    (inRange : event.InRange) (moderate : event.IsModerate) : bound.Answers event := by
  intro criterion member
  rcases exists_entry_of_mem_criteria binds member with ⟨entry, compiles⟩
  have takes := takes_of_mem_criteria binds inRange moderate member
  refine Criterion.exists_passes fun test testMember => ?_
  exact (ValueTest.exists_passes_iff (Criterion.isMade_of_compile compiles test testMember)).mpr
    ⟨takes, rules criterion member _ (List.mem_map_of_mem testMember)⟩

theorem passes_of_not_coerces (binds : ofRule rule = .ok bound) (rules : bound.IsModerate)
    (inRange : event.InRange) (moderate : event.IsModerate) {criterion : Criterion}
    (member : criterion ∈ bound.criteria)
    (coerces : ¬criterion.operator.Coerces (event.fieldValue criterion.field)) :
    criterion.passes (event.fieldValue criterion.field) = .ok false := by
  rcases exists_entry_of_mem_criteria binds member with ⟨entry, compiles⟩
  have takes := takes_of_mem_criteria binds inRange moderate member
  refine Criterion.passes_eq_false fun test testMember => ?_
  exact ValueTest.passes_of_not_coerces (Criterion.isMade_of_compile compiles test testMember)
    takes (rules criterion member _ (List.mem_map_of_mem testMember)) coerces

end

theorem exists_matchAll {bounds : List BoundRule} {event : SecurityEvent}
    (answers : ∀ bound ∈ bounds, ∃ outcome, bound.matchEvent event = .ok outcome) :
    ∃ found, matchAll bounds event = .ok found := by
  rcases exists_mapM_eq_ok answers with ⟨outcomes, matched⟩
  exact ⟨_, bind_eq_ok_iff.mpr ⟨outcomes, matched, rfl⟩⟩

end BoundRule

/-! ## A comparison with every integer -/

theorem SelectionKey.exists_greater (key : String) :
    ∃ asking, SelectionKey.ofText asking = ⟨(SelectionKey.ofText key).field, ["gt"]⟩ := by
  cases found : Text.pieces '|' key.toList with
  | nil => exact absurd found (Text.pieces_ne_nil _ _)
  | cons first others =>
      have apart : '|' ∉ first := Text.not_mem_of_mem_pieces (found ▸ List.mem_cons_self)
      have field : (SelectionKey.ofText key).field = Text.trim (String.ofList first) := by
        simp [SelectionKey.ofText, Text.splitOn, found]
      refine ⟨String.ofList (first ++ ['|', 'g', 't']), ?_⟩
      rw [field, SelectionKey.ofText, Text.splitOn, String.toList_ofList,
        Text.pieces_append apart]
      rfl

namespace Rule

def exceedingOne (key : String) : Rule where
  id := "r1"
  title := "Exceeding one"
  level := "low"
  status := .experimental
  description := ""
  logSource := {}
  author := none
  date := none
  tags := []
  falsePositives := []
  references := []
  file := none
  detection := [("sel", .sealed [(.text key, .int 1)]), ("condition", .text "sel")]

theorem definitions_exceedingOne (key : String) :
    (exceedingOne key).definitions = [("sel", .sealed [(.text key, .int 1)])] := by
  simp [definitions, exceedingOne, conditionKey]

theorem selectionNames_exceedingOne (key : String) :
    (exceedingOne key).selectionNames = ["sel"] := by
  rw [selectionNames, definitions_exceedingOne]
  rfl

theorem condition_exceedingOne (key : String) : (exceedingOne key).condition = "sel" := by
  simp [condition, exceedingOne, conditionKey, Table.get?, List.lookup_cons]

end Rule

namespace BoundRule

def exceedingOne (key : String) : BoundRule where
  rule := .exceedingOne key
  selections := [("sel", [[⟨key, (SelectionKey.ofText key).field, .greater, false,
    [(.int 1, .number .greater (.int 1))]⟩]])]
  condition := .selection "sel"

section

variable {key field : String} {event : SecurityEvent} {number : Int}

theorem compile_exceedingOne (named : field ≠ "")
    (asks : SelectionKey.ofText key = ⟨field, ["gt"]⟩) :
    Criterion.compile (.text key) (.int 1) =
      .ok ⟨key, (SelectionKey.ofText key).field, .greater, false,
        [(.int 1, .number .greater (.int 1))]⟩ := by
  have read : (SelectionKey.ofText key).read (Text.quoted key) = .ok (.greater, false) := by
    rw [asks, SelectionKey.read, if_neg named]
    rfl
  simp only [Criterion.compile, Value.shown, Value.quoted]
  simp [bind, Except.bind, read, Criterion.expectedValues, Value.items?, Criterion.prepare, pure,
    Except.pure]

theorem ofRule_exceedingOne (named : field ≠ "")
    (asks : SelectionKey.ofText key = ⟨field, ["gt"]⟩) :
    ofRule (.exceedingOne key) = .ok (.exceedingOne key) := by
  have parsed : Condition.parse "sel" ["sel"] = .ok (.selection "sel") := by rfl
  have made : compileAll [("sel", .sealed [(.text key, .int 1)])] =
      .ok (exceedingOne key).selections := by
    simp [compileAll, Selection.compile, Selection.entriesOf?, Clause.ofEntries,
      compile_exceedingOne named asks, exceedingOne, bind, Except.bind, pure, Except.pure]
  unfold ofRule prepare
  rw [Rule.definitions_exceedingOne, made, Rule.condition_exceedingOne,
    Rule.selectionNames_exceedingOne, parsed]
  rfl

theorem matchEvent_exceedingOne
    (held : event.fieldValue (SelectionKey.ofText key).field = .int number)
    (huge : Binary64.integerLimit ≤ number.natAbs) :
    (exceedingOne key).matchEvent event = .error .integerTooLarge := by
  have failed : ValueTest.passes (.int number) (.number .greater (.int 1)) =
      .error .integerTooLarge := by
    rw [ValueTest.passes, Value.operandNumber_eq_error huge]
    rfl
  have held : (exceedingOne key).selectionHolds event "sel" = .error .integerTooLarge := by
    simp [selectionHolds, exceedingOne, Table.get?, Selection.holds, Clause.holds,
      held, Criterion.passes, Value.isNull, Criterion.anyPasses, failed, bind, Except.bind]
  have outcomes : (exceedingOne key).outcomes event = .error .integerTooLarge := by
    have mentioned : (exceedingOne key).referenced = ["sel"] := rfl
    rw [BoundRule.outcomes, mentioned, List.mapM_cons, held]
    rfl
  rw [matchEvent, outcomes]
  rfl

theorem isModerate_exceedingOne (key : String) : (exceedingOne key).IsModerate := by
  intro criterion member expected expectedMember
  simp only [criteria, exceedingOne, List.flatMap_cons, List.flatMap_nil, List.flatten_cons,
    List.flatten_nil, List.append_nil, List.mem_singleton] at member
  subst member
  simp only [Criterion.expected, List.map_cons, List.map_nil, List.mem_singleton] at expectedMember
  subst expectedMember
  exact (Value.exists_operandNumber_int_iff 1).mpr (by decide +kernel)

end

end BoundRule

/-! ## Rule sets -/

namespace RuleSet

def IsModerate (set : RuleSet) : Prop :=
  ∀ bound ∈ set.rules, (∃ rule, BoundRule.ofRule rule = .ok bound) ∧ bound.IsModerate

theorem exists_matchEvent {set : RuleSet} {event : SecurityEvent} (rules : set.IsModerate)
    (inRange : event.InRange) (moderate : event.IsModerate) :
    ∃ found, set.matchEvent event = .ok found := by
  refine BoundRule.exists_matchAll fun bound member => ?_
  rcases rules bound member with ⟨⟨rule, binds⟩, bounded⟩
  exact BoundRule.exists_matchEvent
    (BoundRule.answers_of_isModerate binds bounded inRange moderate)

theorem isModerate_of_matchEvent {event : SecurityEvent}
    (returns : ∀ set : RuleSet, set.IsModerate → ∃ found, set.matchEvent event = .ok found) :
    event.IsModerate := by
  intro key number named held
  by_contra huge
  rcases SelectionKey.exists_greater key with ⟨asking, asks⟩
  have binds := BoundRule.ofRule_exceedingOne named asks
  have fails : (BoundRule.exceedingOne asking).matchEvent event = .error .integerTooLarge := by
    refine BoundRule.matchEvent_exceedingOne ?_ (Nat.le_of_not_lt huge)
    rw [asks]
    exact held
  have moderate : IsModerate { rules := [.exceedingOne asking] } := by
    intro bound member
    rw [List.mem_singleton.mp member]
    exact ⟨⟨_, binds⟩, BoundRule.isModerate_exceedingOne asking⟩
  rcases returns _ moderate with ⟨found, matched⟩
  rw [matchEvent, BoundRule.matchAll, List.mapM_cons, fails] at matched
  cases matched

/-- Matching an event with rule sets always comes to an answer just when every integer of
the event is near a finite double. A value that an operator cannot compare then makes its
criterion false. -/
theorem matchEvent_returns_iff (event : SecurityEvent) (inRange : event.InRange) :
    ((∀ set : RuleSet, set.IsModerate → ∃ found, set.matchEvent event = .ok found) ↔
      event.IsModerate) ∧
    (event.IsModerate → ∀ rule bound, BoundRule.ofRule rule = .ok bound → bound.IsModerate →
      (∃ outcome, bound.matchEvent event = .ok outcome) ∧
      ∀ criterion ∈ bound.criteria,
        ¬criterion.operator.Coerces (event.fieldValue criterion.field) →
        criterion.passes (event.fieldValue criterion.field) = .ok false) := by
  refine ⟨⟨isModerate_of_matchEvent, fun moderate set rules => ?_⟩, ?_⟩
  · exact exists_matchEvent rules inRange moderate
  · intro moderate rule bound binds rules
    have answers := BoundRule.answers_of_isModerate binds rules inRange moderate
    refine ⟨BoundRule.exists_matchEvent answers, fun criterion member coerces => ?_⟩
    exact BoundRule.passes_of_not_coerces binds rules inRange moderate member coerces

end RuleSet

def SecurityEvent.counting (number : Int) : SecurityEvent :=
  { changeByAdmin with metadata := [("n", .int number)] }

theorem RuleSet.count_of_five_is_matched :
    (SecurityEvent.counting 5).InRange ∧ (SecurityEvent.counting 5).IsModerate ∧
      ∀ set : RuleSet, set.IsModerate → ∃ found, set.matchEvent (.counting 5) = .ok found := by
  have inRange : (SecurityEvent.counting 5).InRange := by
    intro entry member
    rw [List.mem_singleton.mp member]
    trivial
  have moderate : (SecurityEvent.counting 5).IsModerate := by
    intro key number _ held
    rcases SecurityEvent.fieldValue_cases (.counting 5) (SelectionKey.ofText key).field with
      absent | ⟨content, own⟩ | ⟨scalar, member, told⟩
    · rw [absent] at held
      cases held
    · rw [own] at held
      cases held
    · rw [(Prod.mk.inj (List.mem_singleton.mp member)).2] at told
      rw [told] at held
      cases held
      decide +kernel
  exact ⟨inRange, moderate, (matchEvent_returns_iff _ inRange).1.mpr moderate⟩

/-- No double is near a one followed by four hundred zeros, and a rule that asks whether
it is greater than one comes to no answer. -/
theorem RuleSet.huge_count_is_not_matched :
    BoundRule.ofRule (.exceedingOne "n|gt") = .ok (.exceedingOne "n|gt") ∧
      ¬∃ found, RuleSet.matchEvent { rules := [.exceedingOne "n|gt"] }
        (.counting (10 ^ 400)) = .ok found := by
  have asks : SelectionKey.ofText "n|gt" = ⟨"n", ["gt"]⟩ := by decide +kernel
  have held : (SecurityEvent.counting (10 ^ 400)).fieldValue (SelectionKey.ofText "n|gt").field =
      .int (10 ^ 400) := by
    rw [asks]
    rfl
  have fails := BoundRule.matchEvent_exceedingOne held (by decide +kernel)
  refine ⟨BoundRule.ofRule_exceedingOne (by decide) asks, ?_⟩
  rintro ⟨found, matched⟩
  rw [matchEvent, BoundRule.matchAll, List.mapM_cons, fails] at matched
  cases matched

end ThreatWatch
