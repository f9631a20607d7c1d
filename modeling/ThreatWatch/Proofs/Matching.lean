import ThreatWatch.Proofs.Grouping
import ThreatWatch.Proofs.Meaning
import ThreatWatch.Rule.Bound

/-! What matching comes to. A bound rule is made of criteria, one for each entry of
its selections; where all of these can be compared with an event, the rule matches
when its condition is true of the event, and the match lists the true selections that
the condition mentions. -/

namespace ThreatWatch

/-! ## Truth of selections -/

namespace Criterion

def Answers (event : SecurityEvent) (criterion : Criterion) : Prop :=
  ∃ answer, criterion.passes (event.fieldValue criterion.field) = .ok answer

def IsTrueOf (event : SecurityEvent) (entry : Value × Value) : Prop :=
  ∃ criterion, compile entry.1 entry.2 = .ok criterion ∧
    criterion.passes (event.fieldValue criterion.field) = .ok true

end Criterion

namespace Selection

def mappings (definition : Value) : List (List (Value × Value)) :=
  match entriesOf? definition with
  | some entries => [entries]
  | none => (definition.items?.getD []).filterMap entriesOf?

end Selection

/-- Whether a selection of a rule is true of an event: all entries of one of its
mappings are. -/
def Rule.IsTrueOf (rule : Rule) (event : SecurityEvent) (name : String) : Prop :=
  ∃ definition, rule.definitions.get? name = some definition ∧
    ∃ entries ∈ Selection.mappings definition, ∀ entry ∈ entries, Criterion.IsTrueOf event entry

section

variable {event : SecurityEvent}

theorem Clause.holds_eq_ok {clause : Clause} {answer : Bool}
    (compared : clause.holds event = .ok answer) :
    answer = true ↔
      ∀ criterion ∈ clause, criterion.passes (event.fieldValue criterion.field) = .ok true := by
  induction clause with
  | nil =>
      cases compared
      simp
  | cons criterion rest induction =>
      rcases bind_eq_ok_iff.mp compared with ⟨first, passed, later⟩
      rw [List.forall_mem_cons, passed]
      cases first with
      | false =>
          cases later
          simp
      | true => simpa using induction later

theorem Clause.exists_holds {clause : Clause}
    (answers : ∀ criterion ∈ clause, criterion.Answers event) :
    ∃ answer, clause.holds event = .ok answer := by
  induction clause with
  | nil => exact ⟨true, rfl⟩
  | cons criterion rest induction =>
      rcases List.forall_mem_cons.mp answers with ⟨⟨first, passed⟩, others⟩
      unfold Clause.holds
      rw [passed]
      cases first with
      | false => exact ⟨false, rfl⟩
      | true => exact induction others

theorem Selection.holds_eq_ok {selection : Selection} {answer : Bool}
    (compared : selection.holds event = .ok answer) :
    answer = true ↔ ∃ clause ∈ selection,
      ∀ criterion ∈ clause, criterion.passes (event.fieldValue criterion.field) = .ok true := by
  induction selection with
  | nil =>
      cases compared
      simp
  | cons clause rest induction =>
      rcases bind_eq_ok_iff.mp compared with ⟨first, held, later⟩
      rw [List.exists_mem_cons_iff, ← Clause.holds_eq_ok held]
      cases first with
      | true =>
          cases later
          simp
      | false => simpa using induction later

theorem Selection.exists_holds {selection : Selection}
    (answers : ∀ clause ∈ selection, ∀ criterion ∈ clause, criterion.Answers event) :
    ∃ answer, selection.holds event = .ok answer := by
  induction selection with
  | nil => exact ⟨false, rfl⟩
  | cons clause rest induction =>
      rcases List.forall_mem_cons.mp answers with ⟨here, others⟩
      rcases Clause.exists_holds here with ⟨first, held⟩
      unfold Selection.holds
      rw [held]
      cases first with
      | true => exact ⟨true, rfl⟩
      | false => exact induction others

end

/-! ## Compiled selections -/

namespace Selection

theorem filterMap_of_mapM {α β : Type} {step : α → Option β} {items : List α} {results : List β}
    (steps : items.mapM step = some results) : items.filterMap step = results := by
  induction items generalizing results with
  | nil => simpa using steps
  | cons item rest induction =>
      simp only [List.mapM_cons, Option.bind_eq_bind, Option.bind_eq_some_iff, Option.pure_def,
        Option.some.injEq] at steps
      rcases steps with ⟨first, firstStep, later, laterSteps, rfl⟩
      rw [List.filterMap_cons_some firstStep, induction laterSteps]

theorem compile_eq_ok {name : String} {definition : Value} {selection : Selection}
    (compiled : compile name definition = .ok selection) :
    List.Forall₂ (fun entries clause => Clause.ofEntries entries = .ok clause)
      (mappings definition) selection := by
  unfold compile at compiled
  unfold mappings
  split at compiled
  · next entries found =>
      rw [found]
      rcases bind_eq_ok_iff.mp compiled with ⟨clause, made, equal⟩
      cases equal
      exact .cons made .nil
  · cases compiled
  · next items _ notMapping isList =>
      split at compiled
      · next maps read =>
          rw [notMapping, isList]
          simp only [ Option.getD_some, filterMap_of_mapM read]
          exact mapM_eq_ok_iff.mp compiled
      · cases compiled
  · cases compiled

end Selection

theorem Clause.forall_isTrueOf_iff {event : SecurityEvent} {entries : List (Value × Value)}
    {clause : Clause} (made : ofEntries entries = .ok clause) :
    (∀ entry ∈ entries, Criterion.IsTrueOf event entry) ↔
      ∀ criterion ∈ clause, criterion.passes (event.fieldValue criterion.field) = .ok true := by
  have related := mapM_eq_ok_iff.mp made
  clear made
  induction related with
  | nil => simp
  | @cons entry criterion _ _ compiled _ induction =>
      rw [List.forall_mem_cons, List.forall_mem_cons]
      refine and_congr ?_ induction
      simp [Criterion.IsTrueOf, compiled]

theorem Selection.holds_iff_mappings {event : SecurityEvent} {name : String} {definition : Value}
    {selection : Selection} {answer : Bool} (compiled : compile name definition = .ok selection)
    (compared : selection.holds event = .ok answer) :
    answer = true ↔ ∃ entries ∈ mappings definition,
      ∀ entry ∈ entries, Criterion.IsTrueOf event entry := by
  rw [holds_eq_ok compared]
  have related := compile_eq_ok compiled
  clear compiled compared
  generalize mappings definition = defining at related
  induction related with
  | nil => simp
  | cons made _ induction =>
      rw [List.exists_mem_cons_iff, List.exists_mem_cons_iff, Clause.forall_isTrueOf_iff made]
      exact or_congr_right induction

namespace BoundRule

theorem compileAll_eq_ok {definitions : Table Value} {selections : Table Selection}
    (compiled : compileAll definitions = .ok selections) :
    selections.keys = definitions.keys ∧ ∀ name selection, selections.get? name = some selection →
      ∃ definition, definitions.get? name = some definition ∧
        Selection.compile name definition = .ok selection := by
  have related := mapM_eq_ok_iff.mp compiled
  clear compiled
  induction related with
  | nil => exact ⟨rfl, fun _ _ found => by cases found⟩
  | @cons entry made _ _ step _ induction =>
      rcases bind_eq_ok_iff.mp step with ⟨selection, compiled, equal⟩
      cases equal
      refine ⟨congrArg (entry.1 :: ·) induction.1, fun name other found => ?_⟩
      unfold Table.get? at found ⊢
      rw [List.lookup_cons] at found ⊢
      cases here : name == entry.1 with
      | true =>
          rw [here] at found
          cases found
          exact ⟨entry.2, rfl, eq_of_beq here ▸ compiled⟩
      | false =>
          rw [here] at found
          exact induction.2 name other found

theorem ofRule_eq_ok {rule : Rule} {bound : BoundRule} (binds : ofRule rule = .ok bound) :
    bound.rule = rule ∧ compileAll rule.definitions = .ok bound.selections ∧
      Condition.parse rule.condition rule.selectionNames = .ok bound.condition := by
  unfold ofRule at binds
  cases prepared : prepare rule with
  | error fault => rw [prepared] at binds; cases binds
  | ok made =>
      rw [prepared] at binds
      cases binds
      rcases bind_eq_ok_iff.mp prepared with ⟨selections, compiled, later⟩
      rcases bind_eq_ok_iff.mp later with ⟨condition, parsed, equal⟩
      cases equal
      exact ⟨rfl, compiled, parsed⟩

theorem ofRule_of_parts {rule : Rule} {selections : Table Selection} {condition : Condition}
    (compiled : compileAll rule.definitions = .ok selections)
    (parsed : Condition.parse rule.condition rule.selectionNames = .ok condition) :
    ofRule rule = .ok ⟨rule, selections, condition⟩ := by
  unfold ofRule prepare
  rw [compiled, parsed]
  rfl

theorem condition_ne_empty {rule : Rule} {bound : BoundRule} (binds : ofRule rule = .ok bound) :
    rule.condition ≠ "" := by
  intro blank
  have parsed := (ofRule_eq_ok binds).2.2
  rw [blank] at parsed
  cases parsed

theorem conditionKey_mem_keys {rule : Rule} {bound : BoundRule} (binds : ofRule rule = .ok bound) :
    Rule.conditionKey ∈ rule.detection.keys := by
  by_contra absent
  refine condition_ne_empty binds ?_
  rw [Rule.condition, Table.get?_eq_none_iff.mpr absent]

theorem keys_selections {rule : Rule} {bound : BoundRule} (binds : ofRule rule = .ok bound) :
    bound.selections.keys = rule.selectionNames :=
  (compileAll_eq_ok (ofRule_eq_ok binds).2.1).1

theorem mem_keys_of_mem_names {rule : Rule} {bound : BoundRule} (binds : ofRule rule = .ok bound)
    {name : String} (mentioned : name ∈ bound.condition.names) : name ∈ bound.selections.keys := by
  rw [keys_selections binds]
  exact (Condition.parse_eq_ok (ofRule_eq_ok binds).2.2).mem_of_mem_names mentioned

/-! ## Outcomes -/

def criteria (bound : BoundRule) : List Criterion :=
  bound.selections.flatMap fun entry => entry.2.flatten

def Answers (bound : BoundRule) (event : SecurityEvent) : Prop :=
  ∀ criterion ∈ bound.criteria, criterion.Answers event

theorem exists_selectionHolds {bound : BoundRule} {event : SecurityEvent}
    (answers : bound.Answers event) (name : String) :
    ∃ answer, bound.selectionHolds event name = .ok answer := by
  unfold selectionHolds
  split
  · next selection found =>
      refine Selection.exists_holds fun clause clauseMember criterion member => ?_
      exact answers criterion (List.mem_flatMap.mpr ⟨_, Table.mem_of_get?_eq_some found,
        List.mem_flatten.mpr ⟨clause, clauseMember, member⟩⟩)
  · exact ⟨false, rfl⟩

theorem selectionHolds_iff {rule : Rule} {bound : BoundRule} (binds : ofRule rule = .ok bound)
    {event : SecurityEvent} {name : String} {answer : Bool}
    (mentioned : name ∈ bound.condition.names)
    (compared : bound.selectionHolds event name = .ok answer) :
    answer = true ↔ rule.IsTrueOf event name := by
  have compiled := compileAll_eq_ok (ofRule_eq_ok binds).2.1
  have present := mem_keys_of_mem_names binds mentioned
  unfold selectionHolds at compared
  split at compared
  · next selection found =>
      rcases compiled.2 name selection found with ⟨definition, defined, made⟩
      rw [Selection.holds_iff_mappings made compared, Rule.IsTrueOf, defined]
      simp
  · next missing => exact absurd present (Table.get?_eq_none_iff.mp missing)

theorem mapM_entries_eq_ok {α : Type} {step : String → Except Fault α} {names : List String}
    {table : Table α}
    (steps : (names.mapM fun name => do return (name, ← step name)) = .ok table) :
    table.keys = names ∧ ∀ name ∈ names, ∃ value, table.get? name = some value ∧
      step name = .ok value := by
  have related := mapM_eq_ok_iff.mp steps
  clear steps
  induction related with
  | nil => exact ⟨rfl, by simp⟩
  | @cons first made _ _ here _ induction =>
      rcases bind_eq_ok_iff.mp here with ⟨value, told, equal⟩
      cases equal
      refine ⟨congrArg (first :: ·) induction.1, fun name member => ?_⟩
      unfold Table.get?
      rw [List.lookup_cons]
      cases same : name == first with
      | true => exact ⟨value, rfl, eq_of_beq same ▸ told⟩
      | false =>
          exact induction.2 name ((List.mem_cons.mp member).resolve_left (ne_of_beq_false same))

theorem outcomes_eq_ok {bound : BoundRule} {event : SecurityEvent} {table : Table Bool}
    (compared : bound.outcomes event = .ok table) :
    table.keys = bound.referenced ∧ ∀ name ∈ bound.condition.names,
      ∃ answer, table.get? name = some answer ∧ bound.selectionHolds event name = .ok answer := by
  rcases mapM_entries_eq_ok compared with ⟨keys, told⟩
  exact ⟨keys, fun name mentioned => told name (List.mem_eraseDups.mpr mentioned)⟩

theorem exists_outcomes {bound : BoundRule} {event : SecurityEvent}
    (answers : bound.Answers event) : ∃ table, bound.outcomes event = .ok table := by
  choose answer told using exists_selectionHolds answers
  have steps : ∀ name ∈ bound.referenced,
      (do return (name, ← bound.selectionHolds event name)) = Except.ok (name, answer name) := by
    intro name _
    rw [told name]
    rfl
  exact ⟨_, mapM_eq_ok steps⟩

theorem keys_filter_snd {table : Table Bool} (nodup : table.keys.Nodup) :
    Table.keys (table.filter Prod.snd) =
      table.keys.filter fun name => (table.get? name).getD false := by
  unfold Table.keys at nodup ⊢
  rw [List.filter_map]
  refine congrArg (List.map Prod.fst) (List.filter_congr fun entry member => ?_)
  rw [Function.comp_apply, Table.get?_eq_some_of_mem nodup member, Option.getD_some]

/-! ## Matching -/

/-- A match in a rule with a condition lists the true selections that the condition
mentions, each once and in the order in which they are first mentioned. -/
structure Lists (rule : Rule) (condition : Condition) (event : SecurityEvent)
    (found : RuleMatch) : Prop where
  rule_eq : found.rule = rule
  mem_iff : ∀ name, name ∈ found.selections ↔ name ∈ condition.names ∧ rule.IsTrueOf event name
  ordered : found.selections.Pairwise fun first second =>
    condition.names.idxOf first < condition.names.idxOf second

section

variable {rule : Rule} {bound : BoundRule} {event : SecurityEvent} {table : Table Bool}

theorem answer_iff (binds : ofRule rule = .ok bound) (compared : bound.outcomes event = .ok table)
    {name : String} (mentioned : name ∈ bound.condition.names) :
    (table.get? name).getD false = true ↔ rule.IsTrueOf event name := by
  rcases (outcomes_eq_ok compared).2 name mentioned with ⟨answer, found, held⟩
  rw [found, Option.getD_some, selectionHolds_iff binds mentioned held]

theorem lists_of_outcomes (binds : ofRule rule = .ok bound)
    (compared : bound.outcomes event = .ok table) :
    Lists rule bound.condition event ⟨bound.rule, Table.keys (table.filter Prod.snd)⟩ := by
  have keys := (outcomes_eq_ok compared).1
  have nodup : table.keys.Nodup := keys ▸ nodup_eraseDups bound.condition.names
  have selected := keys_filter_snd nodup
  rw [keys] at selected
  refine ⟨(ofRule_eq_ok binds).1, fun name => ?_, ?_⟩
  · rw [selected, List.mem_filter, referenced, List.mem_eraseDups]
    exact and_congr_right (answer_iff binds compared)
  · rw [selected]
    exact (pairwise_idxOf_eraseDups _).filter _

theorem matchEvent_of_outcomes (compared : bound.outcomes event = .ok table) :
    bound.matchEvent event =
      .ok (if bound.condition.evaluate fun name => (table.get? name).getD false then
        some ⟨bound.rule, Table.keys (table.filter Prod.snd)⟩ else none) := by
  unfold matchEvent
  rw [compared]
  exact (apply_ite _ _ _ _).symm

/-- An event that can be compared with all criteria of a bound rule matches it just
when the condition is true of the event, and the match lists what is true. Whatever
the evaluation asks for has been compiled and compared. -/
theorem matchEvent_means (binds : ofRule rule = .ok bound) (answers : bound.Answers event) :
    ∃ table outcome, bound.outcomes event = .ok table ∧ bound.matchEvent event = .ok outcome ∧
      (outcome.isSome = true ↔
        bound.condition.Means rule.selectionNames (rule.IsTrueOf event)) ∧
      (∀ found ∈ outcome, Lists rule bound.condition event found) ∧
      (∀ name ∈ bound.referenced, name ∈ bound.selections.keys) ∧
      ∀ holds, ∀ name ∈ bound.condition.consulted holds, name ∈ table.keys := by
  rcases exists_outcomes answers with ⟨table, compared⟩
  have isOver := Condition.parse_eq_ok (ofRule_eq_ok binds).2.2
  have means := Condition.evaluate_iff_means isOver fun name => answer_iff binds compared
  refine ⟨table, _, compared, matchEvent_of_outcomes compared, ?_, fun found member => ?_,
    fun name member => ?_, fun holds name asked => ?_⟩
  · rw [← means]
    split <;> simp_all
  · split at member
    · cases member
      exact lists_of_outcomes binds compared
    · cases member
  · exact mem_keys_of_mem_names binds (List.mem_eraseDups.mp member)
  · rw [(outcomes_eq_ok compared).1]
    exact List.mem_eraseDups.mpr (Condition.consulted_subset holds bound.condition asked)

end

end BoundRule

theorem Rule.matchEvent_of_binds {rule : Rule} {bound : BoundRule}
    (binds : BoundRule.ofRule rule = .ok bound) (event : SecurityEvent) :
    rule.matchEvent event = bound.matchEvent event := by
  rw [matchEvent, binds]

def Rule.administration : Rule where
  id := "r1"
  title := "Administration"
  level := "low"
  status := .stable
  description := ""
  logSource := {}
  author := none
  date := none
  tags := []
  falsePositives := []
  references := []
  file := none
  detection := [
    ("sel_user", .sealed [(.text "user", .text "admin")]),
    ("sel_action", .sealed [(.text "action", .text "login")]),
    ("quiet", .sealed [(.text "host|startswith", .text "lab")]),
    ("condition", .text "1 of sel_* and not quiet")]

def BoundRule.administration : BoundRule where
  rule := .administration
  selections := [
    ("sel_user", [[⟨"user", "user", .equals, false, [(.text "admin", .same (.text "admin"))]⟩]]),
    ("sel_action", [[⟨"action", "action", .equals, false,
      [(.text "login", .same (.text "login"))]⟩]]),
    ("quiet", [[⟨"host|startswith", "host", .startsWith, false,
      [(.text "lab", .placed .atStart (.text "lab"))]⟩]])]
  condition := .both (.atLeast 1 ["sel_user", "sel_action"] "sel_*") (.negation (.selection "quiet"))

def SecurityEvent.changeByAdmin : SecurityEvent where
  id := "e1"
  timestamp := ⟨0, by decide, none⟩
  source := "sshd"
  severity := .low
  category := "process"
  description := ""
  host := "ws-1"
  metadata := [("user", .text "admin"), ("action", .text "change")]

namespace BoundRule

theorem ofRule_administration : ofRule .administration = .ok .administration := by
  rfl

theorem answers_administration : administration.Answers .changeByAdmin := by
  intro criterion member
  simp only [criteria, administration, List.flatMap_cons, List.flatMap_nil, List.flatten_cons,
    List.flatten_nil, List.append_nil, List.mem_append, List.mem_singleton] at member
  rcases member with rfl | rfl | rfl
  · exact ⟨true, rfl⟩
  · exact ⟨false, rfl⟩
  · exact ⟨false, rfl⟩

theorem change_by_admin_matches :
    ofRule .administration = .ok .administration ∧ administration.Answers .changeByAdmin ∧
      (∃ found, administration.matchEvent .changeByAdmin = .ok (some found) ∧
        found.selections = ["sel_user"]) ∧
      ∃ table outcome, administration.outcomes .changeByAdmin = .ok table ∧
        administration.matchEvent .changeByAdmin = .ok outcome ∧
        (outcome.isSome = true ↔ administration.condition.Means
          Rule.administration.selectionNames (Rule.administration.IsTrueOf .changeByAdmin)) ∧
        (∀ found ∈ outcome,
          Lists .administration administration.condition .changeByAdmin found) ∧
        (∀ name ∈ administration.referenced, name ∈ administration.selections.keys) ∧
        ∀ holds, ∀ name ∈ administration.condition.consulted holds, name ∈ table.keys :=
  ⟨ofRule_administration, answers_administration, ⟨_, rfl, rfl⟩,
    matchEvent_means ofRule_administration answers_administration⟩

end BoundRule

end ThreatWatch
