import ThreatWatch.Proofs.Comparing
import ThreatWatch.Proofs.Orders
import ThreatWatch.Proofs.Regrouping

/-! Rules written in another order. The selections of a rule, the entries of a mapping,
the clauses of a list and the expected values of an entry can each be written in any
order: the rule is bound all the same, and comparing an event with it comes to the same
answer with the same selections wherever both orders come to one. -/

namespace ThreatWatch

/-! ## Criteria -/

namespace Criterion

def Reorders (entry other : Value × Value) : Prop :=
  entry.1 = other.1 ∧ (expectedValues entry.2).Perm (expectedValues other.2)

/-- Criteria of the same field that make the same tests in some order. -/
structure Alike (criterion other : Criterion) : Prop where
  field_eq : criterion.field = other.field
  requireAll_eq : criterion.requireAll = other.requireAll
  perm : criterion.tests.Perm other.tests

theorem Alike.refl (criterion : Criterion) : criterion.Alike criterion :=
  ⟨rfl, rfl, .refl _⟩

theorem exists_compile {entry other : Value × Value} {criterion : Criterion}
    (reorders : Reorders entry other) (compiled : compile entry.1 entry.2 = .ok criterion) :
    ∃ made, compile other.1 other.2 = .ok made ∧ criterion.Alike made := by
  rcases reorders with ⟨sameKey, perm⟩
  rcases bind_eq_ok_iff.mp compiled with ⟨key, shown, afterKey⟩
  rcases bind_eq_ok_iff.mp afterKey with ⟨shownKey, quoted, afterQuoted⟩
  rcases bind_eq_ok_iff.mp afterQuoted with ⟨⟨operator, requireAll⟩, read, afterRead⟩
  rcases bind_eq_ok_iff.mp afterRead with ⟨tests, prepared, equal⟩
  cases equal
  rcases (Rearranged.of_perm perm).mapM_eq_ok prepared
    (fun _ _ test same step => ⟨test, same ▸ step, rfl⟩) with ⟨others, otherPrepared, arranged⟩
  refine ⟨⟨key, (SelectionKey.ofText key).field, operator, requireAll, others⟩, ?_,
    ⟨rfl, rfl, arranged.perm⟩⟩
  unfold compile
  rw [← sameKey, shown, quoted]
  simp only [bind, Except.bind] at otherPrepared ⊢
  rw [read]
  simp only [otherPrepared]
  rfl

theorem anyPasses_eq_search (actual : Value) (tests : List (Value × ValueTest)) :
    anyPasses actual tests = search true (tests.map fun test => test.2.passes actual) := by
  induction tests with
  | nil => rfl
  | cons test rest induction =>
      rw [anyPasses, List.map_cons, search, induction]

theorem allPass_eq_search (actual : Value) (tests : List (Value × ValueTest)) :
    allPass actual tests = search false (tests.map fun test => test.2.passes actual) := by
  induction tests with
  | nil => rfl
  | cons test rest induction =>
      rw [allPass, List.map_cons, search, induction]
      refine bind_congr fun answer => ?_
      cases answer <;> rfl

theorem Alike.agree {criterion other : Criterion} (alike : criterion.Alike other)
    (actual : Value) : Agree (criterion.passes actual) (other.passes actual) := by
  have arranged : Rearranged Agree (criterion.tests.map fun test => test.2.passes actual)
      (other.tests.map fun test => test.2.passes actual) :=
    (Rearranged.of_perm alike.perm).map fun _ _ same => same ▸ .refl _
  unfold passes
  rw [(Rearranged.of_perm alike.perm).isEmpty_eq, alike.requireAll_eq, anyPasses_eq_search, anyPasses_eq_search,
    allPass_eq_search, allPass_eq_search]
  split
  · exact .refl _
  · split
    · exact arranged.agree_search false
    · exact arranged.agree_search true

end Criterion

/-! ## Selections -/

theorem Clause.holds_eq_search (event : SecurityEvent) (clause : Clause) :
    clause.holds event = search false
      (clause.map fun criterion => criterion.passes (event.fieldValue criterion.field)) := by
  induction clause with
  | nil => rfl
  | cons criterion rest induction =>
      rw [holds, List.map_cons, search, induction]
      refine bind_congr fun answer => ?_
      cases answer <;> rfl

namespace Selection

theorem holds_eq_search (event : SecurityEvent) (selection : Selection) :
    selection.holds event = search true (selection.map (Clause.holds event)) := by
  induction selection with
  | nil => rfl
  | cons clause rest induction => rw [holds, List.map_cons, search, induction]

/-- Selections with the same clauses in some order, each with the same criteria in some
order. -/
def Alike (selection other : Selection) : Prop :=
  Rearranged (Rearranged Criterion.Alike) selection other

theorem Alike.agree {selection other : Selection} (alike : selection.Alike other)
    (event : SecurityEvent) : Agree (selection.holds event) (other.holds event) := by
  rw [holds_eq_search, holds_eq_search]
  refine Rearranged.agree_search (Rearranged.map alike fun clause otherClause clauses => ?_) true
  rw [Clause.holds_eq_search, Clause.holds_eq_search]
  refine Rearranged.agree_search (clauses.map fun criterion partner criteria => ?_) false
  rw [criteria.field_eq]
  exact criteria.agree _

def mappingsOf? (definition : Value) : Option (List (List (Value × Value))) :=
  definition.items?.bind fun items => items.mapM entriesOf?

/-- The definition of a selection written in another order. -/
inductive Reorders : Value → Value → Prop where
  | same (definition : Value) : Reorders definition definition
  | mapping {definition other : Value} {entries others : List (Value × Value)}
      (written : entriesOf? definition = some entries)
      (otherWritten : entriesOf? other = some others)
      (arranged : Rearranged Criterion.Reorders entries others) : Reorders definition other
  | clauses {definition other : Value} {mappings others : List (List (Value × Value))}
      (written : mappingsOf? definition = some mappings)
      (otherWritten : mappingsOf? other = some others)
      (arranged : Rearranged (Rearranged Criterion.Reorders) mappings others) :
      Reorders definition other

theorem Alike.refl (selection : Selection) : selection.Alike selection :=
  Rearranged.refl (Rearranged.refl Criterion.Alike.refl) selection

theorem exists_ofEntries {entries others : List (Value × Value)} {clause : Clause}
    (arranged : Rearranged Criterion.Reorders entries others)
    (made : Clause.ofEntries entries = .ok clause) :
    ∃ other, Clause.ofEntries others = .ok other ∧ Rearranged Criterion.Alike clause other :=
  arranged.mapM_eq_ok made fun _ _ _ => Criterion.exists_compile

theorem compile_of_mappingsOf? {definition : Value} {mappings : List (List (Value × Value))}
    (written : mappingsOf? definition = some mappings) (name : String) :
    compile name definition =
      if mappings.isEmpty then .error (.ofCause (.emptySelection name))
      else mappings.mapM Clause.ofEntries := by
  rcases Option.bind_eq_some_iff.mp written with ⟨items, isList, read⟩
  have notMapping : entriesOf? definition = none := by
    cases definition <;> first | rfl | cases isList
  unfold compile
  rw [notMapping, isList]
  cases items with
  | nil =>
      cases read
      rfl
  | cons item rest =>
      have steps := read
      simp only [List.mapM_cons, Option.bind_eq_bind, Option.bind_eq_some_iff, Option.pure_def,
        Option.some.injEq] at steps
      rcases steps with ⟨first, _, later, _, rfl⟩
      simp only [read, List.isEmpty_cons, Bool.false_eq_true, if_false]

theorem exists_compile {name : String} {definition other : Value} {selection : Selection}
    (reorders : Reorders definition other) (compiled : compile name definition = .ok selection) :
    ∃ made, compile name other = .ok made ∧ selection.Alike made := by
  cases reorders with
  | same => exact ⟨selection, compiled, .refl selection⟩
  | mapping written otherWritten arranged =>
      unfold compile at compiled ⊢
      rw [written] at compiled
      rw [otherWritten]
      rcases bind_eq_ok_iff.mp compiled with ⟨clause, made, equal⟩
      cases equal
      rcases exists_ofEntries arranged made with ⟨otherClause, otherMade, alike⟩
      refine ⟨[otherClause], ?_, [clause], .refl _, .cons alike .nil⟩
      simp only [otherMade]
      rfl
  | clauses written otherWritten arranged =>
      rw [compile_of_mappingsOf? written] at compiled
      rw [compile_of_mappingsOf? otherWritten, ← arranged.isEmpty_eq]
      split at compiled
      · cases compiled
      · next nonempty =>
          rw [if_neg nonempty]
          exact arranged.mapM_eq_ok compiled fun _ _ _ => exists_ofEntries

end Selection

/-! ## Rules -/

def Rule.ReordersEntry (entry other : String × Value) : Prop :=
  entry.1 = other.1 ∧ Selection.Reorders entry.2 other.2

/-- The rule written in another order: of its selections, of the entries of each mapping,
of the clauses of each list and of the expected values of each entry. -/
structure Rule.Reorders (rule other : Rule) : Prop where
  remaining : other = { rule with detection := other.detection }
  detection : Rearranged ReordersEntry rule.detection other.detection

theorem Rearranged.keys_perm {α β : Type} {related : String × α → String × β → Prop}
    {table : Table α} {other : Table β} (arranged : Rearranged related table other)
    (sameKeys : ∀ entry partner, related entry partner → entry.1 = partner.1) :
    table.keys.Perm other.keys :=
  (arranged.map sameKeys).perm

theorem Rearranged.exists_get? {α β : Type} {related : String × α → String × β → Prop}
    {table : Table α} {other : Table β} (arranged : Rearranged related table other)
    (sameKeys : ∀ entry partner, related entry partner → entry.1 = partner.1)
    (nodup : table.keys.Nodup) {name : String} {value : α} (found : table.get? name = some value) :
    ∃ partner, other.get? name = some partner ∧ related (name, value) (name, partner) := by
  rcases arranged.exists_left (Table.mem_of_get?_eq_some found) with ⟨partner, member, here⟩
  have nodupOther := (arranged.keys_perm sameKeys).nodup_iff.mp nodup
  have sameKey := sameKeys _ _ here
  refine ⟨partner.2, ?_, ?_⟩
  · have there := Table.get?_eq_some_of_mem nodupOther member
    rwa [← sameKey] at there
  · have whole : partner = (name, partner.2) := Prod.ext sameKey.symm rfl
    rwa [whole] at here

namespace Rule.Reorders

variable {rule other : Rule}

theorem selectionNames_perm (reorders : rule.Reorders other) :
    rule.selectionNames.Perm other.selectionNames := by
  rw [selectionNames_eq, selectionNames_eq]
  exact (reorders.detection.keys_perm fun _ _ => And.left).filter _

theorem definitions (reorders : rule.Reorders other) :
    Rearranged ReordersEntry rule.definitions other.definitions :=
  reorders.detection.filter fun entry partner same => by rw [same.1]

theorem condition_eq (reorders : rule.Reorders other) (nodup : rule.detection.keys.Nodup)
    (written : rule.condition ≠ "") : other.condition = rule.condition := by
  unfold condition at written ⊢
  split at written
  · next content found =>
      rcases reorders.detection.exists_get? (fun _ _ => And.left) nodup found with
        ⟨partner, otherFound, _, reordersText⟩
      rw [otherFound]
      cases reordersText with
      | same => rfl
      | mapping impossible => cases impossible
      | clauses impossible => cases impossible
  · exact absurd rfl written

end Rule.Reorders

/-! ## Bound rules -/

namespace BoundRule

/-- Whether an event can be compared with every expected value of a bound rule, so that
no order of comparing them fails. -/
def ComparesAll (bound : BoundRule) (event : SecurityEvent) : Prop :=
  ∀ criterion ∈ bound.criteria, ∀ test ∈ criterion.tests,
    ∃ answer, test.2.passes (event.fieldValue criterion.field) = .ok answer

/-- Bound rules with like selections in some order, and with one condition read among
the names of either. -/
structure Alike (bound other : BoundRule) : Prop where
  selections : Rearranged (fun entry partner => entry.1 = partner.1 ∧
    Selection.Alike entry.2 partner.2) bound.selections other.selections
  condition : other.condition = bound.condition.onNames other.selections.keys

theorem exists_compileAll {definitions others : Table Value} {selections : Table Selection}
    (arranged : Rearranged Rule.ReordersEntry definitions others)
    (compiled : compileAll definitions = .ok selections) :
    ∃ made, compileAll others = .ok made ∧ Rearranged (fun entry partner => entry.1 = partner.1 ∧
      Selection.Alike entry.2 partner.2) selections made := by
  refine arranged.mapM_eq_ok compiled fun entry partner result same step => ?_
  rcases bind_eq_ok_iff.mp step with ⟨selection, made, equal⟩
  cases equal
  rcases Selection.exists_compile same.2 made with ⟨partnerSelection, partnerMade, alike⟩
  rw [same.1] at partnerMade
  exact ⟨(partner.1, partnerSelection), by rw [partnerMade]; rfl, same.1, alike⟩

theorem exists_ofRule {rule other : Rule} {bound : BoundRule} (reorders : rule.Reorders other)
    (nodup : rule.detection.keys.Nodup) (binds : ofRule rule = .ok bound) :
    ∃ made, ofRule other = .ok made ∧ bound.Alike made := by
  rcases ofRule_eq_ok binds with ⟨_, compiled, parsed⟩
  rcases exists_compileAll reorders.definitions compiled with ⟨selections, otherCompiled, arranged⟩
  have isOver := Condition.parse_eq_ok parsed
  have known (name : String) (mentioned : name ∈ bound.condition.names) :
      name ∈ other.selectionNames :=
    reorders.selectionNames_perm.mem_iff.mp (isOver.mem_of_mem_names mentioned)
  have otherParsed := Condition.parse_onNames parsed known
  rw [← reorders.condition_eq nodup (condition_ne_empty binds)] at otherParsed
  refine ⟨_, ofRule_of_parts otherCompiled otherParsed, arranged, ?_⟩
  rw [(compileAll_eq_ok otherCompiled).1, Rule.selectionNames]

section

variable {bound other : BoundRule} {event : SecurityEvent}

theorem Alike.agree_selectionHolds (alike : bound.Alike other) (nodup : bound.selections.keys.Nodup)
    (event : SecurityEvent) {name : String} (known : name ∈ bound.selections.keys) :
    Agree (bound.selectionHolds event name) (other.selectionHolds event name) := by
  unfold selectionHolds
  cases found : bound.selections.get? name with
  | none => exact absurd known (Table.get?_eq_none_iff.mp found)
  | some selection =>
      rcases alike.selections.exists_get? (fun _ _ => And.left) nodup found with
        ⟨partner, otherFound, _, selections⟩
      rw [otherFound]
      exact selections.agree event

theorem Alike.rel_matchEvent (alike : bound.Alike other)
    (isOver : bound.condition.IsOver bound.selections.keys)
    (nodup : bound.selections.keys.Nodup) {outcome otherOutcome : Option RuleMatch}
    (compared : bound.matchEvent event = .ok outcome)
    (otherCompared : other.matchEvent event = .ok otherOutcome) :
    Option.Rel (fun found partner => found.selections.Perm partner.selections)
      outcome otherOutcome := by
  rcases bind_eq_ok_iff.mp compared with ⟨table, told, _⟩
  rcases bind_eq_ok_iff.mp otherCompared with ⟨otherTable, otherTold, _⟩
  rw [matchEvent_of_outcomes told] at compared
  rw [matchEvent_of_outcomes otherTold] at otherCompared
  have perm := alike.selections.keys_perm fun _ _ => And.left
  have names := Condition.names_onNames_perm perm isOver
  rw [← alike.condition] at names
  have same (name : String) (mentioned : name ∈ bound.condition.names) :
      (table.get? name).getD false = (otherTable.get? name).getD false := by
    rcases (outcomes_eq_ok told).2 name mentioned with ⟨answer, found, held⟩
    rcases (outcomes_eq_ok otherTold).2 name (names.mem_iff.mp mentioned) with
      ⟨otherAnswer, otherFound, otherHeld⟩
    rw [found, otherFound]
    exact alike.agree_selectionHolds nodup event (isOver.mem_of_mem_names mentioned) _ _
      held otherHeld
  have evaluates := Condition.evaluate_onNames perm isOver same
  rw [← alike.condition] at evaluates
  rw [evaluates] at compared
  cases compared
  cases otherCompared
  split
  · have keys := (outcomes_eq_ok told).1
    have otherKeys := (outcomes_eq_ok otherTold).1
    have kept : bound.referenced.filter (fun name => (table.get? name).getD false) =
        bound.referenced.filter fun name => (otherTable.get? name).getD false :=
      List.filter_congr fun name member => same name (List.mem_eraseDups.mp member)
    refine .some ?_
    rw [keys_filter_snd (keys ▸ nodup_eraseDups _), keys, kept,
      keys_filter_snd (otherKeys ▸ nodup_eraseDups _), otherKeys]
    exact (eraseDups_perm names).filter _
  · exact .none

theorem Alike.exists_criterion (alike : bound.Alike other) {criterion : Criterion}
    (member : criterion ∈ other.criteria) : ∃ partner ∈ bound.criteria, partner.Alike criterion := by
  rcases List.mem_flatMap.mp member with ⟨entry, entryMember, inEntry⟩
  rcases List.mem_flatten.mp inEntry with ⟨clause, clauseMember, inClause⟩
  rcases alike.selections.exists_right entryMember with ⟨partnerEntry, partnerMember, _, selections⟩
  rcases Rearranged.exists_right selections clauseMember with ⟨partnerClause, inSelection, clauses⟩
  rcases clauses.exists_right inClause with ⟨partner, inPartner, criteria⟩
  exact ⟨partner, List.mem_flatMap.mpr ⟨partnerEntry, partnerMember,
    List.mem_flatten.mpr ⟨partnerClause, inSelection, inPartner⟩⟩, criteria⟩

theorem answers_of_comparesAll (compares : bound.ComparesAll event) : bound.Answers event :=
  fun criterion member => Criterion.exists_passes (compares criterion member)

theorem Alike.comparesAll (alike : bound.Alike other) (compares : bound.ComparesAll event) :
    other.ComparesAll event := by
  intro criterion member test inTests
  rcases alike.exists_criterion member with ⟨partner, partnerMember, criteria⟩
  rw [← criteria.field_eq]
  exact compares partner partnerMember test (criteria.perm.mem_iff.mpr inTests)

end

/-- The order in which a rule is written makes no difference to what it detects. Where
no criterion fails both orders come to an answer, and wherever both do it is the same
one with the same selections; none fails in either order of an event that can be
compared with every expected value. -/
theorem ofRule_reordered {rule other : Rule} {bound : BoundRule} (reorders : rule.Reorders other)
    (nodup : rule.detection.keys.Nodup) (binds : ofRule rule = .ok bound) :
    ∃ made, ofRule other = .ok made ∧ ∀ event,
      (∀ outcome otherOutcome, bound.matchEvent event = .ok outcome →
        made.matchEvent event = .ok otherOutcome →
        Option.Rel (fun found partner => found.selections.Perm partner.selections)
          outcome otherOutcome) ∧
      (bound.Answers event → made.Answers event → ∃ outcome otherOutcome,
        bound.matchEvent event = .ok outcome ∧ made.matchEvent event = .ok otherOutcome) ∧
      (bound.ComparesAll event → bound.Answers event ∧ made.Answers event) := by
  rcases exists_ofRule reorders nodup binds with ⟨made, otherBinds, alike⟩
  have names := keys_selections binds
  have isOver := Condition.parse_eq_ok (ofRule_eq_ok binds).2.2
  rw [← names] at isOver
  have nodupNames : bound.selections.keys.Nodup := by
    rw [names, Rule.selectionNames_eq]
    exact nodup.filter _
  refine ⟨made, otherBinds, fun event => ⟨fun outcome otherOutcome compared otherCompared => ?_,
    fun answers otherAnswers => ?_, fun compares => ?_⟩⟩
  · exact alike.rel_matchEvent isOver nodupNames compared otherCompared
  · rcases exists_outcomes answers with ⟨table, told⟩
    rcases exists_outcomes otherAnswers with ⟨otherTable, otherTold⟩
    exact ⟨_, _, matchEvent_of_outcomes told, matchEvent_of_outcomes otherTold⟩
  · exact ⟨answers_of_comparesAll compares, answers_of_comparesAll (alike.comparesAll compares)⟩

end BoundRule

def Rule.watchedLogins : Rule where
  id := "r2"
  title := "Watched logins"
  level := "low"
  status := .stable
  description := ""
  logSource := {}
  author := none
  date := none
  tags := []
  falsePositives := []
  references := []
  file := none
  detection := [
    ("login", .tuple [
      .sealed [(.text "user", .tuple [.text "admin", .text "root"]), (.text "action", .text "login")],
      .sealed [(.text "host", .text "ws-1")]]),
    ("quiet", .sealed [(.text "host|startswith", .text "lab")]),
    ("condition", .text "1 of log* and not quiet")]

def Rule.watchedLoginsBackwards : Rule :=
  { watchedLogins with
    detection := [
      ("condition", .text "1 of log* and not quiet"),
      ("quiet", .sealed [(.text "host|startswith", .text "lab")]),
      ("login", .tuple [
        .sealed [(.text "host", .text "ws-1")],
        .sealed [(.text "action", .text "login"),
          (.text "user", .tuple [.text "root", .text "admin"])]])] }

theorem Rule.reorders_watchedLogins : watchedLogins.Reorders watchedLoginsBackwards := by
  have users : Criterion.Reorders (.text "user", .tuple [.text "admin", .text "root"])
      (.text "user", .tuple [.text "root", .text "admin"]) := ⟨rfl, .swap _ _ _⟩
  have entries : Rearranged Criterion.Reorders
      [(.text "user", .tuple [.text "admin", .text "root"]), (.text "action", .text "login")]
      [(.text "action", .text "login"), (.text "user", .tuple [.text "root", .text "admin"])] :=
    .of_reverse (.cons ⟨rfl, .refl _⟩ (.cons users .nil))
  have host : Rearranged Criterion.Reorders [(.text "host", .text "ws-1")]
      [(.text "host", .text "ws-1")] := .refl (fun _ => ⟨rfl, .refl _⟩) _
  refine ⟨rfl, .of_reverse (.cons ⟨rfl, .same _⟩ (.cons ⟨rfl, .same _⟩ (.cons ⟨rfl, ?_⟩ .nil)))⟩
  exact .clauses rfl rfl (.of_reverse (.cons host (.cons entries .nil)))

namespace BoundRule

theorem watched_logins_in_either_order :
    Rule.watchedLogins.Reorders .watchedLoginsBackwards ∧
      Rule.watchedLogins.detection.keys.Nodup ∧
      ∃ bound, ofRule .watchedLogins = .ok bound ∧
        ∃ made, ofRule .watchedLoginsBackwards = .ok made ∧ ∀ event,
          (∀ outcome otherOutcome, bound.matchEvent event = .ok outcome →
            made.matchEvent event = .ok otherOutcome →
            Option.Rel (fun found partner => found.selections.Perm partner.selections)
              outcome otherOutcome) ∧
          (bound.Answers event → made.Answers event → ∃ outcome otherOutcome,
            bound.matchEvent event = .ok outcome ∧ made.matchEvent event = .ok otherOutcome) ∧
          (bound.ComparesAll event → bound.Answers event ∧ made.Answers event) := by
  have nodup : Rule.watchedLogins.detection.keys.Nodup := by decide
  have binds : ∃ bound, ofRule .watchedLogins = .ok bound := ⟨_, rfl⟩
  rcases binds with ⟨bound, binds⟩
  exact ⟨Rule.reorders_watchedLogins, nodup, bound, binds,
    ofRule_reordered Rule.reorders_watchedLogins nodup binds⟩

end BoundRule

end ThreatWatch
