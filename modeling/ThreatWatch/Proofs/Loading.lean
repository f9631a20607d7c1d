import Mathlib.Data.List.ReduceOption
import ThreatWatch.Detection.RuleSet
import ThreatWatch.Proofs.Binding

/-! What a bad rule does to others. A rule that cannot be bound matches nothing and can
be left out of any list of rules; a rule set that is loaded with it holds all other
rules that take part, in order, and a report of the one that could not be bound. -/

namespace ThreatWatch

/-! ## Rules from files -/

namespace Rule

theorem isRead_of_fromText {reader : Document.Reader} {content : String} {file : Option String}
    {rule : Rule} (read : fromText reader content file = .ok rule) : rule.IsRead := by
  unfold fromText at read
  split at read
  · next document _ => exact ⟨document, file, read⟩
  · cases read
  · cases read

theorem isRead_of_fromFile {reader : Document.Reader} {file : RuleFile} {rule : Rule}
    (given : fromFile reader file = .ok (.inl rule)) : rule.IsRead := by
  unfold fromFile at given
  split at given
  · cases given
  · split at given
    · next read =>
        cases given
        exact isRead_of_fromText read
    · cases given
    · cases given

theorem isRead_of_fromFiles {reader : Document.Reader} {files : List RuleFile}
    {collection : Collection} (read : fromFiles reader files = .ok collection) :
    ∀ rule ∈ collection.rules, rule.IsRead := by
  intro rule member
  rcases bind_eq_ok_iff.mp read with ⟨outcomes, told, equal⟩
  cases equal
  rcases List.mem_filterMap.mp member with ⟨outcome, outcomeMember, isRule⟩
  rcases exists_of_mem_of_mapM_eq_ok told outcomeMember with ⟨file, _, given⟩
  rw [Sum.getLeft?_eq_some_iff.mp isRule] at given
  exact isRead_of_fromFile given

end Rule

namespace RuleSet

theorem isRead_of_loadRoot {tree : FileTree} {root : Value} {collection : Rule.Collection}
    (loaded : loadRoot tree root = .ok collection) : ∀ rule ∈ collection.rules, rule.IsRead := by
  unfold loadRoot at loaded
  split at loaded
  · exact Rule.isRead_of_fromFiles loaded
  · cases loaded
    simp
  · cases loaded
    simp
  · cases loaded
    simp
  · cases loaded

theorem isRead_of_loadRoots {tree : FileTree} {roots : List Value} {collection : Rule.Collection}
    (loaded : loadRoots tree roots = .ok collection) : ∀ rule ∈ collection.rules, rule.IsRead := by
  induction roots generalizing collection with
  | nil =>
      cases loaded
      simp
  | cons root rest induction =>
      unfold loadRoots at loaded
      dsimp only at loaded
      split at loaded
      · rcases bind_eq_ok_iff.mp loaded with ⟨first, here, afterFirst⟩
        rcases bind_eq_ok_iff.mp afterFirst with ⟨others, there, equal⟩
        cases equal
        exact List.forall_mem_append.mpr ⟨isRead_of_loadRoot here, induction there⟩
      · rcases bind_eq_ok_iff.mp loaded with ⟨first, here, afterFirst⟩
        rcases bind_eq_ok_iff.mp afterFirst with ⟨others, there, equal⟩
        cases here
        cases equal
        exact fun rule member => induction there rule member

end RuleSet

/-! ## Matching without a bad rule -/

namespace Rule

theorem matchEvent_eq_none {rule : Rule} {fault : RuleFault}
    (failed : BoundRule.ofRule rule = .error (.rule fault)) (event : SecurityEvent) :
    rule.matchEvent event = .ok none := by
  rw [matchEvent, failed]

theorem matchEach_remove {rule : Rule ⊕ BoundRule} {event : SecurityEvent}
    (silent : matchEither event rule = .ok none) (before after : List (Rule ⊕ BoundRule)) :
    matchEach (before ++ rule :: after) event = matchEach (before ++ after) event := by
  unfold matchEach
  rw [List.mapM_append, List.mapM_append, List.mapM_cons, silent]
  cases before.mapM (matchEither event) with
  | error fault => rfl
  | ok found =>
      cases after.mapM (matchEither event) with
      | error fault => rfl
      | ok others =>
          simp [bind, Except.bind, pure, Except.pure, List.reduceOption_append,
            List.reduceOption_cons_of_none]

end Rule

/-! ## Loading with bad rules -/

theorem NameFilter.exists_passes {value : Value} (written : ∃ text, value.shown = .ok text)
    (filter : NameFilter) : ∃ answer, filter.passes value = .ok answer := by
  rcases written with ⟨text, written⟩
  unfold passes
  split
  · unfold nameOf Value.shownOrEmpty
    rw [written]
    split <;> exact ⟨_, rfl⟩
  · exact ⟨true, rfl⟩

namespace DetectionSettings

theorem exists_accepts {rule : Rule}
    (product : ∃ text, rule.logSource.product.shown = .ok text)
    (category : ∃ text, rule.logSource.category.shown = .ok text) (settings : DetectionSettings) :
    ∃ answer, settings.accepts rule = .ok answer := by
  have level : (Value.text rule.level).shown = .ok rule.level := rfl
  rcases settings.severities.exists_passes ⟨_, level⟩ with ⟨ofLevel, levelTold⟩
  rcases settings.products.exists_passes product with ⟨ofProduct, productTold⟩
  unfold accepts
  split
  · exact ⟨false, rfl⟩
  · rw [levelTold, productTold]
    cases ofLevel with
    | false => exact ⟨false, rfl⟩
    | true =>
        cases ofProduct with
        | false => exact ⟨false, rfl⟩
        | true => exact settings.categories.exists_passes category

def admitted (settings : DetectionSettings) (rules : List Rule) : List Rule :=
  rules.filter fun rule => (settings.accepts rule).toOption = some true

section

variable {settings : DetectionSettings}

theorem mem_admitted_iff {rules : List Rule} {rule : Rule} :
    rule ∈ settings.admitted rules ↔ rule ∈ rules ∧ settings.accepts rule = .ok true := by
  rw [admitted, List.mem_filter, decide_eq_true_eq, toOption_eq_some_iff]

theorem length_admitted_le (rules : List Rule) :
    (settings.admitted rules).length ≤ rules.length :=
  List.length_filter_le _ _

theorem admitted_append (first rest : List Rule) :
    settings.admitted (first ++ rest) = settings.admitted first ++ settings.admitted rest :=
  List.filter_append _ _

theorem admitted_singleton {rule : Rule} {answer : Bool}
    (told : settings.accepts rule = .ok answer) :
    settings.admitted [rule] = if answer then [rule] else [] := by
  cases answer <;> simp [admitted, told, Except.toOption]

end

end DetectionSettings

namespace RuleSet

def report? (rule : Rule) : Option String :=
  match BoundRule.ofRule rule with
  | .error (.rule fault) => some (placeOf rule ++ ": " ++ fault.message)
  | _ => none

/-- A rule set with more rules behind those that are there: the admitted ones that can be
bound, and the reports of those that cannot. -/
def extended (settings : DetectionSettings) (set : RuleSet) (candidates : List Rule) : RuleSet where
  rules := set.rules ++
    (settings.admitted candidates).filterMap fun rule => (BoundRule.ofRule rule).toOption
  errors := set.errors ++ (settings.admitted candidates).filterMap report?
  scanned := set.scanned + candidates.length
  skipped := set.skipped + (candidates.length - (settings.admitted candidates).length)

/-- Whether a candidate can be loaded: the settings tell whether it takes part, and if it
does it can be bound or else this is a fault of the rule. -/
def Loads (settings : DetectionSettings) (rule : Rule) : Prop :=
  ∃ answer, settings.accepts rule = .ok answer ∧
    (answer = true → (∃ bound, BoundRule.ofRule rule = .ok bound) ∨
      ∃ fault, BoundRule.ofRule rule = .error (.rule fault))

section

variable {settings : DetectionSettings}

theorem extended_nil (set : RuleSet) : set.extended settings [] = set := by
  simp [extended, DetectionSettings.admitted]

theorem extended_extended (set : RuleSet) (first rest : List Rule) :
    (set.extended settings first).extended settings rest =
      set.extended settings (first ++ rest) := by
  have firstLength : (settings.admitted first).length ≤ first.length :=
    DetectionSettings.length_admitted_le first
  have restLength : (settings.admitted rest).length ≤ rest.length :=
    DetectionSettings.length_admitted_le rest
  simp only [extended, DetectionSettings.admitted_append, List.filterMap_append,
    List.append_assoc, List.length_append, Nat.add_assoc]
  congr 2
  omega

theorem add_eq_ok {rule : Rule} (loads : Loads settings rule) (set : RuleSet) :
    set.add settings rule = .ok (set.extended settings [rule]) := by
  rcases loads with ⟨answer, told, binds⟩
  rw [add, told, extended, DetectionSettings.admitted_singleton told]
  cases answer with
  | false => simp [bind, Except.bind, pure, Except.pure]
  | true =>
      rcases binds rfl with ⟨bound, binds⟩ | ⟨fault, failed⟩
      · have unreported : report? rule = none := by rw [report?, binds]
        simp [binds, unreported, bind, Except.bind, Except.toOption, pure, Except.pure]
      · have reported : report? rule = some (placeOf rule ++ ": " ++ fault.message) := by
          rw [report?, failed]
        simp [failed, reported, bind, Except.bind, Except.toOption, pure, Except.pure]

theorem foldlM_add {candidates : List Rule} (loads : ∀ rule ∈ candidates, Loads settings rule)
    (set : RuleSet) :
    candidates.foldlM (add settings) set = .ok (set.extended settings candidates) := by
  induction candidates generalizing set with
  | nil =>
      rw [List.foldlM_nil, extended_nil]
      rfl
  | cons rule rest induction =>
      rcases List.forall_mem_cons.mp loads with ⟨first, others⟩
      have apart : set.extended settings (rule :: rest) =
          (set.extended settings [rule]).extended settings rest :=
        (extended_extended set [rule] rest).symm
      rw [List.foldlM_cons, add_eq_ok first, apart]
      exact induction others _

/-- A rule set is loaded from candidates that were read, where the settings tell which of
them take part and none of these breaks the binding: the ones that take part and can be
bound are there in their order, and those that cannot are reported. -/
theorem load_eq_ok {tree : FileTree} {more : List Rule} {loaded : Rule.Collection}
    (roots : loadRoots tree settings.roots = .ok loaded) (read : ∀ rule ∈ more, rule.IsRead)
    (accepts : ∀ rule ∈ loaded.rules ++ more, ∃ answer, settings.accepts rule = .ok answer)
    (binds : ∀ rule ∈ settings.admitted (loaded.rules ++ more), ∀ fault,
      ¬rule.BreaksWith fault) :
    load tree settings more =
      .ok (extended settings { errors := loaded.errors } (loaded.rules ++ more)) := by
  have readAll : ∀ rule ∈ loaded.rules ++ more, rule.IsRead :=
    List.forall_mem_append.mpr ⟨isRead_of_loadRoots roots, read⟩
  have loads : ∀ rule ∈ loaded.rules ++ more, Loads settings rule := by
    intro rule member
    rcases accepts rule member with ⟨answer, told⟩
    refine ⟨answer, told, ?_⟩
    rintro rfl
    rcases BoundRule.ofRule_cases (readAll rule member) with
      bound | ⟨cause, failed⟩ | ⟨fault, breaks, _⟩
    · exact .inl bound
    · exact .inr ⟨_, failed⟩
    · have admitted := DetectionSettings.mem_admitted_iff.mpr ⟨member, told⟩
      exact absurd breaks (binds rule admitted fault)
  rw [load, roots]
  exact foldlM_add loads _

theorem mem_errors_extended {candidates : List Rule} {rule : Rule} {fault : RuleFault}
    (member : rule ∈ settings.admitted candidates)
    (failed : BoundRule.ofRule rule = .error (.rule fault)) (set : RuleSet) :
    placeOf rule ++ ": " ++ fault.message ∈ (set.extended settings candidates).errors := by
  refine List.mem_append_right _ (List.mem_filterMap.mpr ⟨rule, member, ?_⟩)
  rw [report?, failed]

end

/-- A rule that was read can be bound, or this is a fault of the rule that carries its id,
unless the rule breaks the binding. A rule at fault matches nothing and can be left out of
every list; a rule set that is loaded with it and with others that do not break the binding
reports it where it takes part, and holds all that take part and can be bound, in order. -/
theorem bad_rule_harms_no_other {rule : Rule} (read : rule.IsRead) :
    ((∃ bound, BoundRule.ofRule rule = .ok bound ∧ bound.rule = rule) ∨
      (∃ cause, BoundRule.ofRule rule = .error (.rule ⟨cause, some rule.id⟩)) ∨
      ∃ fault, rule.BreaksWith fault ∧ BoundRule.ofRule rule = .error fault) ∧
    ∀ fault, BoundRule.ofRule rule = .error (.rule fault) →
      (∀ event, rule.matchEvent event = .ok none ∧ ∀ before after,
        Rule.matchEach (before ++ .inl rule :: after) event =
          Rule.matchEach (before ++ after) event) ∧
      ∀ tree settings more loaded, loadRoots tree settings.roots = .ok loaded →
        (∀ other ∈ more, other.IsRead) →
        (∀ other ∈ loaded.rules ++ more, ∃ answer, settings.accepts other = .ok answer) →
        (∀ other ∈ settings.admitted (loaded.rules ++ more), ∀ fault,
          ¬other.BreaksWith fault) →
        ∃ set, load tree settings more = .ok set ∧
          set = extended settings { errors := loaded.errors } (loaded.rules ++ more) ∧
          (rule ∈ settings.admitted (loaded.rules ++ more) →
            placeOf rule ++ ": " ++ fault.message ∈ set.errors) := by
  refine ⟨?_, fun fault failed => ⟨fun event => ?_, ?_⟩⟩
  · rcases BoundRule.ofRule_cases read with ⟨bound, binds⟩ | atFault
    · exact .inl ⟨bound, binds, (BoundRule.ofRule_eq_ok binds).1⟩
    · exact .inr atFault
  · have silent : Rule.matchEither event (.inl rule) = .ok none :=
      Rule.matchEvent_eq_none failed event
    exact ⟨silent, Rule.matchEach_remove silent⟩
  · intro tree settings more loaded roots others accepts binds
    exact ⟨_, load_eq_ok roots others accepts binds, rfl,
      fun member => mem_errors_extended member failed _⟩

end RuleSet

def Rule.logins (id condition : String) : Rule where
  id := id
  title := "Logins"
  level := "low"
  status := .experimental
  description := ""
  logSource := {}
  author := none
  date := none
  tags := []
  falsePositives := []
  references := []
  file := none
  detection := [("sel", .sealed [(.text "user", .text "admin")]), ("condition", .text condition)]

def Rule.loginsDocument (id condition : String) : Value :=
  .map [(.text "title", .text "Logins"), (.text "id", .text id), (.text "level", .text "low"),
    (.text "detection", .map [(.text "sel", .map [(.text "user", .text "admin")]),
      (.text "condition", .text condition)])]

namespace Rule

theorem definitions_logins (id condition : String) :
    (logins id condition).definitions = [("sel", .sealed [(.text "user", .text "admin")])] := by
  simp [definitions, logins, conditionKey]

theorem condition_logins (id condition : String) : (logins id condition).condition = condition := by
  simp [Rule.condition, logins, conditionKey, Table.get?, List.lookup_cons]

theorem not_breaksWith_logins {id condition : String}
    (counts : ∀ token ∈ Condition.tokens condition, Condition.isCount token = false)
    (fault : Fault) : ¬(logins id condition).BreaksWith fault := by
  rintro (⟨member, bad⟩ | ⟨defined, defines, member, breaks⟩)
  · rw [condition_logins] at member
    exact absurd bad.1 (by rw [counts _ member]; decide)
  · rw [definitions_logins] at defined
    cases List.mem_singleton.mp defined
    cases List.mem_singleton.mp defines
    cases List.mem_singleton.mp member
    rcases breaks with ⟨key, operator, requireAll, isText, read, expected, isExpected, breaks⟩
    cases isText
    have asks : (SelectionKey.ofText "user").read (Text.quoted "user") = .ok (.equals, false) := rfl
    rw [asks] at read
    cases read
    cases List.mem_singleton.mp isExpected
    cases breaks with
    | equals unwritten => cases unwritten

end Rule

namespace RuleSet

/-- A rule whose condition breaks off is reported, and the rule behind it is there. -/
theorem unfinished_rule_harms_no_other :
    (Rule.logins "r2" "sel and").IsRead ∧ (Rule.logins "r1" "sel").IsRead ∧
      BoundRule.ofRule (.logins "r2" "sel and") =
        .error (.rule ⟨.endOfCondition, some "r2"⟩) ∧
      (∀ rule ∈ [Rule.logins "r2" "sel and", .logins "r1" "sel"],
        ∃ answer, DetectionSettings.accepts {} rule = .ok answer) ∧
      (∀ rule ∈ [Rule.logins "r2" "sel and", .logins "r1" "sel"], ∀ fault,
        ¬rule.BreaksWith fault) ∧
      (∀ event, (Rule.logins "r2" "sel and").matchEvent event = .ok none) ∧
      ∃ set, load (.directory []) {} [.logins "r2" "sel and", .logins "r1" "sel"] = .ok set ∧
        (set.rules.map fun bound => bound.rule.id) = ["r1"] ∧
        set.errors = ["r2: rule r2: Unexpected end of condition"] := by
  have badRead : (Rule.logins "r2" "sel and").IsRead :=
    ⟨Rule.loginsDocument "r2" "sel and", none, rfl⟩
  have goodRead : (Rule.logins "r1" "sel").IsRead := ⟨Rule.loginsDocument "r1" "sel", none, rfl⟩
  have failed : BoundRule.ofRule (.logins "r2" "sel and") =
      .error (.rule ⟨.endOfCondition, some "r2"⟩) := rfl
  have accepts : ∀ rule ∈ [Rule.logins "r2" "sel and", .logins "r1" "sel"],
      ∃ answer, DetectionSettings.accepts {} rule = .ok answer := by
    have unnamed : ∃ text, Value.null.shown = .ok text := ⟨_, rfl⟩
    simp only [List.forall_mem_cons]
    exact ⟨DetectionSettings.exists_accepts unnamed unnamed _,
      DetectionSettings.exists_accepts unnamed unnamed _, by simp⟩
  have binds : ∀ rule ∈ [Rule.logins "r2" "sel and", .logins "r1" "sel"], ∀ fault,
      ¬rule.BreaksWith fault := by
    simp only [List.forall_mem_cons]
    exact ⟨Rule.not_breaksWith_logins (by decide +kernel),
      Rule.not_breaksWith_logins (by decide +kernel), by simp⟩
  have read : ∀ rule ∈ [Rule.logins "r2" "sel and", .logins "r1" "sel"], rule.IsRead := by
    simp [badRead, goodRead]
  rcases (bad_rule_harms_no_other badRead).2 _ failed with ⟨silent, loading⟩
  rcases loading (.directory []) {} _ {} rfl read accepts
    (fun rule member => binds rule (List.mem_of_mem_filter member)) with ⟨set, loads, rfl, _⟩
  exact ⟨badRead, goodRead, failed, accepts, binds, fun event => (silent event).1, _, loads, rfl,
    rfl⟩

/-- A count in superscript is made of digits that are no decimal digits. The rule that
holds it cannot be bound, and neither an event nor a rule set gets past it. -/
theorem superscript_count_harms_others :
    Rule.ofDocument (Rule.loginsDocument "r2" "² of them") none = .ok (.logins "r2" "² of them") ∧
      BoundRule.ofRule (.logins "r2" "² of them") = .error .unreadableCount ∧
      (∃ found, Rule.matchEach [.inl (.logins "r1" "sel")] .changeByAdmin = .ok [found]) ∧
      Rule.matchEach [.inl (.logins "r2" "² of them"), .inl (.logins "r1" "sel")] .changeByAdmin =
        .error .unreadableCount ∧
      load (.directory []) {} [.logins "r2" "² of them", .logins "r1" "sel"] =
        .error .unreadableCount :=
  ⟨rfl, rfl, ⟨_, rfl⟩, rfl, rfl⟩

end RuleSet

end ThreatWatch
