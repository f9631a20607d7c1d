import ThreatWatch.Proofs.Matching
import ThreatWatch.Proofs.Regrouping

/-! Rules with one more selection. A selection that the condition does not mention and
that none of its groups gathers leaves the rule as it was: the condition is read as
before, and every comparison comes to the same end. -/

namespace ThreatWatch

def Rule.withSelection (rule : Rule) (position : Nat) (name : String) (definition : Value) : Rule :=
  { rule with
    detection := rule.detection.take position ++
      (name, definition) :: rule.detection.drop position }

/-! ## What one more entry changes -/

theorem Table.get?_around {α : Type u} {front back : Table α} {name other : String} {value : α}
    (different : other ≠ name) :
    get? (front ++ (name, value) :: back) other = get? (front ++ back) other := by
  have unequal : (other == name) = false := by simpa using different
  simp [get?, List.lookup_append, List.lookup_cons, unequal]

namespace Rule

variable {name : String}

theorem withSelection_condition (rule : Rule) (position : Nat) (definition : Value)
    (different : conditionKey ≠ name) :
    (rule.withSelection position name definition).condition = rule.condition := by
  unfold condition withSelection
  rw [Table.get?_around different, List.take_append_drop]

theorem withSelection_definitions (rule : Rule) (position : Nat) (definition : Value)
    (different : conditionKey ≠ name) :
    ∃ front back, rule.definitions = front ++ back ∧
      (rule.withSelection position name definition).definitions =
        front ++ (name, definition) :: back := by
  refine ⟨(rule.detection.take position).filter fun entry => entry.1 ≠ conditionKey,
    (rule.detection.drop position).filter fun entry => entry.1 ≠ conditionKey, ?_, ?_⟩
  · rw [definitions, ← List.filter_append, List.take_append_drop]
  · unfold definitions withSelection
    rw [List.filter_append, List.filter_cons_of_pos (by simpa using different.symm)]

end Rule

namespace BoundRule

theorem compileAll_around {front back : Table Value} {selections : Table Selection} {name : String}
    {definition : Value} {selection : Selection}
    (compiled : compileAll (front ++ back) = .ok selections)
    (compiles : Selection.compile name definition = .ok selection) :
    ∃ before behind, selections = before ++ behind ∧
      compileAll (front ++ (name, definition) :: back) = .ok (before ++ (name, selection) :: behind) := by
  unfold compileAll at compiled ⊢
  rw [List.mapM_append] at compiled ⊢
  rcases bind_eq_ok_iff.mp compiled with ⟨before, frontCompiled, later⟩
  rcases bind_eq_ok_iff.mp later with ⟨behind, backCompiled, equal⟩
  cases equal
  refine ⟨before, behind, rfl, ?_⟩
  rw [frontCompiled, List.mapM_cons, backCompiled, compiles]
  rfl

theorem matchEvent_congr {first second : BoundRule} {event : SecurityEvent}
    (conditions : second.condition = first.condition)
    (tells : ∀ name ∈ first.condition.names,
      second.selectionHolds event name = first.selectionHolds event name) :
    second.matchEvent event =
      (first.matchEvent event).map (Option.map fun found => { found with rule := second.rule }) := by
  have sameOutcomes : second.outcomes event = first.outcomes event := by
    unfold outcomes referenced
    rw [conditions]
    refine mapM_congr fun name member => ?_
    rw [tells name (List.mem_eraseDups.mp member)]
  unfold matchEvent
  rw [sameOutcomes, conditions]
  cases first.outcomes event with
  | error fault => rfl
  | ok table =>
      simp only [bind, Except.bind]
      split <;> rfl

/-- A selection that no group of the condition gathers changes neither how the rule is
bound nor what comes of any comparison, failures included, whether the rule has been
bound before or not. -/
theorem ofRule_withSelection {rule : Rule} {bound : BoundRule} (binds : ofRule rule = .ok bound)
    (position : Nat) {name : String} {definition : Value} {selection : Selection}
    (absent : name ∉ rule.detection.keys)
    (compiles : Selection.compile name definition = .ok selection)
    (apart : ∀ group ∈ bound.condition.groups, Condition.keyword? group ≠ some .wholeGroup ∧
      ¬group.toList.dropLast <+: name.toList) :
    ∃ extended, ofRule (rule.withSelection position name definition) = .ok extended ∧
      extended.condition = bound.condition ∧
      ∀ event,
        extended.matchEvent event = (bound.matchEvent event).map (Option.map fun found =>
          { found with rule := rule.withSelection position name definition }) ∧
        (rule.withSelection position name definition).matchEvent event =
          (rule.matchEvent event).map (Option.map fun found =>
            { found with rule := rule.withSelection position name definition }) := by
  rcases ofRule_eq_ok binds with ⟨_, compiled, parsed⟩
  have different : Rule.conditionKey ≠ name := fun same =>
    absent (same ▸ conditionKey_mem_keys binds)
  rcases rule.withSelection_definitions position definition different with
    ⟨front, back, split, extendedSplit⟩
  rw [split] at compiled
  rcases compileAll_around compiled compiles with ⟨before, behind, selections, extendedCompiled⟩
  rw [← extendedSplit] at extendedCompiled
  have extendedParsed : Condition.parse (rule.withSelection position name definition).condition
      (rule.withSelection position name definition).selectionNames = .ok bound.condition := by
    rw [Rule.selectionNames, split, Table.keys, List.map_append] at parsed
    rw [rule.withSelection_condition position definition different, Rule.selectionNames,
      extendedSplit, Table.keys, List.map_append, List.map_cons]
    exact Condition.parse_around parsed fun group member =>
      Condition.inGroup_eq_false (apart group member).1 (apart group member).2
  have extendedBinds := ofRule_of_parts extendedCompiled extendedParsed
  refine ⟨_, extendedBinds, rfl, fun event => ?_⟩
  rw [Rule.matchEvent_of_binds binds, Rule.matchEvent_of_binds extendedBinds, and_self]
  refine matchEvent_congr rfl fun mentioned member => ?_
  have other : mentioned ≠ name := by
    rintro rfl
    have known := mem_keys_of_mem_names binds member
    rw [keys_selections binds, Rule.selectionNames_eq] at known
    exact absent (List.mem_filter.mp known).1
  unfold selectionHolds
  rw [Table.get?_around other, ← selections]

end BoundRule

def Value.ofWorkstation : Value :=
  .sealed [(.text "host|startswith", .text "ws")]

def Rule.administrationAtWork : Rule :=
  administration.withSelection 1 "workstation" .ofWorkstation

namespace BoundRule

theorem unmentioned_host_changes_nothing :
    ofRule .administration = .ok .administration ∧
      "workstation" ∉ Rule.administration.detection.keys ∧
      (∃ selection, Selection.compile "workstation" .ofWorkstation = .ok selection) ∧
      (∀ group ∈ administration.condition.groups, Condition.keyword? group ≠ some .wholeGroup ∧
        ¬group.toList.dropLast <+: "workstation".toList) ∧
      ∃ extended, ofRule .administrationAtWork = .ok extended ∧
        extended.condition = administration.condition ∧
        ∀ event,
          extended.matchEvent event = (administration.matchEvent event).map
            (Option.map fun found => { found with rule := .administrationAtWork }) ∧
          Rule.administrationAtWork.matchEvent event = (Rule.administration.matchEvent event).map
            (Option.map fun found => { found with rule := .administrationAtWork }) := by
  have absent : "workstation" ∉ Rule.administration.detection.keys := by decide
  have compiles : Selection.compile "workstation" .ofWorkstation =
      .ok [[⟨"host|startswith", "host", .startsWith, false,
        [(.text "ws", .placed .atStart (.text "ws"))]⟩]] := rfl
  have apart : ∀ group ∈ administration.condition.groups,
      Condition.keyword? group ≠ some .wholeGroup ∧
        ¬group.toList.dropLast <+: "workstation".toList := by
    decide
  exact ⟨ofRule_administration, absent, ⟨_, compiles⟩, apart,
    ofRule_withSelection ofRule_administration 1 absent compiles apart⟩

end BoundRule

end ThreatWatch
