import ThreatWatch.Proofs.Conditions
import ThreatWatch.Proofs.Matching
import ThreatWatch.Proofs.Reading

/-! Faults of binding. A rule that was read from a document can be bound, or else this is
a fault of the rule that carries its id, unless the rule holds one of three things: a
count that is no decimal number of moderate length, an integer that is too long to be
written, or a pattern with a number that is too large. -/

namespace ThreatWatch

/-! ## Faults of selections -/

namespace SelectionKey

variable {shownKey : String} {fault : Fault}

theorem request_eq_error {modifiers : List String}
    (failed : request shownKey modifiers = .error fault) :
    ∃ cause, fault = .ofCause cause ∧ cause.family = .modifier := by
  induction modifiers with
  | nil => cases failed
  | cons modifier rest induction =>
      unfold request at failed
      split at failed
      · exact induction (eq_error_of_bind_pure failed)
      · split at failed
        · exact induction (eq_error_of_bind_pure failed)
        · cases failed
          exact ⟨_, rfl, rfl⟩

theorem read_eq_error {key : SelectionKey} (failed : key.read shownKey = .error fault) :
    ∃ cause, fault = .ofCause cause ∧ cause.family = .modifier := by
  unfold read at failed
  split at failed
  · cases failed
    exact ⟨_, rfl, rfl⟩
  · rcases bind_eq_error_iff.mp failed with stopped | ⟨request, _, chosen⟩
    · exact request_eq_error stopped
    · split at chosen
      · cases chosen
      · cases chosen
      · cases chosen
        exact ⟨_, rfl, rfl⟩

end SelectionKey

/-- What keeps an operator from being prepared for an expected value without being a
fault of the rule: an integer that is too long to be written where its text is needed,
or a pattern with a number that is too large or flags that exclude each other. -/
inductive Operator.BreaksWith (expected : Value) : Operator → Fault → Prop
  | equals (unwritten : expected.operandText = .error .tooManyDigits) :
      BreaksWith expected .equals .tooManyDigits
  | network (unwritten : expected.operandText = .error .tooManyDigits) :
      BreaksWith expected .network .tooManyDigits
  | pattern (unwritten : expected.operandText = .error .tooManyDigits) :
      BreaksWith expected .pattern .tooManyDigits
  | excessive {content : String} {fault : Pattern.PatternFault} (shownKey : String)
      (written : expected.operandText = .ok content)
      (refused : Pattern.Expression.parse content = .error fault) (formed : fault ≠ .malformed) :
      BreaksWith expected .pattern (Criterion.patternFault content shownKey fault)

namespace Criterion

variable {fault : Fault}

theorem prepare_eq_error {operator : Operator} {shownKey : String} {expected : Value}
    (failed : prepare operator shownKey expected = .error fault) :
    (∃ cause, fault = .ofCause cause) ∨ operator.BreaksWith expected fault := by
  cases operator with
  | equals =>
      rcases bind_eq_error_iff.mp failed with unwritten | ⟨content, _, chosen⟩
      · cases Value.operandText_eq_error unwritten
        exact .inr (.equals unwritten)
      · split at chosen <;> cases chosen
  | pattern =>
      rcases bind_eq_error_iff.mp failed with unwritten | ⟨content, written, parsed⟩
      · cases Value.operandText_eq_error unwritten
        exact .inr (.pattern unwritten)
      · split at parsed
        · cases parsed
        · next refusal refused =>
            cases parsed
            by_cases malformed : refusal = .malformed
            · rw [malformed]
              exact .inl ⟨_, rfl⟩
            · exact .inr (.excessive shownKey written refused malformed)
  | network =>
      have unwritten := eq_error_of_bind_pure failed
      cases Value.operandText_eq_error unwritten
      exact .inr (.network unwritten)
  | contains | startsWith | endsWith | greater | atLeast | less | atMost => cases failed

/-- What keeps an entry of a selection from being prepared without being a fault of the
rule: its operator cannot be prepared for one of its expected values. -/
def BreaksWith (entry : Value × Value) (fault : Fault) : Prop :=
  ∃ key operator requireAll, entry.1 = .text key ∧
    (SelectionKey.ofText key).read (Text.quoted key) = .ok (operator, requireAll) ∧
    ∃ expected ∈ expectedValues entry.2, operator.BreaksWith expected fault

theorem compile_eq_error {entry : Value × Value} (isText : ∃ key, entry.1 = .text key)
    (failed : compile entry.1 entry.2 = .error fault) :
    (∃ cause, fault = .ofCause cause) ∨ BreaksWith entry fault := by
  rcases isText with ⟨key, isText⟩
  rw [isText] at failed
  unfold compile at failed
  -- A key that is a text can be written, so the first two steps do not fail.
  rcases bind_eq_error_iff.mp failed with unshown | ⟨shown, isShown, afterShown⟩
  · cases unshown
  cases isShown
  rcases bind_eq_error_iff.mp afterShown with unquoted | ⟨quoted, isQuoted, afterQuoted⟩
  · rw [Value.quoted] at unquoted
    cases unquoted
  rw [Value.quoted] at isQuoted
  cases isQuoted
  rcases bind_eq_error_iff.mp afterQuoted with unread | ⟨⟨operator, requireAll⟩, read, afterRead⟩
  · rcases SelectionKey.read_eq_error unread with ⟨cause, ofRule, _⟩
    exact .inl ⟨cause, ofRule⟩
  have unprepared := eq_error_of_bind_pure afterRead
  rcases exists_of_mapM_eq_error unprepared with ⟨expected, member, stepFailed⟩
  rcases prepare_eq_error (eq_error_of_bind_pure stepFailed) with ofRule | breaks
  · exact .inl ofRule
  · exact .inr ⟨key, operator, requireAll, isText, read, expected, member, breaks⟩

end Criterion

theorem Clause.ofEntries_eq_error {entries : List (Value × Value)} {fault : Fault}
    (failed : ofEntries entries = .error fault) :
    ∃ entry ∈ entries, Criterion.compile entry.1 entry.2 = .error fault :=
  exists_of_mapM_eq_error failed

theorem Selection.compile_eq_error {name : String} {definition : Value} {fault : Fault}
    (failed : compile name definition = .error fault) :
    (∃ cause, fault = .ofCause cause) ∨ ∃ entries ∈ mappings definition, ∃ entry ∈ entries,
      Criterion.compile entry.1 entry.2 = .error fault := by
  unfold compile at failed
  unfold mappings
  split at failed
  · next entries found =>
      rw [found]
      have clauseFailed := Clause.ofEntries_eq_error (eq_error_of_bind_pure failed)
      exact .inr ⟨entries, by simp, clauseFailed⟩
  · cases failed
    exact .inl ⟨_, rfl⟩
  · next items _ notMapping isList =>
      split at failed
      · next maps read =>
          rw [notMapping, isList]
          simp only [Option.getD_some, filterMap_of_mapM read]
          rcases exists_of_mapM_eq_error failed with ⟨entries, member, clauseFailed⟩
          exact .inr ⟨entries, member, Clause.ofEntries_eq_error clauseFailed⟩
      · cases failed
        exact .inl ⟨_, rfl⟩
  · cases failed
    exact .inl ⟨_, rfl⟩

/-! ## Faults of rules -/

/-- What keeps a rule from being bound without being a fault of the rule: a count that is
no decimal number of moderate length, or an entry of a selection. -/
inductive Rule.BreaksWith (rule : Rule) (fault : Fault) : Prop
  | count {token : String} (member : token ∈ Condition.tokens rule.condition)
      (bad : Condition.IsBadCount token fault)
  | entry {name : String} {definition : Value} {entries : List (Value × Value)}
      {entry : Value × Value} (defined : (name, definition) ∈ rule.definitions)
      (defines : entries ∈ Selection.mappings definition) (member : entry ∈ entries)
      (breaks : Criterion.BreaksWith entry fault)

namespace BoundRule

variable {rule : Rule} {fault : Fault}

theorem prepare_eq_error (read : rule.IsRead) (failed : prepare rule = .error fault) :
    (∃ cause, fault = .ofCause cause) ∨ rule.BreaksWith fault := by
  rcases bind_eq_error_iff.mp failed with uncompiled | ⟨selections, _, afterSelections⟩
  · rcases exists_of_mapM_eq_error uncompiled with ⟨⟨name, definition⟩, defined, stepFailed⟩
    rcases Selection.compile_eq_error (eq_error_of_bind_pure stepFailed) with
      ofRule | ⟨entries, defines, entry, member, entryFailed⟩
    · exact .inl ofRule
    · have isText := read.text_of_mem defined entries defines entry member
      exact (Criterion.compile_eq_error isText entryFailed).imp_right
        (.entry defined defines member)
  · have unparsed := eq_error_of_bind_pure afterSelections
    rcases Condition.parse_eq_error unparsed with ofRule | ⟨token, member, bad⟩
    · exact .inl ofRule
    · exact .inr (.count member bad)

theorem tagged_of_breaksWith (ruleId : String) (breaks : rule.BreaksWith fault) :
    tagged ruleId fault = fault := by
  cases breaks with
  | count _ bad => rcases bad with ⟨_, ⟨_, rfl⟩ | ⟨_, _, rfl⟩⟩ <;> rfl
  | entry _ _ _ breaks =>
      rcases breaks with ⟨_, _, _, _, _, _, _, breaks⟩
      cases breaks with
      | equals _ | network _ | pattern _ => rfl
      | @excessive _ refusal _ _ _ formed => cases refusal <;> first | rfl | exact absurd rfl formed

/-- A rule that was read can be bound, or else this is a fault of the rule that carries
its id, unless the rule breaks the binding. -/
theorem ofRule_eq_error (read : rule.IsRead) (failed : ofRule rule = .error fault) :
    (∃ cause, fault = .rule ⟨cause, some rule.id⟩) ∨ rule.BreaksWith fault := by
  unfold ofRule at failed
  cases prepared : prepare rule with
  | ok bound =>
      rw [prepared] at failed
      cases failed
  | error found =>
      rw [prepared] at failed
      cases failed
      rcases prepare_eq_error read prepared with ⟨cause, rfl⟩ | breaks
      · exact .inl ⟨cause, rfl⟩
      · rw [tagged_of_breaksWith rule.id breaks]
        exact .inr breaks

theorem ofRule_cases (read : rule.IsRead) :
    (∃ bound, ofRule rule = .ok bound) ∨
    (∃ cause, ofRule rule = .error (.rule ⟨cause, some rule.id⟩)) ∨
    ∃ fault, rule.BreaksWith fault ∧ ofRule rule = .error fault := by
  cases outcome : ofRule rule with
  | ok bound => exact .inl ⟨bound, rfl⟩
  | error fault =>
      rcases ofRule_eq_error read outcome with ⟨cause, rfl⟩ | breaks
      · exact .inr (.inl ⟨cause, rfl⟩)
      · exact .inr (.inr ⟨fault, breaks, rfl⟩)

end BoundRule

end ThreatWatch
