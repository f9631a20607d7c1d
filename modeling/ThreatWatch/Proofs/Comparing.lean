import ThreatWatch.Detection.RuleSet
import ThreatWatch.Proofs.Doubles
import ThreatWatch.Proofs.Matching

/-! When a comparison comes to an answer. A test needs a text or a number of both of its
sides, and all that can be in the way is an integer of great size: one that is near no
finite double stops a comparison of numbers. What is no number and what is no address
only makes the criterion false. -/

namespace ThreatWatch

/-! ## Sizes -/

namespace Value

theorem pow_two_le {low high : Nat} (ordered : low ≤ high) : 2 ^ low ≤ Nat.pow 10 high :=
  calc 2 ^ low ≤ 2 ^ high := Nat.pow_le_pow_right (by decide) ordered
    _ ≤ 10 ^ high := Nat.pow_le_pow_left (by decide) high

theorem unitsLimit_le : Binary64.unitsLimit ≤ Nat.pow 10 Numeral.digitLimit := by
  rw [Binary64.unitsLimit_eq]
  exact pow_two_le (by decide)

theorem exists_writtenInt {number : Int} (small : number.natAbs < Binary64.unitsLimit) :
    ∃ text, writtenInt number = .ok text := by
  unfold writtenInt Numeral.writeInt?
  rw [if_pos (small.trans_le unitsLimit_le)]
  exact ⟨_, rfl⟩

theorem operandText_int (number : Int) : (int number).operandText = writtenInt number := by
  rw [operandText, shown, quoted] <;> simp

theorem exists_operandNumber_int_iff (number : Int) :
    (∃ double, (int number).operandNumber = .ok double) ↔
      number.natAbs < Binary64.integerLimit := by
  rw [← Binary64.isSome_ofInt?_iff, operandNumber, integerOperand]
  cases Binary64.ofInt? number <;> simp

theorem operandNumber_eq_error {number : Int} (huge : Binary64.integerLimit ≤ number.natAbs) :
    (int number).operandNumber = .error .integerTooLarge := by
  rw [operandNumber, integerOperand]
  cases near : Binary64.ofInt? number with
  | none => rfl
  | some double =>
      have small := (Binary64.isSome_ofInt?_iff number).mp (by rw [near]; rfl)
      exact absurd small huge.not_gt

theorem exists_operandText_float {negative : Bool} {units : Nat}
    (inRange : units < Binary64.unitsLimit) :
    ∃ text, (float (.finite negative units)).operandText = .ok text := by
  unfold operandText
  dsimp only
  split
  · next whole _ truncated =>
      refine exists_writtenInt ?_
      cases truncated
      rw [Binary64.natAbs_withSign]
      exact (Nat.div_le_self _ _).trans_lt inRange
  · exact ⟨_, rfl⟩

end Value

/-! ## Operators -/

namespace Operator

def Takes (value : Value) : Operator → Prop
  | .greater | .atLeast | .less | .atMost => ∃ number, value.operandNumber = .ok number
  | .network => True
  | .equals | .contains | .startsWith | .endsWith | .pattern =>
      ∃ text, value.operandText = .ok text

/-- Whether an operator finds in an actual value what it compares: a finite number, an
address, or any text. -/
def Coerces (actual : Value) : Operator → Prop
  | .greater | .atLeast | .less | .atMost => ∃ double, actual.operandNumber = .ok (some double)
  | .network => ∃ content address, actual = .text content ∧
      Network.Ipv4.read? content = some address
  | .equals | .contains | .startsWith | .endsWith | .pattern => True

end Operator

namespace ValueTest

/-- The tests that an operator makes of an expected value. -/
inductive IsMade (expected : Value) : Operator → ValueTest → Prop
  | same (written : ∃ text, expected.operandText = .ok text) :
      IsMade expected .equals (.same expected)
  | glob (written : ∃ text, expected.operandText = .ok text) (items : Pattern.Glob) :
      IsMade expected .equals (.glob items)
  | anywhere : IsMade expected .contains (.placed .anywhere expected)
  | atStart : IsMade expected .startsWith (.placed .atStart expected)
  | atEnd : IsMade expected .endsWith (.placed .atEnd expected)
  | expression (written : ∃ text, expected.operandText = .ok text)
      (compiled : Pattern.Expression) : IsMade expected .pattern (.expression compiled)
  | greater : IsMade expected .greater (.number .greater expected)
  | atLeast : IsMade expected .atLeast (.number .atLeast expected)
  | less : IsMade expected .less (.number .less expected)
  | atMost : IsMade expected .atMost (.number .atMost expected)
  | network (block : Option Network.Ipv4Block) : IsMade expected .network (.network block)

theorem isMade_of_prepare {operator : Operator} {shownKey : String} {expected : Value}
    {test : ValueTest} (prepared : Criterion.prepare operator shownKey expected = .ok test) :
    test.IsMade expected operator := by
  cases operator with
  | equals =>
      rcases bind_eq_ok_iff.mp prepared with ⟨content, written, chosen⟩
      split at chosen
      · cases chosen
        exact .glob ⟨content, written⟩ _
      · cases chosen
        exact .same ⟨content, written⟩
  | contains => cases prepared; exact .anywhere
  | startsWith => cases prepared; exact .atStart
  | endsWith => cases prepared; exact .atEnd
  | pattern =>
      rcases bind_eq_ok_iff.mp prepared with ⟨content, written, parsed⟩
      split at parsed
      · cases parsed
        exact .expression ⟨content, written⟩ _
      · cases parsed
  | greater => cases prepared; exact .greater
  | atLeast => cases prepared; exact .atLeast
  | less => cases prepared; exact .less
  | atMost => cases prepared; exact .atMost
  | network =>
      rcases bind_eq_ok_iff.mp prepared with ⟨content, _, made⟩
      cases made
      exact .network _

variable {expected actual : Value} {operator : Operator} {test : ValueTest}

theorem exists_passes_iff (made : test.IsMade expected operator) :
    (∃ answer, test.passes actual = .ok answer) ↔
      operator.Takes actual ∧ operator.Takes expected := by
  cases made with
  | same written | glob written items | expression written compiled =>
      rcases written with ⟨content, written⟩
      simp only [passes, Operator.Takes, written]
      cases actual.operandText <;> simp [bind, Except.bind, pure, Except.pure]
  | anywhere | atStart | atEnd =>
      simp only [passes, Operator.Takes]
      cases actual.operandText <;> cases expected.operandText <;>
        simp [bind, Except.bind, pure, Except.pure]
  | greater | atLeast | less | atMost =>
      simp only [passes, Operator.Takes]
      cases actual.operandNumber with
      | error fault => simp [bind, Except.bind]
      | ok left =>
          cases expected.operandNumber with
          | error fault => simp [bind, Except.bind]
          | ok right => cases left <;> cases right <;> simp [bind, Except.bind, pure, Except.pure]
  | network block =>
      simp only [passes, Operator.Takes, and_self, iff_true]
      split
      · split <;> exact ⟨_, rfl⟩
      · exact ⟨false, rfl⟩

theorem passes_of_not_coerces (made : test.IsMade expected operator)
    (takesActual : operator.Takes actual) (takesExpected : operator.Takes expected)
    (coerces : ¬operator.Coerces actual) : test.passes actual = .ok false := by
  cases made with
  | same _ | glob _ _ | expression _ _ | anywhere | atStart | atEnd => exact absurd trivial coerces
  | greater | atLeast | less | atMost =>
      rcases takesActual with ⟨number, told⟩
      rcases takesExpected with ⟨limit, limitTold⟩
      have missing : number = none := by
        cases number with
        | none => rfl
        | some double => exact absurd ⟨double, told⟩ coerces
      simp [passes, told, limitTold, missing, bind, Except.bind, pure, Except.pure]
  | network block =>
      simp only [passes]
      split
      · next content =>
          split
          · next address read => exact absurd ⟨content, address, rfl, read⟩ coerces
          · rfl
      · rfl

end ValueTest

/-! ## Criteria -/

namespace Criterion

theorem exists_anyPasses {actual : Value} {tests : List (Value × ValueTest)}
    (answers : ∀ test ∈ tests, ∃ answer, test.2.passes actual = .ok answer) :
    ∃ answer, anyPasses actual tests = .ok answer := by
  induction tests with
  | nil => exact ⟨false, rfl⟩
  | cons test rest induction =>
      rcases List.forall_mem_cons.mp answers with ⟨⟨first, passed⟩, others⟩
      unfold anyPasses
      rw [passed]
      cases first with
      | true => exact ⟨true, rfl⟩
      | false => exact induction others

theorem exists_allPass {actual : Value} {tests : List (Value × ValueTest)}
    (answers : ∀ test ∈ tests, ∃ answer, test.2.passes actual = .ok answer) :
    ∃ answer, allPass actual tests = .ok answer := by
  induction tests with
  | nil => exact ⟨true, rfl⟩
  | cons test rest induction =>
      rcases List.forall_mem_cons.mp answers with ⟨⟨first, passed⟩, others⟩
      unfold allPass
      rw [passed]
      cases first with
      | false => exact ⟨false, rfl⟩
      | true => exact induction others

theorem exists_passes {criterion : Criterion} {actual : Value}
    (answers : ∀ test ∈ criterion.tests, ∃ answer, test.2.passes actual = .ok answer) :
    ∃ answer, criterion.passes actual = .ok answer := by
  unfold passes
  split
  · exact ⟨false, rfl⟩
  · split
    · exact exists_allPass answers
    · exact exists_anyPasses answers

theorem anyPasses_eq_false {actual : Value} {tests : List (Value × ValueTest)}
    (fails : ∀ test ∈ tests, test.2.passes actual = .ok false) :
    anyPasses actual tests = .ok false := by
  induction tests with
  | nil => rfl
  | cons test rest induction =>
      rcases List.forall_mem_cons.mp fails with ⟨failed, others⟩
      unfold anyPasses
      rw [failed]
      exact induction others

theorem passes_eq_false {criterion : Criterion} {actual : Value}
    (fails : ∀ test ∈ criterion.tests, test.2.passes actual = .ok false) :
    criterion.passes actual = .ok false := by
  unfold passes
  split
  · rfl
  · next present =>
      split
      · cases tests : criterion.tests with
        | nil => simp [tests] at present
        | cons test rest =>
            unfold allPass
            rw [fails test (by simp [tests])]
            rfl
      · exact anyPasses_eq_false fails

/-- What preparing an entry comes to: a criterion of the field and the operator that
its key names, with a test for each expected value. -/
theorem compile_eq_ok {rawKey value : Value} {criterion : Criterion}
    (compiled : compile rawKey value = .ok criterion) :
    ∃ key shownKey, rawKey.shown = .ok key ∧ rawKey.quoted = .ok shownKey ∧
      criterion.key = key ∧ criterion.field = (SelectionKey.ofText key).field ∧
      (SelectionKey.ofText key).read shownKey = .ok (criterion.operator, criterion.requireAll) ∧
      List.Forall₂ (fun expected test => test.1 = expected ∧
        prepare criterion.operator shownKey expected = .ok test.2)
        (expectedValues value) criterion.tests := by
  rcases bind_eq_ok_iff.mp compiled with ⟨key, shown, afterKey⟩
  rcases bind_eq_ok_iff.mp afterKey with ⟨shownKey, quoted, afterQuoted⟩
  rcases bind_eq_ok_iff.mp afterQuoted with ⟨⟨operator, requireAll⟩, read, afterRead⟩
  rcases bind_eq_ok_iff.mp afterRead with ⟨tests, prepared, equal⟩
  cases equal
  refine ⟨key, shownKey, shown, quoted, rfl, rfl, read, ?_⟩
  refine (mapM_eq_ok_iff.mp prepared).imp fun expected test step => ?_
  rcases bind_eq_ok_iff.mp step with ⟨made, tested, equal⟩
  cases equal
  exact ⟨rfl, tested⟩

theorem isMade_of_compile {rawKey value : Value} {criterion : Criterion}
    (compiled : compile rawKey value = .ok criterion) :
    ∀ test ∈ criterion.tests, test.2.IsMade test.1 criterion.operator := by
  rcases compile_eq_ok compiled with ⟨_, _, _, _, _, _, _, related⟩
  intro test member
  rcases exists_of_forall₂_right related member with ⟨expected, _, rfl, prepared⟩
  exact ValueTest.isMade_of_prepare prepared

end Criterion

end ThreatWatch
