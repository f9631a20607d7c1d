import ThreatWatch.Criterion.Key
import ThreatWatch.Network.Ipv4
import ThreatWatch.Pattern.Glob
import ThreatWatch.Pattern.Matcher
import ThreatWatch.Pattern.Parser
import ThreatWatch.Value.Operand

/-! Criteria: one entry of a selection, prepared once and then compared with the
values of a field. Each expected value becomes a test; a value passes the
criterion when it passes one of the tests, or all of them where the key says
so. -/

namespace ThreatWatch

inductive Comparison where
  | greater
  | atLeast
  | less
  | atMost
  deriving DecidableEq, Repr

def Comparison.holds (left right : Binary64) : Comparison → Bool
  | .greater => right.lessThan left
  | .atLeast => right.atMost left
  | .less => left.lessThan right
  | .atMost => left.atMost right

inductive Placement where
  | anywhere
  | atStart
  | atEnd
  deriving DecidableEq, Repr

def Placement.holds (expected actual : List Char) : Placement → Bool
  | .anywhere => Text.occursIn expected actual
  | .atStart => Text.startsWith expected actual
  | .atEnd => Text.endsWith expected actual

inductive ValueTest where
  | same (expected : Value)
  | glob (items : Pattern.Glob)
  | placed (placement : Placement) (expected : Value)
  | expression (compiled : Pattern.Expression)
  | number (comparison : Comparison) (expected : Value)
  | network (block : Option Network.Ipv4Block)

namespace ValueTest

/-- Whether an actual value passes. Letter case is ignored by globs, placements
and expressions; what is no address belongs to no block. -/
def passes (actual : Value) : ValueTest → Except Fault Bool
  | .same expected => do
      let left ← actual.operandText
      let right ← expected.operandText
      return left == right
  | .glob items => do
      let text ← actual.operandText
      return items.fits text.toList
  | .placed placement expected => do
      let left ← actual.operandText
      let right ← expected.operandText
      return placement.holds (Text.lowerCharacters right.toList)
        (Text.lowerCharacters left.toList)
  | .expression compiled => do
      let text ← actual.operandText
      return compiled.occursIn text
  | .number comparison expected => do
      let left ← actual.operandNumber
      let right ← expected.operandNumber
      match left, right with
      | some left, some right => return comparison.holds left right
      | _, _ => return false
  | .network block =>
      match block, actual with
      | some block, .text content =>
          match Network.Ipv4.read? content with
          | some address => .ok (block.contains address)
          | none => .ok false
      | _, _ => .ok false

end ValueTest

structure Criterion where
  key : String
  field : String
  operator : Operator
  requireAll : Bool
  /-- The expected values with the tests made of them. -/
  tests : List (Value × ValueTest)

namespace Criterion

def expected (criterion : Criterion) : List Value :=
  criterion.tests.map Prod.fst

/-! ## Preparing -/

def patternFault (content shownKey : String) : Pattern.PatternFault → Fault
  | .malformed => .ofCause (.invalidPattern content shownKey)
  | .repetitionTooLarge => .repetitionTooLarge
  | .pointTooLarge => .pointTooLarge
  | .numeralTooLong => .tooManyDigits
  | .incompatibleFlags => .incompatibleFlags

def prepare (operator : Operator) (shownKey : String) (expected : Value) :
    Except Fault ValueTest := do
  match operator with
  | .equals =>
      let content ← expected.operandText
      if content.toList.contains '*' then
        return .glob (Pattern.Glob.ofCharacters content.toList)
      else return .same expected
  | .contains => return .placed .anywhere expected
  | .startsWith => return .placed .atStart expected
  | .endsWith => return .placed .atEnd expected
  | .pattern =>
      let content ← expected.operandText
      match Pattern.Expression.parse content with
      | .ok compiled => return .expression compiled
      | .error fault => .error (patternFault content shownKey fault)
  | .greater => return .number .greater expected
  | .atLeast => return .number .atLeast expected
  | .less => return .number .less expected
  | .atMost => return .number .atMost expected
  | .network =>
      let content ← expected.operandText
      return .network (Network.Ipv4Block.read? content)

def expectedValues (value : Value) : List Value :=
  value.items?.getD [value]

def compile (rawKey value : Value) : Except Fault Criterion := do
  let key ← rawKey.shown
  let shownKey ← rawKey.quoted
  let parts := SelectionKey.ofText key
  let (operator, requireAll) ← parts.read shownKey
  let tests ← (expectedValues value).mapM fun expected => do
    return (expected, ← prepare operator shownKey expected)
  return ⟨key, parts.field, operator, requireAll, tests⟩

/-! ## Comparing -/

def anyPasses (actual : Value) : List (Value × ValueTest) → Except Fault Bool
  | [] => .ok false
  | test :: rest => do if ← test.2.passes actual then return true else anyPasses actual rest

def allPass (actual : Value) : List (Value × ValueTest) → Except Fault Bool
  | [] => .ok true
  | test :: rest => do if ← test.2.passes actual then allPass actual rest else return false

/-- Whether the value of a field passes; a field that is absent, and a criterion
without expected values, never do. -/
def passes (criterion : Criterion) (actual : Value) : Except Fault Bool :=
  if actual.isNull || criterion.tests.isEmpty then .ok false
  else if criterion.requireAll then allPass actual criterion.tests
  else anyPasses actual criterion.tests

end Criterion

end ThreatWatch
