import ThreatWatch.Condition.Parser
import ThreatWatch.Rule.Basic
import ThreatWatch.Rule.Selection

/-! Bound rules: rules whose selections and condition have been prepared once,
to be compared with many events. -/

namespace ThreatWatch

structure BoundRule where
  rule : Rule
  selections : Table Selection
  condition : Condition

/-- A rule that matched, with those of its selections that were true. -/
structure RuleMatch where
  rule : Rule
  selections : List String

def RuleMatch.record (found : RuleMatch) : Table Value :=
  found.rule.summary.put "matched_selections" (.list (found.selections.map .text))

namespace BoundRule

def referenced (bound : BoundRule) : List String :=
  bound.condition.names.eraseDups

/-- A rule fault with the id of the rule it arose in; other faults stay as they
are. -/
def tagged (ruleId : String) : Fault → Fault
  | .rule fault => .rule { fault with ruleId := some ruleId }
  | fault => fault

def compileAll (definitions : Table Value) : Except Fault (Table Selection) :=
  definitions.mapM fun entry => do return (entry.1, ← Selection.compile entry.1 entry.2)

def prepare (rule : Rule) : Except Fault BoundRule := do
  let selections ← compileAll rule.definitions
  let condition ← Condition.parse rule.condition rule.selectionNames
  return ⟨rule, selections, condition⟩

def ofRule (rule : Rule) : Except Fault BoundRule :=
  (prepare rule).mapError (tagged rule.id)

/-! ## Matching -/

def selectionHolds (bound : BoundRule) (event : SecurityEvent) (name : String) :
    Except Fault Bool :=
  match bound.selections.get? name with
  | some selection => selection.holds event
  | none => .ok false

def outcomes (bound : BoundRule) (event : SecurityEvent) : Except Fault (Table Bool) :=
  bound.referenced.mapM fun name => do return (name, ← bound.selectionHolds event name)

/-- The outcome of comparing an event: every mentioned selection is compared
once, and the condition joins what they say. -/
def matchEvent (bound : BoundRule) (event : SecurityEvent) : Except Fault (Option RuleMatch) := do
  let outcomes ← bound.outcomes event
  if bound.condition.evaluate fun name => (outcomes.get? name).getD false then
    return some ⟨bound.rule, Table.keys (outcomes.filter Prod.snd)⟩
  else return none

def matchAll (bounds : List BoundRule) (event : SecurityEvent) :
    Except Fault (List RuleMatch) := do
  return (← bounds.mapM fun bound => bound.matchEvent event).reduceOption

end BoundRule

namespace Rule

/-- Compares an event with a rule; a rule that is at fault matches nothing. -/
def matchEvent (rule : Rule) (event : SecurityEvent) : Except Fault (Option RuleMatch) :=
  match BoundRule.ofRule rule with
  | .ok bound => bound.matchEvent event
  | .error (.rule _) => .ok none
  | .error fault => .error fault

def matchAll (rules : List Rule) (event : SecurityEvent) : Except Fault (List RuleMatch) := do
  return (← rules.mapM fun rule => rule.matchEvent event).reduceOption

/-! ## Rules of both kinds -/

def matchEither (event : SecurityEvent) : Rule ⊕ BoundRule → Except Fault (Option RuleMatch)
  | .inl rule => rule.matchEvent event
  | .inr bound => bound.matchEvent event

def matchEach (rules : List (Rule ⊕ BoundRule)) (event : SecurityEvent) :
    Except Fault (List RuleMatch) := do
  return (← rules.mapM (matchEither event)).reduceOption

@[simp] theorem matchEach_inl (rules : List Rule) (event : SecurityEvent) :
    matchEach (rules.map .inl) event = matchAll rules event := by
  rw [matchEach, List.mapM_map]
  rfl

@[simp] theorem matchEach_inr (bounds : List BoundRule) (event : SecurityEvent) :
    matchEach (bounds.map .inr) event = BoundRule.matchAll bounds event := by
  rw [matchEach, List.mapM_map]
  rfl

end Rule

end ThreatWatch
