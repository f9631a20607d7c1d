import ThreatWatch.Value

/-! Rules. The detection of a rule holds its selections by name, in the order in
which they were written, and the condition that joins them under a key of its
own. -/

namespace ThreatWatch

inductive RuleStatus where
  | experimental
  | test
  | stable
  | deprecated
  deriving DecidableEq, Repr

namespace RuleStatus

def name : RuleStatus → String
  | .experimental => "experimental"
  | .test => "test"
  | .stable => "stable"
  | .deprecated => "deprecated"

def ofName? : String → Option RuleStatus
  | "experimental" => some .experimental
  | "test" => some .test
  | "stable" => some .stable
  | "deprecated" => some .deprecated
  | _ => none

@[simp] theorem ofName?_name (status : RuleStatus) : ofName? status.name = some status := by
  cases status <;> rfl

end RuleStatus

structure LogSource where
  category : Value := .null
  product : Value := .null
  service : Value := .null

structure Rule where
  id : String
  title : String
  /-- One of the rule levels. -/
  level : String
  status : RuleStatus
  description : String
  logSource : LogSource
  author : Option String
  date : Option String
  tags : List String
  falsePositives : List String
  references : List String
  /-- The file that the rule was read from. -/
  file : Option String
  /-- The selections and, under its own key, the condition; all mappings in it
  are sealed and all lists are tuples. -/
  detection : Table Value

namespace Rule

def conditionKey : String := "condition"

def condition (rule : Rule) : String :=
  match rule.detection.get? conditionKey with
  | some (.text content) => content
  | _ => ""

def definitions (rule : Rule) : Table Value :=
  rule.detection.filter fun entry => entry.1 ≠ conditionKey

def selectionNames (rule : Rule) : List String :=
  rule.definitions.keys

def summary (rule : Rule) : Table Value := [
  ("rule_id", .text rule.id),
  ("rule_title", .text rule.title),
  ("rule_level", .text rule.level),
  ("rule_status", .text rule.status.name),
  ("rule_tags", .list (rule.tags.map .text)),
  ("rule_file", (rule.file.map Value.text).getD .null)]

theorem selectionNames_eq (rule : Rule) :
    rule.selectionNames = rule.detection.keys.filter fun name => name ≠ conditionKey := by
  simp [selectionNames, definitions, Table.keys, List.filter_map, Function.comp_def]

end Rule

end ThreatWatch
