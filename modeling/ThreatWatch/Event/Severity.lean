import ThreatWatch.Text.Case
import ThreatWatch.Value

/-! Severities of events. -/

namespace ThreatWatch

inductive Severity where
  | low
  | medium
  | high
  | critical
  deriving DecidableEq, Repr

namespace Severity

def name : Severity → String
  | .low => "low"
  | .medium => "medium"
  | .high => "high"
  | .critical => "critical"

def ofName? : String → Option Severity
  | "low" => some .low
  | "medium" => some .medium
  | "high" => some .high
  | "critical" => some .critical
  | _ => none

@[simp] theorem ofName?_name (severity : Severity) : ofName? severity.name = some severity := by
  cases severity <;> rfl

def rank : Severity → Nat
  | .low => 0
  | .medium => 1
  | .high => 2
  | .critical => 3

def highest? : List Severity → Option Severity
  | [] => none
  | severity :: rest =>
      match highest? rest with
      | some other => if severity.rank < other.rank then some other else some severity
      | none => some severity

/-- Reads a severity in any letter case, between blanks. What is no severity
becomes the fallback, where there is one. -/
def read (value : Value) (fallback : Option Severity) : Except Fault Severity := do
  let content := Text.lower (Text.trim (← value.shownOrEmpty))
  match ofName? content, fallback with
  | some severity, _ => return severity
  | none, some severity => return severity
  | none, none => .error (.invalidSeverity (Text.quoted content))

end Severity

end ThreatWatch
