import ThreatWatch.Fault
import ThreatWatch.Text.Case

/-! Keys of selections: a field name, and after each bar a modifier. A modifier
names the operator of the criterion or sets a flag. -/

namespace ThreatWatch

inductive Operator where
  | equals
  | contains
  | startsWith
  | endsWith
  | pattern
  | greater
  | atLeast
  | less
  | atMost
  | network
  deriving DecidableEq, Repr

namespace Operator

def name : Operator → String
  | .equals => "eq"
  | .contains => "contains"
  | .startsWith => "startswith"
  | .endsWith => "endswith"
  | .pattern => "re"
  | .greater => "gt"
  | .atLeast => "gte"
  | .less => "lt"
  | .atMost => "lte"
  | .network => "cidr"

/-- The operators that a modifier can name; equality is what holds without
one. -/
def ofModifier? : String → Option Operator
  | "contains" => some .contains
  | "startswith" => some .startsWith
  | "endswith" => some .endsWith
  | "re" => some .pattern
  | "gt" => some .greater
  | "gte" => some .atLeast
  | "lt" => some .less
  | "lte" => some .atMost
  | "cidr" => some .network
  | _ => none

end Operator

structure SelectionKey where
  field : String
  modifiers : List String
  deriving DecidableEq, Repr

namespace SelectionKey

def ofText (key : String) : SelectionKey :=
  match Text.splitOn '|' key with
  | [] => ⟨"", []⟩
  | field :: modifiers =>
      ⟨Text.trim field,
        (modifiers.map Text.trim).filterMap fun modifier =>
          if modifier = "" then none else some (Text.lower modifier)⟩

/-- What the modifiers ask for: the operators they name, in order, and whether
all values are required. -/
structure Request where
  operators : List Operator := []
  requireAll : Bool := false
  deriving DecidableEq, Repr

def request (shownKey : String) : List String → Except Fault Request
  | [] => .ok {}
  | modifier :: rest =>
      match Operator.ofModifier? modifier with
      | some operator => do
          let request ← request shownKey rest
          return { request with operators := operator :: request.operators }
      | none =>
          if modifier = "all" then do
            let request ← request shownKey rest
            return { request with requireAll := true }
          else .error (.ofCause (.unknownModifier modifier shownKey))

def read (key : SelectionKey) (shownKey : String) : Except Fault (Operator × Bool) := do
  if key.field = "" then .error (.ofCause (.missingField shownKey))
  else
    let request ← request shownKey key.modifiers
    match request.operators with
    | [] => return (.equals, request.requireAll)
    | [operator] => return (operator, request.requireAll)
    | operators =>
        .error (.ofCause (.conflictingModifiers (operators.map Operator.name) shownKey))

example : ofText "Field|Contains| all" = ⟨"Field", ["contains", "all"]⟩ := by decide +kernel

end SelectionKey

end ThreatWatch
