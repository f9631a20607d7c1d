import ThreatWatch.Criterion.Basic
import ThreatWatch.Event.Basic

/-! Selections. A selection is a list of clauses of which one has to hold, and a
clause is a list of criteria that all have to hold; a clause without criteria
always does. -/

namespace ThreatWatch

abbrev Clause := List Criterion

namespace Clause

def ofEntries (entries : List (Value × Value)) : Except Fault Clause :=
  entries.mapM fun entry => Criterion.compile entry.1 entry.2

/-- Whether an event passes every criterion; the comparison ends with the first
that it does not pass. -/
def holds (event : SecurityEvent) : Clause → Except Fault Bool
  | [] => .ok true
  | criterion :: rest => do
      if ← criterion.passes (event.fieldValue criterion.field) then holds event rest
      else return false

end Clause

abbrev Selection := List Clause

namespace Selection

def entriesOf? : Value → Option (List (Value × Value))
  | .map entries | .sealed entries => some entries
  | _ => none

def compile (name : String) (definition : Value) : Except Fault Selection :=
  match entriesOf? definition, definition.items? with
  | some entries, _ => do return [← Clause.ofEntries entries]
  | none, some [] => .error (.ofCause (.emptySelection name))
  | none, some items =>
      match items.mapM entriesOf? with
      | some mappings => mappings.mapM Clause.ofEntries
      | none => .error (.ofCause (.malformedSelection name))
  | none, none => .error (.ofCause (.malformedSelection name))

/-- Whether one of the clauses holds; the search ends with the first that
does. -/
def holds (event : SecurityEvent) : Selection → Except Fault Bool
  | [] => .ok false
  | clause :: rest => do
      if ← clause.holds event then return true else holds event rest

end Selection

end ThreatWatch
