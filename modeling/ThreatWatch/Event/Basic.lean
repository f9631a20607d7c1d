import ThreatWatch.Event.Severity

/-! Security events as rules see them. The metadata of an event holds scalars
only; a field of a rule is looked up among the event's own fields first and then
in its metadata. -/

namespace ThreatWatch

inductive Scalar where
  | bool (flag : Bool)
  | int (number : Int)
  | float (number : Binary64)
  | text (content : String)
  deriving DecidableEq, Repr, Inhabited

namespace Scalar

def toValue : Scalar → Value
  | .bool flag => .bool flag
  | .int number => .int number
  | .float number => .float number
  | .text content => .text content

def ofValue? : Value → Option Scalar
  | .bool flag => some (.bool flag)
  | .int number => some (.int number)
  | .float number => some (.float number)
  | .text content => some (.text content)
  | _ => none

@[simp] theorem ofValue?_toValue (scalar : Scalar) : ofValue? scalar.toValue = some scalar := by
  cases scalar <;> rfl

theorem isSome_ofValue? (value : Value) : (ofValue? value).isSome = value.isScalar := by
  cases value <;> rfl

end Scalar

inductive EventField where
  | id
  | timestamp
  | source
  | severity
  | category
  | description
  | host
  deriving DecidableEq, Repr

namespace EventField

def all : List EventField :=
  [.id, .timestamp, .source, .severity, .category, .description, .host]

def name : EventField → String
  | .id => "id"
  | .timestamp => "timestamp"
  | .source => "source"
  | .severity => "severity"
  | .category => "category"
  | .description => "description"
  | .host => "host"

def ofName? (name : String) : Option EventField :=
  all.find? fun field => field.name == name

@[simp] theorem ofName?_name (field : EventField) : ofName? field.name = some field := by
  cases field <;> rfl

end EventField

structure SecurityEvent where
  id : String
  timestamp : Calendar.Moment
  source : String
  severity : Severity
  category : String
  description : String
  host : String
  metadata : Table Scalar
  deriving DecidableEq, Repr

namespace SecurityEvent

def fieldText (event : SecurityEvent) : EventField → String
  | .id => event.id
  | .timestamp => event.timestamp.iso
  | .source => event.source
  | .severity => event.severity.name
  | .category => event.category
  | .description => event.description
  | .host => event.host

def resolve (event : SecurityEvent) (field : String) : Option Scalar :=
  match EventField.ofName? field with
  | some own => some (.text (event.fieldText own))
  | none => event.metadata.get? field

/-- The value of a field as criteria compare it: nothing where it is absent. -/
def fieldValue (event : SecurityEvent) (field : String) : Value :=
  ((event.resolve field).map Scalar.toValue).getD .null

def readMetadata (entries : List (Value × Value)) : Except Fault (Table Scalar) :=
  entries.foldlM (fun table entry => do
    match Scalar.ofValue? entry.2 with
    | some scalar => return table.put (← entry.1.shown) scalar
    | none => .error (.metadataNotScalar (← entry.1.quoted) entry.2.kindName)) []

end SecurityEvent

end ThreatWatch
