import ThreatWatch.Event.Metadata
import ThreatWatch.Event.Timestamp
import ThreatWatch.Json

/-! Security events from raw mappings. The attributes of an event come from the
keys of the same names, everything else becomes metadata, and a table of
mappings may name other places for both. -/

namespace ThreatWatch

/-- An event that still lacks what only the moment of its arrival can give: an
id and a timestamp, where the raw mapping has none. -/
structure EventDraft where
  id : Option String
  timestamp : Option Calendar.Moment
  source : String
  severity : Severity
  category : String
  description : String
  host : String
  metadata : Table Scalar
  deriving DecidableEq, Repr

def EventDraft.complete (draft : EventDraft) (now : Calendar.Moment) (freshId : String) :
    SecurityEvent where
  id := draft.id.getD freshId
  timestamp := draft.timestamp.getD now
  source := draft.source
  severity := draft.severity
  category := draft.category
  description := draft.description
  host := draft.host
  metadata := draft.metadata

namespace EventMapping

abbrev Entries := List (Value × Value)

/-! ## Body -/

def bodyKey : String := "body"
def metadataKey : String := "metadata"
def messageKey : String := "message"

def readBody (body : Value) : Except Fault Value :=
  match body with
  | .text content =>
      if (Text.trim content).toList.head? = some '\x7b' then
        match Json.read content with
        | .ok value => .ok value
        | .error .malformed => .ok body
        | .error .tooManyDigits => .error .tooManyDigits
      else .ok body
  | body => .ok body

def putMissing (key value : Value) (entries : Entries) : Entries :=
  if (Value.lookup? entries key).isSome then entries else Value.putEntry key value entries

def liftEventData (body : Value) : Value :=
  match body with
  | .map entries =>
      match Value.entry entries "EventData" with
      | .map data =>
          .map (data.foldl (fun entries entry => putMissing entry.1 entry.2 entries) entries)
      | _ => body
  | body => body

def expand (raw : Entries) : Except Fault Entries := do
  match Value.lookup? raw (.text bodyKey) with
  | none => return raw
  | some body => return Value.putEntry (.text bodyKey) (liftEventData (← readBody body)) raw

/-! ## Mappings -/

def pathsOf (source : Value) : Except Fault (List String) :=
  match source.items? with
  | some items => (items.filter Value.isPresent).mapM Value.shown
  | none => do return [← source.shown]

def isFilled : Value → Bool
  | .null => false
  | .text content => !Text.isBlankText content
  | _ => true

def firstFilled (expanded : Value) : List String → Option Value
  | [] => none
  | path :: rest =>
      let found := expanded.atPath path
      if isFilled found then some found else firstFilled expanded rest

def applied (expanded : Value) : (mappings : Entries) → Except Fault Entries
  | [] => .ok []
  | (target, source) :: rest => do
      if source.isNull then applied expanded rest
      else
        let found := firstFilled expanded (← pathsOf source)
        let others ← applied expanded rest
        return (found.map fun value => (target, value)).toList ++ others

def tableOf (mappings : Value) : Except Fault Entries :=
  if !mappings.isPresent then .ok []
  else
    match mappings with
    | .map entries => .ok entries
    | _ => .error .noSuchOperation

/-! ## Events -/

def isAttribute (key : Value) : Bool :=
  key.text?.any fun name => (EventField.ofName? name).isSome

def isReserved (key : Value) : Bool :=
  isAttribute key || key.text?.any fun name => name == bodyKey || name == metadataKey

def bodyMetadata (body : Value) : Except Fault (Table Scalar) :=
  match body with
  | .map entries => Metadata.flatten "" entries
  | body =>
      match Scalar.ofValue? body with
      | some scalar => .ok [(messageKey, scalar)]
      | none => .ok []

def nestedMetadata (nested : Value) : Except Fault (Table Scalar) :=
  match nested with
  | .map entries => Metadata.flatten "" entries
  | _ => .ok []

/-- The mapped values that are scalars and no attributes, by their targets. -/
def mappedMetadata : (mapped : Entries) → Except Fault (Table Scalar)
  | [] => .ok []
  | (target, value) :: rest => do
      if isAttribute target then mappedMetadata rest
      else
        match Scalar.ofValue? value with
        | none => mappedMetadata rest
        | some scalar => do
            let name ← target.shown
            return (name, scalar) :: (← mappedMetadata rest)

/-- The metadata of an event: mapped values come before nested metadata, that
before the body, and the body before all other keys. -/
def metadataOf (expanded mapped : Entries) : Except Fault (Table Scalar) := do
  let body ← bodyMetadata (Value.entry expanded bodyKey)
  let nested ← nestedMetadata (Value.entry expanded metadataKey)
  let others ← Metadata.flatten "" (expanded.filter fun entry => !isReserved entry.1)
  let direct := others.foldl (fun table entry => table.putMissing entry.1 entry.2)
    (body.putAll nested)
  return direct.putAll (← mappedMetadata mapped)

def attributeOf (expanded mapped : Entries) (field : EventField) : Value :=
  (Value.lookup? mapped (.text field.name)).getD (Value.entry expanded field.name)

/-- The text of a value, or a default where the value does not count as
present. -/
def textOr (fallback : String) (value : Value) : Except Fault String :=
  if value.isPresent then value.shown else .ok fallback

def draft (mappings : Value) (raw : Entries) : Except Fault EventDraft := do
  let expanded ← expand raw
  let mapped ← applied (.map expanded) (← tableOf mappings)
  let metadata ← metadataOf expanded mapped
  let field := attributeOf expanded mapped
  let id ← if (field .id).isPresent then (field .id).shown.map some else pure none
  let timestamp ←
    if (field .timestamp).isNull then pure none
    else (Timestamp.ofValue (field .timestamp)).map some
  return {
    id := id
    timestamp := timestamp
    source := ← textOr "unknown" (field .source)
    severity := ← Severity.read (field .severity) (some .medium)
    category := ← textOr "unknown" (field .category)
    description := ← textOr "" (field .description)
    host := ← textOr "" (field .host)
    metadata := metadata }

def draftOf (mappings raw : Value) : Except Fault EventDraft :=
  match raw with
  | .map entries => draft mappings entries
  | _ => .error .wrongKind

end EventMapping

end ThreatWatch
