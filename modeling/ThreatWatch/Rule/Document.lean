import ThreatWatch.Digest.Sha256
import ThreatWatch.Document
import ThreatWatch.Rule.Basic
import ThreatWatch.Text.Case

/-! Rules from documents. A document is a mapping with at least a title, a level
and a detection that holds a condition; whatever else it says about the rule may
be missing. -/

namespace ThreatWatch

namespace Value

mutual

/-- The value with all of its mappings sealed and all of its lists turned into
tuples. Keys become texts; of two keys with the same text the later one gives
the value. -/
def sealedForm : Value → Except Fault Value
  | .list items | .tuple items => do return .tuple (← sealedItems items)
  | .map entries | .sealed entries => do
      let table ← sealedTable [] entries
      return .sealed (table.map fun entry => (.text entry.1, entry.2))
  | value => .ok value

def sealedItems : List Value → Except Fault (List Value)
  | [] => .ok []
  | item :: rest => do return (← sealedForm item) :: (← sealedItems rest)

def sealedTable (table : Table Value) : List (Value × Value) → Except Fault (Table Value)
  | [] => .ok table
  | (key, value) :: rest => do
      let name ← key.shown
      let value ← sealedForm value
      sealedTable (table.put name value) rest

end

end Value

namespace Document

/-- The value of a part with all of its mappings sealed and all of its lists turned into tuples.
A part that holds itself has none: on the way to it there are more steps than there are parts. -/
def sealedPart (parts : List Part) : (fuel : Nat) → Nat → Except Fault Value
  | 0, _ => .error .selfReference
  | fuel + 1, place =>
      match parts[place]? with
      | none => .ok .null
      | some (.leaf leaf) => leaf.toValue.sealedForm
      | some (.set items) => .ok (.set (items.map Leaf.toValue))
      | some (.list items) | some (.tuple items) => do
          return .tuple (← items.mapM (sealedPart parts fuel))
      | some (.map entries) => do
          let named ← entries.mapM fun entry => do
            return (← entry.1.toValue.shown, ← sealedPart parts fuel entry.2)
          return .sealed ((Table.ofEntries named).map fun entry => (.text entry.1, entry.2))

def sealedForm : Document → Except Fault Value
  | .plain value => value.sealedForm
  | .linked parts place => sealedPart parts (parts.length + 1) place

def namedEntries (document : Document) : Except Fault (Table Document) := do
  let named ← document.entries.mapM fun entry => do return (← entry.1.shown, entry.2)
  return Table.ofEntries named

def sealAll (table : Table Document) : Except Fault (Table Value) :=
  table.mapM fun entry => do return (entry.1, ← entry.2.sealedForm)

end Document

namespace Rule

def fail {α : Type} (cause : RuleCause) : Except Fault α :=
  .error (.ofCause cause)

def placeOf (file : Option String) : String :=
  match file with
  | none | some "" => "<inline>"
  | some path => path

def derivedId (title : String) : String :=
  "auto-" ++ String.ofList ((Sha256.hexDigest title).toList.take 12)

def checkDetection (place : String) (detection : Document) : Except Fault Unit :=
  if detection.isMapping then
    match (detection.field conditionKey).text? with
    | some content =>
        if Text.isBlankText content then fail (.missingCondition place) else .ok ()
    | none => fail (.missingCondition place)
  else fail (.missingDetection place)

def readLevel (place : String) (level : Document) : Except Fault String := do
  let name ← level.shownLower
  if ruleLevels.contains name then return name
  else fail (.invalidLevel (← level.quoted) place)

/-- A title that is not all characters has no octets to derive an id from. -/
def readId (title : String) (isEncodable : Bool) (id : Document) : Except Fault String := do
  let name := Text.trim (← id.shownOrEmpty)
  if name ≠ "" then return name
  else if isEncodable then return derivedId title
  else .error .undecodableText

def readLogSource (source : Document) : LogSource :=
  if source.isMapping then
    ⟨(source.field "category").toValue, (source.field "product").toValue,
      (source.field "service").toValue⟩
  else {}

def ofDocument (document : Document) (file : Option String) : Except Fault Rule := do
  let place := placeOf file
  if document.isMapping then
    let field := document.field
    let title := Text.trim (← (field "title").shownOrEmpty)
    if title = "" then fail (.missingTitle place)
    else
      checkDetection place (field "detection")
      let level ← readLevel place (field "level")
      let id ← readId title (field "title").isEncodable (field "id")
      let status ← (field "status").shownLower
      let named ← (field "detection").namedEntries
      return {
        id := id
        title := title
        level := level
        status := (RuleStatus.ofName? status).getD .experimental
        description := ← (field "description").shownOrEmpty
        logSource := readLogSource (field "logsource")
        author := ← (field "author").shownIfAny
        date := ← (field "date").shownIfAny
        tags := ← (field "tags").shownItems
        falsePositives := ← (field "falsepositives").shownItems
        references := ← (field "references").shownItems
        file := file
        detection := ← Document.sealAll named }
  else fail (.documentNotMapping place)

end Rule

end ThreatWatch
