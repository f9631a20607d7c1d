import ThreatWatch.Text.Base64
import ThreatWatch.Yaml.Grammar
import ThreatWatch.Yaml.Number

/-! Values of documents that are trees. Faults are weighed by their depth: of several faults
the one nearest the root counts, and of those at one depth the first. -/

namespace ThreatWatch.Yaml

/-- A fault with the depth at which it lies. -/
structure Setback where
  depth : Nat
  fault : Fault

abbrev Outcome (α : Type) := Except Setback α

namespace Outcome

/-- Both outcomes together; the nearer fault counts, and the first of two
equally near ones. -/
def pair {α β : Type} : Outcome α → Outcome β → Outcome (α × β)
  | .ok first, .ok second => .ok (first, second)
  | .ok _, .error second => .error second
  | .error first, .ok _ => .error first
  | .error first, .error second => .error (if second.depth < first.depth then second else first)

def combine {α β γ : Type} (join : α → β → γ) (first : Outcome α) (second : Outcome β) :
    Outcome γ :=
  (pair first second).map fun both => join both.1 both.2

end Outcome

namespace Content

def refused {α : Type} (depth : Nat) : Outcome α :=
  .error ⟨depth, .yaml⟩

def lift {α : Type} (depth : Nat) : Except Fault α → Outcome α
  | .ok result => .ok result
  | .error fault => .error ⟨depth, fault⟩

/-! ## Scalars -/

mutual

def scalarText? : Node → Option String
  | .scalar _ content => some content
  | .mapping _ entries => standingText? entries
  | _ => none

def standingText? : List (Node × Node) → Option String
  | [] => none
  | (key, value) :: rest => if key.tag = .value then scalarText? value else standingText? rest

end

def truth (content : String) : Except Fault Bool :=
  match Text.lower content with
  | "yes" | "true" | "on" => .ok true
  | "no" | "false" | "off" => .ok false
  | _ => .error .unknownTruthValue

def octets (content : String) : Except Fault (List UInt8) :=
  if content.toList.all fun character => character.toNat < 128 then
    match Text.Base64.decode? content.toList with
    | some octets => .ok octets
    | none => .error .yaml
  else .error .yaml

def time (content : String) : Except Fault Value :=
  match Timestamp.read? (Tag.withoutFinalBreak content.toList) with
  | none => .error .noSuchOperation
  | some timestamp =>
      match timestamp.value? with
      | some value => .ok value
      | none => .error .impossibleDate

def scalarValue (tag : Tag) (content : String) : Except Fault Value :=
  match tag with
  | .null => .ok .null
  | .bool => (truth content).map .bool
  | .int => (WholeNumber.read content).map .int
  | .float => (RealNumber.read content).map .float
  | .text => .ok (.text content)
  | .binary => (octets content).map .bytes
  | .timestamp => time content
  | _ => .error .yaml

def isScalarTag : Tag → Bool
  | .null | .bool | .int | .float | .text | .binary | .timestamp => true
  | _ => false

def isCollectionTag : Tag → Bool
  | .sequence | .mapping | .orderedMapping | .pairs | .set => true
  | _ => false

/-! ## Merging -/

mutual

def canMerge : List (Node × Node) → Bool
  | [] => true
  | (key, value) :: rest => (key.tag != .merge || isMergeSource value) && canMerge rest

def isMergeSource : Node → Bool
  | .mapping _ entries => canMerge entries
  | .sequence _ items => areMergeSources items
  | _ => false

def areMergeSources : List Node → Bool
  | [] => true
  | .mapping _ entries :: rest => canMerge entries && areMergeSources rest
  | _ :: _ => false

end

/-! ## Values -/

abbrev Entries := List (Value × Value)

mutual

/-- The value of a node. Scalars are read at the depth of the node, and what a
collection holds one deeper. -/
def value (depth : Nat) (node : Node) : Outcome Value :=
  if isScalarTag node.tag then
    match scalarText? node with
    | none => refused depth
    | some content => lift depth (scalarValue node.tag content)
  else
    match node with
    | .sequence .sequence items => (itemValues (depth + 1) items).map .list
    | .sequence .orderedMapping items => (pairValues (depth + 1) items).map .list
    | .sequence .pairs items => (pairValues (depth + 1) items).map .list
    | .mapping .mapping entries =>
        if canMerge entries then (mappingEntries (depth + 1) entries).map .map
        else refused (depth + 1)
    | .mapping .set entries =>
        if canMerge entries then
          (mappingEntries (depth + 1) entries).map fun entries => .set (entries.map Prod.fst)
        else refused (depth + 1)
    | node => refused (if isCollectionTag node.tag then depth + 1 else depth)

def itemValues (depth : Nat) : List Node → Outcome (List Value)
  | [] => .ok []
  | item :: rest => Outcome.combine (· :: ·) (value depth item) (itemValues depth rest)

def pairValues (depth : Nat) : List Node → Outcome (List Value)
  | [] => .ok []
  | .mapping _ [(key, held)] :: rest =>
      let pair := Outcome.combine (fun key held => .tuple [key, held])
        (value depth key) (value depth held)
      Outcome.combine (· :: ·) pair (pairValues depth rest)
  | _ :: _ => refused depth

def mappingEntries (depth : Nat) (entries : List (Node × Node)) : Outcome Entries :=
  let (merged, own) := splitEntries depth entries
  Outcome.combine (fun merged own => Value.ofEntries (merged ++ own)) merged own

def splitEntries (depth : Nat) : List (Node × Node) → Outcome Entries × Outcome Entries
  | [] => (.ok [], .ok [])
  | (key, held) :: rest =>
      let (merged, own) := splitEntries depth rest
      if key.tag = .merge then (Outcome.combine (· ++ ·) (mergedEntries depth held) merged, own)
      else
        let entry := Outcome.pair (keyValue depth key) (value depth held)
        (merged, Outcome.combine (· :: ·) entry own)

/-- The key of an entry, which must not be a collection. -/
def keyValue (depth : Nat) : Node → Outcome Value
  | .scalar .value content => .ok (.text content)
  | key => if isCollectionTag key.tag then refused depth else value depth key

def mergedEntries (depth : Nat) : Node → Outcome Entries
  | .mapping _ entries =>
      let (merged, own) := splitEntries depth entries
      Outcome.combine (· ++ ·) merged own
  | .sequence _ items => mergedSources depth items
  | _ => refused depth

/-- The entries of several mappings to be merged; those of the first come
last, so that they count. -/
def mergedSources (depth : Nat) : List Node → Outcome Entries
  | [] => .ok []
  | item :: rest =>
      Outcome.combine (· ++ ·) (mergedSources depth rest) (mergedEntries depth item)

end

end Content

end ThreatWatch.Yaml
