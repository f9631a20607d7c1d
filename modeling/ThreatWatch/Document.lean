import ThreatWatch.Text.Case
import ThreatWatch.Text.Point
import ThreatWatch.Value

/-! Documents. Most documents are values. A document in which a collection holds itself, or in
which a text has code points that are no characters, is a table of parts that lead to one another
by their places in the table. -/

namespace ThreatWatch

/-- What leads to no other part: a value, or a text with code points that are no characters. -/
inductive Leaf where
  | value (value : Value)
  | text (points : List Text.Point)

/-- Keys and the members of sets are leaves, as a collection cannot be either. -/
inductive Part where
  | leaf (leaf : Leaf)
  | list (items : List Nat)
  | tuple (items : List Nat)
  | set (items : List Leaf)
  | map (entries : List (Leaf × Nat))

inductive Document where
  | plain (value : Value)
  | linked (parts : List Part) (place : Nat)

instance : Coe Value Document :=
  ⟨.plain⟩

namespace Leaf

/-- The value of a leaf, with a character in the place of each code point that is none. -/
def toValue : Leaf → Value
  | .value held => held
  | .text points => .text (Text.ofPoints points)

def isPresent : Leaf → Bool
  | .value held => held.isPresent
  | .text points => !points.isEmpty

/-- Whether a leaf can be turned into octets if it is a text: no half of a surrogate pair can. -/
def isEncodable : Leaf → Bool
  | .value _ => true
  | .text points => (Text.ofPoints? points).isSome

def quoted : Leaf → Except Fault String
  | .value held => held.quoted
  | .text points => .ok (Text.quotedPoints points)

def isSame : Leaf → Leaf → Bool
  | .value one, .value other => one.same other
  | .text points, .text others => points == others
  | _, _ => false

end Leaf

namespace Part

def targets : Part → List Nat
  | .leaf _ | .set _ => []
  | .list items | .tuple items => items
  | .map entries => entries.map Prod.snd

def leaves : Part → List Leaf
  | .leaf held => [held]
  | .set items => items
  | .list _ | .tuple _ => []
  | .map entries => entries.map Prod.fst

def isPresent : Part → Bool
  | .leaf held => held.isPresent
  | .set items => !items.isEmpty
  | part => !part.targets.isEmpty

end Part

namespace Document

def startingAt (parts : List Part) (place : Nat) : Document :=
  match parts[place]? with
  | none => .plain .null
  | some (.leaf (.value value)) => .plain value
  | some _ => .linked parts place

/-! ## Collections -/

def isMapping : Document → Bool
  | .plain (.map _) => true
  | .plain _ => false
  | .linked parts place =>
      match parts[place]? with
      | some (.map _) => true
      | _ => false

def entries : Document → List (Value × Document)
  | .plain (.map entries) => entries.map fun entry => (entry.1, .plain entry.2)
  | .plain _ => []
  | .linked parts place =>
      match parts[place]? with
      | some (.map entries) => entries.map fun entry => (entry.1.toValue, startingAt parts entry.2)
      | _ => []

/-- What is under a text key, nothing where it is missing. -/
def field (document : Document) (name : String) : Document :=
  match document.entries.find? fun entry => entry.1.same (.text name) with
  | some entry => entry.2
  | none => .plain .null

def items : Document → List Document
  | .plain value => (value.items?.getD []).map .plain
  | .linked parts place =>
      match parts[place]? with
      | some (.list items) | some (.tuple items) => items.map (startingAt parts)
      | _ => []

/-! ## Scalars -/

def isNull : Document → Bool
  | .plain value => value.isNull
  | .linked _ _ => false

def isPresent : Document → Bool
  | .plain value => value.isPresent
  | .linked parts place => (parts[place]?).any Part.isPresent

/-- A text, with a character in the place of each code point that is none. -/
def text? : Document → Option String
  | .plain value => value.text?
  | .linked parts place =>
      match parts[place]? with
      | some (.leaf leaf) => leaf.toValue.text?
      | _ => none

def isEncodable : Document → Bool
  | .plain _ => true
  | .linked parts place =>
      match parts[place]? with
      | some (.leaf leaf) => leaf.isEncodable
      | _ => true

/-! ## Texts -/

/-- The form of a part inside another one or in a message. Of a collection that is already being
written, around this place, only its brackets are. `fuel` need not exceed the number of parts, as
the places around are different. -/
def quotedPart (parts : List Part) : (fuel : Nat) → (around : List Nat) → Nat → Except Fault String
  | 0, _, _ => .ok ""
  | fuel + 1, around, place =>
      let write := quotedPart parts fuel (place :: around)
      match parts[place]? with
      | none => .ok Value.missingText
      | some (.leaf leaf) => leaf.quoted
      | some (.list items) =>
          if around.contains place then .ok "[...]"
          else do return "[" ++ Text.join ", " (← items.mapM write) ++ "]"
      | some (.tuple items) =>
          if around.contains place then .ok "(...)"
          else do
            let texts ← items.mapM write
            return "(" ++ Text.join ", " texts ++ (if texts.length = 1 then ",)" else ")")
      | some (.set items) => do
          let texts ← items.mapM Leaf.quoted
          return if texts.isEmpty then "set()" else "\x7b" ++ Text.join ", " texts ++ "\x7d"
      | some (.map entries) =>
          if around.contains place then .ok "\x7b...\x7d"
          else do
            let texts ← entries.mapM fun entry => do
              return (← entry.1.quoted) ++ ": " ++ (← write entry.2)
            return "\x7b" ++ Text.join ", " texts ++ "\x7d"

def quoted : Document → Except Fault String
  | .plain value => value.quoted
  | .linked parts place => quotedPart parts (parts.length + 1) [] place

def shown : Document → Except Fault String
  | .plain value => value.shown
  | .linked parts place =>
      match parts[place]? with
      | some (.leaf leaf) => leaf.toValue.shown
      | _ => quotedPart parts (parts.length + 1) [] place

def shownOrEmpty (document : Document) : Except Fault String :=
  if document.isPresent then document.shown else .ok ""

def shownIfAny (document : Document) : Except Fault (Option String) :=
  if document.isNull then .ok none else do return some (← document.shown)

def shownLower (document : Document) : Except Fault String := do
  return Text.lower (Text.trim (← document.shownOrEmpty))

/-- The texts of the items of a list, without blank ones. -/
def shownItems (document : Document) : Except Fault (List String) := do
  let texts ← document.items.mapM fun item => do return Text.trim (← item.shown)
  return texts.filter fun text => text ≠ ""

/-! ## Values -/

/-- The value of a part, unless it holds itself. -/
def treePart (parts : List Part) : (fuel : Nat) → Nat → Option Value
  | 0, _ => none
  | fuel + 1, place =>
      match parts[place]? with
      | none => some .null
      | some (.leaf leaf) => some leaf.toValue
      | some (.set items) => some (.set (items.map Leaf.toValue))
      | some (.list items) => (items.mapM (treePart parts fuel)).map .list
      | some (.tuple items) => (items.mapM (treePart parts fuel)).map .tuple
      | some (.map entries) =>
          (entries.mapM fun entry => (treePart parts fuel entry.2).map fun value =>
            (entry.1.toValue, value)).map .map

/-- The value that a document is, unless a part of it holds itself. On the way to such a part there
are more steps than there are parts. -/
def tree? : Document → Option Value
  | .plain value => some value
  | .linked parts place => treePart parts (parts.length + 1) place

/-- The value that a document is, or one that is written like it: its text, or where it has none
all of its leaves. -/
def toValue (document : Document) : Value :=
  match document.tree?, document.quoted with
  | some value, _ => value
  | none, .ok text => .text text
  | none, .error _ =>
      match document with
      | .plain value => value
      | .linked parts _ => .list ((parts.flatMap Part.leaves).map Leaf.toValue)

end Document

end ThreatWatch
