import ThreatWatch.Table
import ThreatWatch.Yaml.Layout
import ThreatWatch.Yaml.Node

/-! Nodes from tokens. A reader takes what is left of the tokens and the anchors
met so far, and gives a node with what is left after it. -/

namespace ThreatWatch.Yaml

/-- What has been read of a document: the tokens that are left, and what an alias
of each anchor stands for. -/
structure Reading where
  tokens : List Token
  anchors : Table Node := []
  handles : Table String

abbrev Reader (α : Type) := StateT Reading (Except Fault) α

namespace Grammar

def peek : Reader Token := do
  return (← get).tokens.headD .streamEnd

def drop : Reader Unit :=
  modify fun reading => { reading with tokens := reading.tokens.tail }

/-- Refuses the next token; a fault that it holds is the one that counts. -/
def refuse {α : Type} : Reader α := do
  match ← peek with
  | .broken fault => throw fault
  | _ => throw .yaml

def accept (token : Token) : Reader Bool := do
  if (← peek) = token then
    drop
    return true
  else return false

def expect (token : Token) : Reader Unit := do
  if !(← accept token) then refuse

def orEmpty (ends : List Token) (read : Reader Node) : Reader Node := do
  if ends.contains (← peek) then return Node.empty else read

/-! ## Properties -/

structure Properties where
  anchor : Option String := none
  tag : Option String := none

def Properties.areNone (properties : Properties) : Bool :=
  properties.anchor.isNone && properties.tag.isNone

def tagName : Option String → String → Reader String
  | none, suffix => pure suffix
  | some handle, suffix => do
      match (← get).handles.get? handle with
      | some expansion => return expansion ++ suffix
      | none => throw .yaml

def readAnchor : Reader (Option String) := do
  match ← peek with
  | .anchor name => do
      drop
      return some name
  | _ => return none

def readTag : Reader (Option (Option String × String)) := do
  match ← peek with
  | .tag handle suffix => do
      drop
      return some (handle, suffix)
  | _ => return none

def readProperties : Reader Properties := do
  let early ← readAnchor
  let tag ← readTag
  let anchor ←
    match early, tag with
    | none, some _ => readAnchor
    | early, _ => pure early
  match tag with
  | none => return ⟨anchor, none⟩
  | some (handle, suffix) => return ⟨anchor, some (← tagName handle suffix)⟩

/-- A tag that is given, unless it only asks for the usual meaning. -/
def Properties.given? (properties : Properties) : Option Tag :=
  match properties.tag with
  | none | some "!" => none
  | some name => some (Tag.ofName name)

def Properties.scalarTag (properties : Properties) (content : String) (plain : Bool) : Tag :=
  match properties.given? with
  | some tag => tag
  | none => if plain || properties.tag.isSome then Tag.ofPlain content else .text

/-! ## Anchors -/

/-- Takes up an anchor for a node that is not yet complete and whose aliases are inside it. -/
def openAnchor (mark : Nat) : Option String → Reader Unit
  | none => pure ()
  | some name => do
      if (← get).anchors.has name then throw .yaml
      else modify fun reading => { reading with anchors := reading.anchors.put name (.around mark) }

def closeAnchor (node : Node) : Option String → Reader Node
  | none => pure node
  | some name => do
      modify fun reading => { reading with anchors := reading.anchors.put name node }
      return node

def aliased (name : String) : Reader Node := do
  match (← get).anchors.get? name with
  | some node => return node
  | none => throw .yaml

/-- A collection with its anchor and tag. The number of tokens that are left where it begins is its
mark if aliases inside it need one. -/
def complete {α : Type} (properties : Properties) (build : Tag → α → Node) (usual : Tag)
    (content : Reader α) : Reader Node := do
  let mark := (← get).tokens.length
  openAnchor mark properties.anchor
  let content ← content
  let node := build (properties.given?.getD usual) content
  closeAnchor (if node.any Node.isAround then .marked mark node else node) properties.anchor

def completeScalar (properties : Properties) (scalar : Node) : Reader Node := do
  openAnchor 0 properties.anchor
  closeAnchor scalar properties.anchor

/-! ## Collections

Each takes the reader of the nodes inside it. `fuel` need not exceed the number
of tokens, as every item uses up at least one. -/

/-- How a node may begin: with a block collection, or even with the items of a
sequence that is not indented. -/
inductive Position where
  | flow
  | block
  | blockValue
  deriving DecidableEq, Repr

abbrev NodeReader := Position → Reader Node

def readBlockSequence (node : NodeReader) : (fuel : Nat) → Reader (List Node)
  | 0 => refuse
  | fuel + 1 => do
      if ← accept .blockEntry then
        let item ← orEmpty [.blockEntry, .blockEnd] (node .block)
        return item :: (← readBlockSequence node fuel)
      else
        expect .blockEnd
        return []

def readOpenSequence (node : NodeReader) : (fuel : Nat) → Reader (List Node)
  | 0 => pure []
  | fuel + 1 => do
      if ← accept .blockEntry then
        let item ← orEmpty [.blockEntry, .key, .value, .blockEnd] (node .block)
        return item :: (← readOpenSequence node fuel)
      else return []

def readBlockValue (node : NodeReader) : Reader Node := do
  if ← accept .value then orEmpty [.key, .value, .blockEnd] (node .blockValue)
  else return Node.empty

def readBlockMapping (node : NodeReader) : (fuel : Nat) → Reader (List (Node × Node))
  | 0 => refuse
  | fuel + 1 => do
      if ← accept .key then
        let key ← orEmpty [.key, .value, .blockEnd] (node .blockValue)
        let value ← readBlockValue node
        return (key, value) :: (← readBlockMapping node fuel)
      else
        expect .blockEnd
        return []

def readFlowValue (node : NodeReader) (closing : Token) : Reader Node := do
  if ← accept .value then orEmpty [.flowEntry, closing] (node .flow) else return Node.empty

def readFlowPair (node : NodeReader) (closing : Token) : Reader (Node × Node) := do
  let key ← orEmpty [.value, .flowEntry, closing] (node .flow)
  return (key, ← readFlowValue node closing)

def readFlowItem (node : NodeReader) : Reader Node := do
  if ← accept .key then
    complete {} .mapping .mapping do return [← readFlowPair node .flowSequenceEnd]
  else node .flow

def readFlowEntry (node : NodeReader) : Reader (Node × Node) := do
  if ← accept .key then readFlowPair node .flowMappingEnd
  else return (← node .flow, Node.empty)

/-- Items between commas up to a closing mark; a comma may stand after the last
one. -/
def readFlow {α : Type} (closing : Token) (item : Reader α) :
    (fuel : Nat) → (first : Bool) → Reader (List α)
  | 0, _ => refuse
  | fuel + 1, first => do
      if ← accept closing then return []
      else
        if !first then expect .flowEntry
        if ← accept closing then return []
        else
          let item' ← item
          return item' :: (← readFlow closing item fuel false)

/-! ## Nodes -/

def readEmpty (properties : Properties) : Reader Node :=
  if properties.areNone then refuse
  else completeScalar properties (.scalar (properties.scalarTag "" properties.tag.isNone) "")

def readContent (node : NodeReader) (fuel : Nat) (position : Position)
    (properties : Properties) : Reader Node := do
  let inBlock := position ≠ .flow
  match ← peek with
  | .scalar content plain => do
      drop
      completeScalar properties
        (.scalar (properties.scalarTag content (plain && properties.tag.isNone)) content)
  | .wide points => do
      drop
      completeScalar properties (.wide (properties.given?.getD .text) points)
  | .flowSequenceStart => do
      drop
      complete properties .sequence .sequence
        (readFlow .flowSequenceEnd (readFlowItem node) fuel true)
  | .flowMappingStart => do
      drop
      complete properties .mapping .mapping
        (readFlow .flowMappingEnd (readFlowEntry node) fuel true)
  | .blockEntry =>
      if position = .blockValue then
        complete properties .sequence .sequence (readOpenSequence node fuel)
      else readEmpty properties
  | .blockSequenceStart =>
      if inBlock then do
        drop
        complete properties .sequence .sequence (readBlockSequence node fuel)
      else readEmpty properties
  | .blockMappingStart =>
      if inBlock then do
        drop
        complete properties .mapping .mapping (readBlockMapping node fuel)
      else readEmpty properties
  | .broken fault => throw fault
  | _ => readEmpty properties

/-- Reads a node. Each level of nesting uses up a token, so `fuel` need not
exceed the number of tokens. -/
def readNode : (fuel : Nat) → NodeReader
  | 0, _ => refuse
  | fuel + 1, position => do
      match ← peek with
      | .alias name => do
          drop
          aliased name
      | _ => do
          let properties ← readProperties
          readContent (readNode fuel) (fuel + 1) position properties

/-! ## Documents -/

def usualHandles : Table String := [("!", "!"), ("!!", Tag.common)]

structure Declarations where
  hasVersion : Bool := false
  handles : Table String := []

def declare (declarations : Declarations) : Directive → Reader Declarations
  | .version major _ =>
      if declarations.hasVersion || major != 1 then throw .yaml
      else return { declarations with hasVersion := true }
  | .handle name expansion =>
      if declarations.handles.has name then throw .yaml
      else return { declarations with handles := declarations.handles.put name expansion }
  | .other => return declarations

def readDirectives : (fuel : Nat) → Declarations → Reader Declarations
  | 0, declarations => pure declarations
  | fuel + 1, declarations => do
      match ← peek with
      | .directive directive => do
          drop
          readDirectives fuel (← declare declarations directive)
      | _ => return declarations

def isDocumentMark : Token → Bool
  | .directive _ | .documentStart | .documentEnd | .streamEnd => true
  | _ => false

def readMarkedDocument (fuel : Nat) : Reader Node := do
  let declarations ← readDirectives fuel {}
  expect .documentStart
  modify fun reading => { reading with
    handles := usualHandles.foldl (fun handles entry => handles.putMissing entry.1 entry.2)
      declarations.handles }
  if isDocumentMark (← peek) then return Node.empty else readNode fuel .block

def skipDocumentEnds : (fuel : Nat) → Reader Unit
  | 0 => pure ()
  | fuel + 1 => do
      if ← accept .documentEnd then skipDocumentEnds fuel

def readStream (fuel : Nat) : Reader (Option Node) := do
  match ← peek with
  | .streamEnd => return none
  | first => do
      let root ←
        match first with
        | .directive _ | .documentStart => readMarkedDocument fuel
        | _ => readNode fuel .block
      skipDocumentEnds fuel
      expect .streamEnd
      return some root

end Grammar

def Node.ofText? (text : String) : Except Fault (Option Node) :=
  let tokens := tokens text
  (Grammar.readStream (tokens.length + 1)).run'
    { tokens := tokens, handles := Grammar.usualHandles }

end ThreatWatch.Yaml
