import ThreatWatch.Yaml.Block
import ThreatWatch.Yaml.Plain
import ThreatWatch.Yaml.Property
import ThreatWatch.Yaml.Quoted

/-! Tokens from the layout of a document. Indentation opens and closes block
collections. Whether a node is a key shows only at the colon after it, so each
node that might be one is a candidate until then; the tokens that a settled
candidate brings are put in before it. -/

namespace ThreatWatch.Yaml

/-- A node that may turn out to be a key. -/
structure Candidate where
  /-- How many tokens come before the node. -/
  position : Nat
  /-- Nothing but a key can stand where the node stands. -/
  required : Bool
  index : Nat
  line : Nat
  column : Nat

structure Layout where
  cursor : Cursor
  /-- How many brackets are open. -/
  depth : Nat := 0
  /-- The column of the innermost block collection, −1 outside of all. -/
  indent : Int := -1
  outerIndents : List Int := []
  keyAllowed : Bool := true
  /-- At most one candidate for each number of open brackets. -/
  candidates : List (Nat × Candidate) := []
  tokens : Array Token := #[]
  finished : Bool := false

namespace Layout

abbrev Step := Except Fault Layout

def inFlow (layout : Layout) : Bool :=
  layout.depth != 0

def column (layout : Layout) : Int :=
  layout.cursor.column

def emit (token : Token) (layout : Layout) : Layout :=
  { layout with tokens := layout.tokens.push token }

def emitMark (token : Token) (length : Nat) (layout : Layout) : Layout :=
  { layout.emit token with cursor := layout.cursor.skip length }

/-! ## Candidates -/

/-- A candidate is out of date on another line or more than 1024 characters
later. -/
def isStale (cursor : Cursor) (candidate : Candidate) : Bool :=
  candidate.line != cursor.line || cursor.index - candidate.index > 1024

def dropStale (layout : Layout) : Step :=
  let stale := layout.candidates.filter fun entry => isStale layout.cursor entry.2
  if stale.any fun entry => entry.2.required then .error .yaml
  else
    .ok { layout with
      candidates := layout.candidates.filter fun entry => !isStale layout.cursor entry.2 }

def candidate? (layout : Layout) : Option Candidate :=
  List.lookup layout.depth layout.candidates

def withoutCandidate (layout : Layout) : Layout :=
  { layout with candidates := layout.candidates.filter fun entry => entry.1 != layout.depth }

/-- Gives up the candidate among the same brackets, which must not be needed. -/
def dropCandidate (layout : Layout) : Step :=
  match layout.candidate? with
  | some candidate => if candidate.required then .error .yaml else .ok layout.withoutCandidate
  | none => .ok layout

def addCandidate (layout : Layout) : Step :=
  if layout.keyAllowed then do
    let layout ← layout.dropCandidate
    let candidate : Candidate := {
      position := layout.tokens.size
      required := !layout.inFlow && layout.indent == layout.column
      index := layout.cursor.index
      line := layout.cursor.line
      column := layout.cursor.column }
    return { layout with candidates := (layout.depth, candidate) :: layout.candidates }
  else .ok layout

/-! ## Indentation -/

def closeBlocks (column : Int) : (outer : List Int) → Layout → Layout
  | [], layout => layout
  | parent :: others, layout =>
      if layout.indent > column then
        closeBlocks column others
          { layout.emit .blockEnd with indent := parent, outerIndents := others }
      else layout

def unwind (column : Int) (layout : Layout) : Layout :=
  if layout.inFlow then layout else closeBlocks column layout.outerIndents layout

def opensBlock (column : Int) (layout : Layout) : Bool :=
  decide (layout.indent < column)

def indentTo (column : Int) (layout : Layout) : Layout :=
  { layout with indent := column, outerIndents := layout.indent :: layout.outerIndents }

def openBlock (token : Token) (layout : Layout) : Layout :=
  if layout.opensBlock layout.column then (layout.indentTo layout.column).emit token else layout

/-! ## Marks -/

def endDocument (layout : Layout) : Step := do
  let layout ← (layout.unwind (-1)).dropCandidate
  return { layout with keyAllowed := false }

def endStream (layout : Layout) : Step := do
  let layout ← layout.endDocument
  return { layout.emit .streamEnd with candidates := [], finished := true }

def takeDirective (layout : Layout) : Step := do
  let layout ← layout.endDocument
  let (directive, after) ← Property.readDirective layout.cursor
  return { layout.emit (.directive directive) with cursor := after }

def takeDocumentMark (token : Token) (layout : Layout) : Step := do
  return (← layout.endDocument).emitMark token 3

def openFlow (token : Token) (layout : Layout) : Step := do
  let layout ← layout.addCandidate
  return { layout.emitMark token 1 with depth := layout.depth + 1, keyAllowed := true }

def closeFlow (token : Token) (layout : Layout) : Step := do
  let layout ← layout.dropCandidate
  return { layout.emitMark token 1 with depth := layout.depth - 1, keyAllowed := false }

def takeFlowEntry (layout : Layout) : Step := do
  return { (← layout.dropCandidate).emitMark .flowEntry 1 with keyAllowed := true }

def takeBlockEntry (layout : Layout) : Step := do
  if !layout.inFlow && !layout.keyAllowed then .error .yaml
  else
    let layout := if layout.inFlow then layout else layout.openBlock .blockSequenceStart
    return { (← layout.dropCandidate).emitMark .blockEntry 1 with keyAllowed := true }

def takeKey (layout : Layout) : Step := do
  if !layout.inFlow && !layout.keyAllowed then .error .yaml
  else
    let layout := if layout.inFlow then layout else layout.openBlock .blockMappingStart
    return { (← layout.dropCandidate).emitMark .key 1 with keyAllowed := !layout.inFlow }

/-- Puts the tokens of a settled key in before it. -/
def settle (candidate : Candidate) (layout : Layout) : Layout :=
  let layout := layout.withoutCandidate
  let layout :=
    { layout with tokens := layout.tokens.insertIdxIfInBounds candidate.position .key }
  if !layout.inFlow && layout.opensBlock candidate.column then
    let layout := layout.indentTo candidate.column
    { layout with
      tokens := layout.tokens.insertIdxIfInBounds candidate.position .blockMappingStart }
  else layout

/-- Takes the colon before a value: of the candidate, or of a key that was
marked. -/
def takeValue (layout : Layout) : Step :=
  match layout.candidate? with
  | some candidate =>
      .ok { (layout.settle candidate).emitMark .value 1 with keyAllowed := false }
  | none => do
      if !layout.inFlow && !layout.keyAllowed then .error .yaml
      else
        let layout := if layout.inFlow then layout else layout.openBlock .blockMappingStart
        return { (← layout.dropCandidate).emitMark .value 1 with keyAllowed := !layout.inFlow }

/-! ## Nodes -/

/-- Takes a node that may be a key; none may follow it on its line. -/
def takeNode (read : Cursor → Except Fault (Token × Cursor)) (layout : Layout) : Step := do
  let layout ← layout.addCandidate
  let (token, after) ← read layout.cursor
  return { layout.emit token with cursor := after, keyAllowed := false }

def readAlias (cursor : Cursor) : Except Fault (Token × Cursor) := do
  let (name, after) ← Property.readMarkedName cursor
  return (.alias name, after)

def readAnchor (cursor : Cursor) : Except Fault (Token × Cursor) := do
  let (name, after) ← Property.readMarkedName cursor
  return (.anchor name, after)

def readQuoted (style : Quoted.Style) (cursor : Cursor) : Except Fault (Token × Cursor) := do
  let (points, after) ← Quoted.read style cursor
  return (.ofPoints points, after)

def takePlain (layout : Layout) : Step := do
  let layout ← layout.addCandidate
  let scalar := Plain.read layout.inFlow (layout.indent + 1) layout.cursor
  return { layout.emit (.scalar (String.ofList scalar.content) true) with
    cursor := scalar.after, keyAllowed := scalar.crossed }

def takeBlock (folded : Bool) (layout : Layout) : Step := do
  let layout ← layout.dropCandidate
  let (content, after) ← Block.read folded layout.indent layout.cursor
  return { layout.emit (.scalar (String.ofList content) false) with
    cursor := after, keyAllowed := true }

def startsPlain (layout : Layout) (character : Char) : Bool :=
  let next := layout.cursor.peekAt? 1
  if endsWord (some character) then false
  else if character == '-' then !endsWord next
  else if character == '?' || character == ':' then !layout.inFlow && !endsWord next
  else !(",[]\x7b\x7d#&*!|>\x27\x22%@\x60".toList.contains character)

/-! ## Running -/

/-- Moves past spaces, comments and breaks; after a break outside of brackets a
key is allowed. -/
def skipBlank : (fuel : Nat) → Layout → Layout
  | 0, layout => layout
  | fuel + 1, layout =>
      let cursor := (layout.cursor.skipWhile isSpace).skipComment
      match cursor.lineBreak with
      | ([], _) => { layout with cursor := cursor }
      | (_, next) =>
          skipBlank fuel
            { layout with cursor := next, keyAllowed := layout.keyAllowed || !layout.inFlow }

def take (character : Char) (layout : Layout) : Step :=
  let cursor := layout.cursor
  let lineStart := cursor.column == 0
  let before := endsWord (cursor.peekAt? 1)
  if character == '%' && lineStart then layout.takeDirective
  else if lineStart && cursor.atMarks '-' then layout.takeDocumentMark .documentStart
  else if lineStart && cursor.atMarks '.' then layout.takeDocumentMark .documentEnd
  else if character == '[' then layout.openFlow .flowSequenceStart
  else if character == '\x7b' then layout.openFlow .flowMappingStart
  else if character == ']' then layout.closeFlow .flowSequenceEnd
  else if character == '\x7d' then layout.closeFlow .flowMappingEnd
  else if character == ',' then layout.takeFlowEntry
  else if character == '-' && before then layout.takeBlockEntry
  else if character == '?' && (layout.inFlow || before) then layout.takeKey
  else if character == ':' && (layout.inFlow || before) then layout.takeValue
  else if character == '*' then layout.takeNode readAlias
  else if character == '&' then layout.takeNode readAnchor
  else if character == '!' then layout.takeNode Property.readTag
  else if character == '|' && !layout.inFlow then layout.takeBlock false
  else if character == '>' && !layout.inFlow then layout.takeBlock true
  else if character == '\x27' then layout.takeNode (readQuoted .single)
  else if character == '\x22' then layout.takeNode (readQuoted .double)
  else if layout.startsPlain character then layout.takePlain
  else .error .yaml

def next (layout : Layout) : Step := do
  let layout ← (skipBlank (layout.cursor.rest.length + 1) layout).dropStale
  let layout := layout.unwind layout.column
  match layout.cursor.peek? with
  | none => layout.endStream
  | some character => layout.take character

def run : (fuel : Nat) → Layout → Array Token
  | 0, layout => layout.tokens
  | fuel + 1, layout =>
      match layout.next with
      | .error fault => layout.tokens.push (.broken fault)
      | .ok next => if next.finished then next.tokens else run fuel next

end Layout

/-! ## Whole documents -/

def isAllowed (character : Char) : Bool :=
  let point := character.toNat
  point = 0x9 || point = 0xA || point = 0xD || point = 0x85 ||
    (0x20 ≤ point && point ≤ 0x7E) || (0xA0 ≤ point && point ≤ 0xFFFD) || 0x10000 ≤ point

def startCursor (characters : List Char) : Cursor :=
  let cursor : Cursor := { rest := characters }
  if cursor.peek? == some byteOrderMark then cursor.step else cursor

/-- The tokens of a document. Every token but the last uses up a character. -/
def tokens (text : String) : List Token :=
  let characters := text.toList
  if characters.all isAllowed then
    (Layout.run (characters.length + 2) { cursor := startCursor characters }).toList
  else [.broken .yaml]

end ThreatWatch.Yaml
