import ThreatWatch.Fault
import ThreatWatch.Number.Numeral
import ThreatWatch.Yaml.Cursor

/-! Block scalars: texts that stand on indented lines of their own, either line
by line or folded into paragraphs. -/

namespace ThreatWatch.Yaml.Block

/-- What becomes of the breaks at the end of a block scalar. -/
inductive Chomping where
  | strip
  | clip
  | keep
  deriving DecidableEq, Repr

structure Header where
  chomping : Chomping := .clip
  /-- How far the text is indented, where the header says so. -/
  increment : Option Nat := none

/-! ## Header -/

def chomping? (cursor : Cursor) : Option Chomping :=
  match cursor.peek? with
  | some '+' => some .keep
  | some '-' => some .strip
  | _ => none

def increment? (cursor : Cursor) : Except Fault (Option Nat) :=
  match cursor.peek? with
  | some character =>
      if character == '0' then .error .yaml
      else if isPlainDigit character then .ok (some (Numeral.digitValue character))
      else .ok none
  | none => .ok none

def readIndicators (cursor : Cursor) : Except Fault (Header × Cursor) :=
  match chomping? cursor with
  | some chomping => do
      let cursor := cursor.step
      match ← increment? cursor with
      | some increment => return (⟨chomping, some increment⟩, cursor.step)
      | none => return (⟨chomping, none⟩, cursor)
  | none => do
      match ← increment? cursor with
      | some increment =>
          let cursor := cursor.step
          match chomping? cursor with
          | some chomping => return (⟨chomping, some increment⟩, cursor.step)
          | none => return (⟨.clip, some increment⟩, cursor)
      | none => return ({}, cursor)

def readHeader (cursor : Cursor) : Except Fault (Header × Cursor) := do
  let (header, cursor) ← readIndicators cursor
  if !endsLineOrSpace cursor.peek? then .error .yaml
  else
    let cursor := (cursor.skipWhile isSpace).skipComment
    if !endsLine cursor.peek? then .error .yaml
    else return (header, cursor.lineBreak.2)

/-! ## Lines -/

/-- The breaks before the first line that is not blank, and the widest column
reached among them. -/
def leadingBreaks : (fuel : Nat) → (widest : Nat) → Cursor → List Char × Nat × Cursor
  | 0, widest, cursor => ([], widest, cursor)
  | fuel + 1, widest, cursor =>
      let cursor := cursor.skipWhile isSpace
      let widest := max widest cursor.column
      match cursor.lineBreak with
      | ([], _) => ([], widest, cursor)
      | (taken, next) =>
          let (others, widest, after) := leadingBreaks fuel widest next
          (taken ++ others, widest, after)

def skipIndent (indent : Nat) (cursor : Cursor) : Cursor :=
  let spaces := (cursor.rest.takeWhile isSpace).length
  cursor.skip (min spaces (indent - cursor.column))

def lineBreaks (indent : Nat) : (fuel : Nat) → Cursor → List Char × Cursor
  | 0, cursor => ([], skipIndent indent cursor)
  | fuel + 1, cursor =>
      let cursor := skipIndent indent cursor
      match cursor.lineBreak with
      | ([], _) => ([], cursor)
      | (taken, next) =>
          let (others, after) := lineBreaks indent fuel next
          (taken ++ others, after)

def startsBlank (cursor : Cursor) : Bool :=
  cursor.peek?.any isSpaceOrTab

/-- Reads lines from the first one on. `breaks` are those before the line, and
the result ends as the header asks. -/
def readLines (folded : Bool) (chomping : Chomping) (indent : Nat) :
    (fuel : Nat) → (content breaks lastBreak : List Char) → Cursor → List Char × Cursor
  | 0, content, _, _, cursor => (content, cursor)
  | fuel + 1, content, breaks, lastBreak, cursor =>
      if cursor.column == indent && !cursor.atEnd then
        let (line, next) := cursor.span fun character => !isBreak character
        let content := content ++ breaks ++ line
        let (lastBreak, next) := next.lineBreak
        let (breaks, next) := lineBreaks indent next.rest.length next
        let continues := next.column == indent && !next.atEnd
        let joint :=
          if !continues then []
          else if folded && lastBreak == ['\n'] && !startsBlank cursor && !startsBlank next then
            (if breaks.isEmpty then [' '] else [])
          else lastBreak
        readLines folded chomping indent fuel (content ++ joint) breaks lastBreak next
      else
        match chomping with
        | .strip => (content, cursor)
        | .clip => (content ++ lastBreak, cursor)
        | .keep => (content ++ lastBreak ++ breaks, cursor)

/-- Reads a block scalar from its mark; `parent` is the column of the collection
around it. -/
def read (folded : Bool) (parent : Int) (cursor : Cursor) : Except Fault (List Char × Cursor) := do
  let (header, cursor) ← readHeader cursor.step
  let least := (max (parent + 1) 1).toNat
  match header.increment with
  | some increment =>
      let indent := least + increment - 1
      let (breaks, cursor) := lineBreaks indent cursor.rest.length cursor
      return readLines folded header.chomping indent (cursor.rest.length + 1) [] breaks [] cursor
  | none =>
      let (breaks, widest, cursor) := leadingBreaks (cursor.rest.length + 1) 0 cursor
      let indent := max least widest
      return readLines folded header.chomping indent (cursor.rest.length + 1) [] breaks [] cursor

end ThreatWatch.Yaml.Block
