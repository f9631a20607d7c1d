import ThreatWatch.Yaml.Cursor

/-! Plain scalars: texts without quotes, which may run over several lines. -/

namespace ThreatWatch.Yaml.Plain

/-- Whether a plain scalar ends before a character, given the one after it.
Inside brackets the marks of flow collections end it too. -/
def endsBefore (inFlow : Bool) (character : Char) (next : Option Char) : Bool :=
  let isFlowMark (mark : Char) := mark == ',' || mark == '[' || mark == ']' ||
    mark == '\x7b' || mark == '\x7d'
  endsWord (some character) ||
    (character == ':' && (endsWord next || (inFlow && next.any isFlowMark))) ||
    (inFlow && (isFlowMark character || character == '?'))

def chunk (inFlow : Bool) : List Char → List Char
  | [] => []
  | character :: rest =>
      if endsBefore inFlow character rest.head? then []
      else character :: chunk inFlow rest

/-- What stands between two chunks: the text it becomes, and whether it crosses
a line. -/
structure Gap where
  content : List Char
  crossed : Bool
  after : Cursor

/-- The breaks among spaces and breaks; none where a separator of documents
interrupts them. -/
def gapBreaks : (fuel : Nat) → Cursor → Option (List Char) × Cursor
  | 0, cursor => (some [], cursor)
  | fuel + 1, cursor =>
      let cursor := cursor.skipWhile isSpace
      match cursor.lineBreak with
      | ([], _) => (some [], cursor)
      | (taken, next) =>
          if next.atSeparator then (none, next)
          else
            let (breaks, after) := gapBreaks fuel next
            (breaks.map (taken ++ ·), after)

def gap (cursor : Cursor) : Gap :=
  let (spaces, next) := cursor.span isSpace
  match next.lineBreak with
  | ([], _) => ⟨spaces, false, next⟩
  | (first, next) =>
      if next.atSeparator then ⟨[], true, next⟩
      else
        match gapBreaks next.rest.length next with
        | (some breaks, after) => ⟨foldBreaks first breaks, true, after⟩
        | (none, after) => ⟨[], true, after⟩

structure Scalar where
  content : List Char
  crossed : Bool
  after : Cursor

/-- Reads chunks and the gaps between them. Outside brackets the scalar goes on
only on lines that are indented by at least `indent`. -/
def readFrom (inFlow : Bool) (indent : Int) :
    (fuel : Nat) → (content pending : List Char) → (crossed : Bool) → Cursor → Scalar
  | 0, content, _, crossed, cursor => ⟨content, crossed, cursor⟩
  | fuel + 1, content, pending, crossed, cursor =>
      let taken := chunk inFlow cursor.rest
      if cursor.peek? == some '#' || taken.isEmpty then ⟨content, crossed, cursor⟩
      else
        let content := content ++ pending ++ taken
        let gap := gap (cursor.skip taken.length)
        if gap.content.isEmpty || gap.after.peek? == some '#' ||
            (!inFlow && gap.after.column < indent) then
          ⟨content, gap.crossed, gap.after⟩
        else readFrom inFlow indent fuel content gap.content gap.crossed gap.after

def read (inFlow : Bool) (indent : Int) (cursor : Cursor) : Scalar :=
  readFrom inFlow indent cursor.rest.length [] [] false cursor

end ThreatWatch.Yaml.Plain
