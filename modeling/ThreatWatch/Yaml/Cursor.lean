/-! A place in a document: what is left to read, and the line and column where
reading stands. -/

namespace ThreatWatch.Yaml

/-! ## Classes of characters -/

def lineSeparator : Char := '\u2028'
def paragraphSeparator : Char := '\u2029'
def byteOrderMark : Char := '\ufeff'

def isBreak (character : Char) : Bool :=
  character == '\n' || character == '\r' || character == '\u0085' ||
    character == lineSeparator || character == paragraphSeparator

def isSpace (character : Char) : Bool :=
  character == ' '

def isSpaceOrTab (character : Char) : Bool :=
  character == ' ' || character == '\t'

def isPlainDigit (character : Char) : Bool :=
  decide ('0' ≤ character ∧ character ≤ '9')

def isNameCharacter (character : Char) : Bool :=
  isPlainDigit character || decide ('a' ≤ character ∧ character ≤ 'z') ||
    decide ('A' ≤ character ∧ character ≤ 'Z') || character == '-' || character == '_'

/-- Whether a line ends where this character is next, or where none is. -/
def endsLine : Option Char → Bool
  | none => true
  | some character => isBreak character

def endsLineOrSpace : Option Char → Bool
  | none => true
  | some character => isBreak character || isSpace character

def endsWord : Option Char → Bool
  | none => true
  | some character => isBreak character || isSpaceOrTab character

/-! ## Moving -/

structure Cursor where
  rest : List Char
  index : Nat := 0
  line : Nat := 0
  column : Nat := 0

namespace Cursor

def peek? (cursor : Cursor) : Option Char :=
  cursor.rest.head?

def peekAt? (cursor : Cursor) (distance : Nat) : Option Char :=
  cursor.rest[distance]?

def atEnd (cursor : Cursor) : Bool :=
  cursor.rest.isEmpty

/-- Moves past one character. A carriage return before a newline does not end
the line by itself, and a byte order mark takes no column. -/
def step (cursor : Cursor) : Cursor :=
  match cursor.rest with
  | [] => cursor
  | character :: rest =>
      if isBreak character && !(character == '\r' && rest.head? == some '\n') then
        ⟨rest, cursor.index + 1, cursor.line + 1, 0⟩
      else if character == byteOrderMark then
        ⟨rest, cursor.index + 1, cursor.line, cursor.column⟩
      else ⟨rest, cursor.index + 1, cursor.line, cursor.column + 1⟩

def skip : (count : Nat) → Cursor → Cursor
  | 0, cursor => cursor
  | count + 1, cursor => skip count cursor.step

def span (belongs : Char → Bool) (cursor : Cursor) : List Char × Cursor :=
  let taken := cursor.rest.takeWhile belongs
  (taken, cursor.skip taken.length)

def skipWhile (belongs : Char → Bool) (cursor : Cursor) : Cursor :=
  (cursor.span belongs).2

/-- Moves past one line break and gives the character it stands for; nothing
where there is no break. -/
def lineBreak (cursor : Cursor) : List Char × Cursor :=
  match cursor.rest with
  | '\r' :: '\n' :: _ => (['\n'], cursor.skip 2)
  | character :: _ =>
      if character == lineSeparator || character == paragraphSeparator then
        ([character], cursor.step)
      else if isBreak character then (['\n'], cursor.step)
      else ([], cursor)
  | [] => ([], cursor)

def atMarks (mark : Char) (cursor : Cursor) : Bool :=
  cursor.rest.take 3 == [mark, mark, mark] && endsWord (cursor.peekAt? 3)

def atSeparator (cursor : Cursor) : Bool :=
  cursor.atMarks '-' || cursor.atMarks '.'

def skipComment (cursor : Cursor) : Cursor :=
  if cursor.peek? == some '#' then cursor.skipWhile fun character => !isBreak character
  else cursor

end Cursor

/-- Line breaks inside a flowing text: a single newline becomes a space, and
otherwise the first newline is dropped. -/
def foldBreaks (first breaks : List Char) : List Char :=
  if first != ['\n'] then first ++ breaks
  else if breaks.isEmpty then [' ']
  else breaks

end ThreatWatch.Yaml
