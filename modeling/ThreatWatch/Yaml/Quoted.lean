import ThreatWatch.Fault
import ThreatWatch.Text.Hexadecimal
import ThreatWatch.Text.Point
import ThreatWatch.Yaml.Cursor

/-! Quoted scalars. Between single quotes only the doubled quote is special;
between double quotes a backslash begins an escape. Line breaks are folded in
both. -/

namespace ThreatWatch.Yaml.Quoted

inductive Style where
  | single
  | double
  deriving DecidableEq, Repr

def Style.quote : Style → Char
  | .single => '\x27'
  | .double => '\x22'

/-! ## Blanks -/

def breaks : (fuel : Nat) → Cursor → Except Fault (List Char × Cursor)
  | 0, cursor => .ok ([], cursor)
  | fuel + 1, cursor =>
      if cursor.atSeparator then .error .yaml
      else
        let cursor := cursor.skipWhile isSpaceOrTab
        match cursor.lineBreak with
        | ([], _) => .ok ([], cursor)
        | (taken, next) => do
            let (others, after) ← breaks fuel next
            return (taken ++ others, after)

def gap (cursor : Cursor) : Except Fault (List Char × Cursor) :=
  let (spaces, next) := cursor.span isSpaceOrTab
  match next.lineBreak with
  | ([], _) => .ok (spaces, next)
  | (first, next) => do
      let (others, after) ← breaks (next.rest.length + 1) next
      return (foldBreaks first others, after)

/-! ## Escapes -/

def letterEscape? : Char → Option Char
  | '0' => some '\x00'
  | 'a' => some '\x07'
  | 'b' => some '\x08'
  | 't' | '\t' => some '\t'
  | 'n' => some '\n'
  | 'v' => some '\x0b'
  | 'f' => some '\x0c'
  | 'r' => some '\r'
  | 'e' => some '\x1b'
  | ' ' => some ' '
  | '\x22' => some '\x22'
  | '\\' => some '\\'
  | '/' => some '/'
  | 'N' => some '\u0085'
  | '_' => some '\u00a0'
  | 'L' => some lineSeparator
  | 'P' => some paragraphSeparator
  | _ => none

def digitCount? : Char → Option Nat
  | 'x' => some 2
  | 'u' => some 4
  | 'U' => some 8
  | _ => none

def pointOf (number : Nat) : Except Fault Text.Point :=
  if number < 0x110000 then
    .ok (if number.isValidChar then .character (Char.ofNat number) else .half number)
  else if number < 0x80000000 then .error .impossibleNumber
  else .error .pointTooLarge

def numericEscape (count : Nat) (cursor : Cursor) : Except Fault (List Text.Point × Cursor) :=
  let digits := cursor.rest.take count
  if digits.length < count then .error .yaml
  else
    match Text.hexNumber? digits with
    | some number => do return ([← pointOf number], cursor.skip count)
    | none => .error .yaml

/-- What an escape stands for, read from after its backslash. An escaped break
joins two lines. -/
def escape (cursor : Cursor) : Except Fault (List Text.Point × Cursor) :=
  match cursor.peek? with
  | none => .error .yaml
  | some letter =>
      match letterEscape? letter, digitCount? letter with
      | some character, _ => .ok ([.character character], cursor.step)
      | none, some count => numericEscape count cursor.step
      | none, none =>
          if isBreak letter then do
            let (_, next) := cursor.lineBreak
            let (taken, after) ← breaks (next.rest.length + 1) next
            return (taken.map .character, after)
          else .error .yaml

/-! ## Reading -/

def readFrom (style : Style) :
    (fuel : Nat) → (content : List Text.Point) → Cursor → Except Fault (List Text.Point × Cursor)
  | 0, _, _ => .error .yaml
  | fuel + 1, content, cursor =>
      match cursor.rest with
      | [] => .error .yaml
      | character :: rest =>
          if character == style.quote then
            if style = .single && rest.head? == some style.quote then
              readFrom style fuel (.character character :: content) (cursor.skip 2)
            else .ok (content.reverse, cursor.step)
          else if style = .double && character == '\\' then do
            let (taken, after) ← escape cursor.step
            readFrom style fuel (taken.reverse ++ content) after
          else if endsWord (some character) then do
            let (taken, after) ← gap cursor
            readFrom style fuel ((taken.map .character).reverse ++ content) after
          else readFrom style fuel (.character character :: content) cursor.step

def read (style : Style) (cursor : Cursor) : Except Fault (List Text.Point × Cursor) :=
  readFrom style cursor.rest.length [] cursor.step

end ThreatWatch.Yaml.Quoted
