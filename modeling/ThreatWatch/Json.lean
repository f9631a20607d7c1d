import ThreatWatch.Text.Hexadecimal
import ThreatWatch.Value

/-! Reading JSON texts. Besides the standard forms the names of the infinities
and of the undefined number are accepted. A key that is repeated keeps its place
and takes the later value. -/

namespace ThreatWatch.Json

inductive JsonFault where
  | malformed
  | tooManyDigits
  deriving DecidableEq, Repr

abbrev Reader (α : Type) := List Char → Except JsonFault (α × List Char)

def refuse {α : Type} : Except JsonFault α :=
  .error .malformed

def isBlank (character : Char) : Bool :=
  character == ' ' || character == '\t' || character == '\n' || character == '\r'

def skipBlank (characters : List Char) : List Char :=
  characters.dropWhile isBlank

/-! ## Numbers -/

/-- The digits before the point: a zero alone, or digits without a leading
zero. -/
def wholeDigits : List Char → Option (List Char × List Char)
  | '0' :: rest => some (['0'], rest)
  | characters =>
      let (digits, rest) := Numeral.splitDigits characters
      if digits.isEmpty then none else some (digits, rest)

def fractionPart : List Char → List Char × List Char
  | '.' :: rest =>
      let (digits, after) := Numeral.splitDigits rest
      if digits.isEmpty then ([], '.' :: rest) else ('.' :: digits, after)
  | characters => ([], characters)

def exponentPart (characters : List Char) : List Char × List Char :=
  match characters with
  | mark :: rest =>
      if mark = 'e' ∨ mark = 'E' then
        let (sign, rest') :=
          match rest with
          | '+' :: others => (['+'], others)
          | '-' :: others => (['-'], others)
          | others => ([], others)
        let (digits, after) := Numeral.splitDigits rest'
        if digits.isEmpty then ([], characters) else (mark :: sign ++ digits, after)
      else ([], characters)
  | [] => ([], [])

def readNumber (characters : List Char) : Except JsonFault (Value × List Char) :=
  let (sign, unsigned) :=
    match characters with
    | '-' :: rest => (['-'], rest)
    | rest => ([], rest)
  match wholeDigits unsigned with
  | none => refuse
  | some (whole, rest) =>
      let (fraction, rest) := fractionPart rest
      let (exponent, rest) := exponentPart rest
      if fraction.isEmpty && exponent.isEmpty then
        match Numeral.readInt (String.ofList (sign ++ whole)) with
        | .ok number => .ok (.int number, rest)
        | .error .tooLong => .error .tooManyDigits
        | .error .malformed => refuse
      else
        match Numeral.readDouble? (String.ofList (sign ++ whole ++ fraction ++ exponent)) with
        | some number => .ok (.float number, rest)
        | none => refuse

/-! ## Texts -/

def letterEscape? : Char → Option Char
  | '\x22' => some '\x22'
  | '\\' => some '\\'
  | '/' => some '/'
  | 'b' => some '\x08'
  | 'f' => some '\x0c'
  | 'n' => some '\n'
  | 'r' => some '\r'
  | 't' => some '\t'
  | _ => none

def readUnit : Reader Nat
  | first :: second :: third :: fourth :: rest =>
      match Text.hexNumber? [first, second, third, fourth] with
      | some unit => .ok (unit, rest)
      | none => refuse
  | _ => refuse

def isHighSurrogate (unit : Nat) : Bool :=
  decide (0xD800 ≤ unit ∧ unit < 0xDC00)

def isLowSurrogate (unit : Nat) : Bool :=
  decide (0xDC00 ≤ unit ∧ unit < 0xE000)

/-- The character of one unit; half a pair stands for no character. -/
def unitCharacter (unit : Nat) : Char :=
  if unit.isValidChar then Char.ofNat unit else '\ufffd'

def readNumericEscape : Reader Char := fun characters => do
  let (unit, rest) ← readUnit characters
  match rest with
  | '\\' :: 'u' :: others =>
      if isHighSurrogate unit then
        let (second, after) ← readUnit others
        if isLowSurrogate second then
          return (Char.ofNat (0x10000 + (unit - 0xD800) * 0x400 + (second - 0xDC00)), after)
        else return (unitCharacter unit, rest)
      else return (unitCharacter unit, rest)
  | _ => return (unitCharacter unit, rest)

def readTextFrom : (fuel : Nat) → Reader (List Char)
  | 0, _ => refuse
  | fuel + 1, characters =>
      match characters with
      | [] => refuse
      | '\x22' :: rest => .ok ([], rest)
      | '\\' :: 'u' :: rest => do
          let (character, rest) ← readNumericEscape rest
          let (others, after) ← readTextFrom fuel rest
          return (character :: others, after)
      | '\\' :: letter :: rest =>
          match letterEscape? letter with
          | none => refuse
          | some character => do
              let (others, after) ← readTextFrom fuel rest
              return (character :: others, after)
      | character :: rest => do
          if character.toNat < 0x20 || character == '\\' then refuse
          else
            let (others, after) ← readTextFrom fuel rest
            return (character :: others, after)

def readText : Reader String := fun characters => do
  let (content, after) ← readTextFrom (characters.length + 1) characters
  return (String.ofList content, after)

/-! ## Values -/

def words : List (List Char × Value) := [
  ("null".toList, .null), ("true".toList, .bool true), ("false".toList, .bool false),
  ("NaN".toList, .float .undefined), ("Infinity".toList, .float (.infinite false)),
  ("-Infinity".toList, .float (.infinite true))]

def readWord? (characters : List Char) : Option (Value × List Char) :=
  (words.find? fun entry => Text.startsWith entry.1 characters).map fun entry =>
    (entry.2, characters.drop entry.1.length)

def readMore {α : Type} (closing : Char) (item : Reader α) : (fuel : Nat) → Reader (List α)
  | 0, _ => refuse
  | fuel + 1, characters =>
      match skipBlank characters with
      | [] => refuse
      | mark :: rest =>
          if mark = closing then .ok ([], rest)
          else if mark = ',' then do
            let (first, rest) ← item (skipBlank rest)
            let (others, after) ← readMore closing item fuel rest
            return (first :: others, after)
          else refuse

def readItems {α : Type} (closing : Char) (item : Reader α) : Reader (List α) :=
  fun characters =>
    let start := skipBlank characters
    if start.head? = some closing then .ok ([], start.tail)
    else do
      let (first, rest) ← item start
      let (others, after) ← readMore closing item rest.length rest
      return (first :: others, after)

def readMember (value : Reader Value) : Reader (Value × Value)
  | '\x22' :: rest => do
      let (key, rest) ← readText rest
      match skipBlank rest with
      | ':' :: rest => do
          let (held, after) ← value (skipBlank rest)
          return ((.text key, held), after)
      | _ => refuse
  | _ => refuse

/-- Reads a value. Each level of nesting uses up a character, so `fuel` need not
exceed the number of characters. -/
def readValue : (fuel : Nat) → Reader Value
  | 0, _ => refuse
  | fuel + 1, characters =>
      match characters with
      | '\x22' :: rest => do
          let (content, after) ← readText rest
          return (.text content, after)
      | '\x7b' :: rest => do
          let (entries, after) ← readItems '\x7d' (readMember (readValue fuel)) rest
          return (.map (Value.ofEntries entries), after)
      | '[' :: rest => do
          let (items, after) ← readItems ']' (readValue fuel) rest
          return (.list items, after)
      | characters =>
          match readWord? characters with
          | some result => .ok result
          | none => readNumber characters

def read (text : String) : Except JsonFault Value := do
  let characters := text.toList
  let (value, after) ← readValue (characters.length + 1) (skipBlank characters)
  if (skipBlank after).isEmpty then return value else refuse

end ThreatWatch.Json
