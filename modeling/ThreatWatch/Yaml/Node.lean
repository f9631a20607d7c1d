import ThreatWatch.Text.Point
import ThreatWatch.Yaml.Timestamp

/-! Nodes of documents: scalars, sequences and mappings, each with the tag that
says what it means. A plain scalar without a tag gets the tag that its form
calls for. -/

namespace ThreatWatch.Yaml

inductive Tag where
  | null
  | bool
  | int
  | float
  | text
  | binary
  | timestamp
  | sequence
  | mapping
  | orderedMapping
  | pairs
  | set
  /-- The key that merges other mappings into its own. -/
  | merge
  /-- The key of a value that stands for its mapping. -/
  | value
  | unknown (name : String)
  deriving DecidableEq, Repr

namespace Tag

def common : String := "tag:yaml.org,2002:"

def ofName (name : String) : Tag :=
  let short := String.ofList (name.toList.drop common.length)
  if !common.toList.isPrefixOf name.toList then .unknown name
  else
    match short with
    | "null" => .null
    | "bool" => .bool
    | "int" => .int
    | "float" => .float
    | "str" => .text
    | "binary" => .binary
    | "timestamp" => .timestamp
    | "seq" => .sequence
    | "map" => .mapping
    | "omap" => .orderedMapping
    | "pairs" => .pairs
    | "set" => .set
    | "merge" => .merge
    | "value" => .value
    | _ => .unknown name

/-! ## Plain scalars -/

def boolWords : List String := [
  "yes", "Yes", "YES", "no", "No", "NO", "true", "True", "TRUE", "false", "False", "FALSE",
  "on", "On", "ON", "off", "Off", "OFF"]

def nullWords : List String := ["", "~", "null", "Null", "NULL"]

def isDigitOrLine (character : Char) : Bool :=
  Numeral.isPlainDigit character || character == '_'

def isSpacedNumber : List Char → Bool
  | [] => false
  | first :: rest => Numeral.isPlainDigit first && rest.all isDigitOrLine

def isSixtieth : List Char → Bool
  | [digit] => Numeral.isPlainDigit digit
  | [tens, digit] => decide ('0' ≤ tens ∧ tens ≤ '5') && Numeral.isPlainDigit digit
  | _ => false

def isSexagesimal (isHead : List Char → Bool) (characters : List Char) : Bool :=
  match Text.pieces ':' characters with
  | head :: part :: parts => isHead head && (part :: parts).all isSixtieth
  | _ => false

def withoutSign (characters : List Char) : List Char :=
  (Numeral.splitSign characters).2

def startsNonzero : List Char → Bool
  | [] => false
  | first :: _ => first != '0'

def isPlainInt (characters : List Char) : Bool :=
  let isHead (head : List Char) := startsNonzero head && isSpacedNumber head
  match withoutSign characters with
  | '0' :: 'b' :: rest => !rest.isEmpty && rest.all fun digit => "01_".toList.contains digit
  | '0' :: 'x' :: rest =>
      !rest.isEmpty && rest.all fun digit => (Text.hexValue? digit).isSome || digit == '_'
  | '0' :: rest => rest.all fun digit => "01234567_".toList.contains digit
  | body => isHead body || isSexagesimal isHead body

def isFractionTail (characters : List Char) : Bool :=
  match characters.dropWhile isDigitOrLine with
  | [] => true
  | letter :: sign :: digits =>
      (letter == 'e' || letter == 'E') && (sign == '+' || sign == '-') && !digits.isEmpty &&
        digits.all Numeral.isPlainDigit
  | _ => false

def isPlainFloat (characters : List Char) : Bool :=
  let body := withoutSign characters
  let signed := body.length != characters.length
  let head := body.takeWhile (· != '.')
  match body.dropWhile (· != '.') with
  | '.' :: tail =>
      if head.isEmpty then
        ["inf", "Inf", "INF"].contains (String.ofList tail) ||
          (!signed && (["nan", "NaN", "NAN"].contains (String.ofList tail) ||
            (tail.head?.any Numeral.isPlainDigit && isFractionTail tail)))
      else
        (isSpacedNumber head && isFractionTail tail) ||
          (isSexagesimal isSpacedNumber head && tail.all isDigitOrLine)
  | _ => false

def withoutFinalBreak (characters : List Char) : List Char :=
  if characters.length > 1 && characters.getLast? == some '\n' then characters.dropLast
  else characters

def ofPlain (content : String) : Tag :=
  let characters := withoutFinalBreak content.toList
  let text := String.ofList characters
  if boolWords.contains text then .bool
  else if isPlainFloat characters then .float
  else if isPlainInt characters then .int
  else if text = "<<" then .merge
  else if nullWords.contains text then .null
  else if Timestamp.isPlain characters then .timestamp
  else if text = "=" then .value
  else .text

end Tag

/-- A node that is around one of its own aliases has a mark, by which the alias knows it. -/
inductive Node where
  | scalar (tag : Tag) (content : String)
  /-- A scalar with code points that are no characters. -/
  | wide (tag : Tag) (points : List Text.Point)
  | sequence (tag : Tag) (items : List Node)
  | mapping (tag : Tag) (entries : List (Node × Node))
  /-- An alias of a node around it. -/
  | around (mark : Nat)
  | marked (mark : Nat) (node : Node)

namespace Node

def tag : Node → Tag
  | .scalar tag _ | .wide tag _ | .sequence tag _ | .mapping tag _ => tag
  | .around _ => .mapping
  | .marked _ node => node.tag

def empty : Node :=
  .scalar .null ""

mutual

def any (test : Node → Bool) : Node → Bool
  | .sequence tag items => test (.sequence tag items) || anyItem test items
  | .mapping tag entries => test (.mapping tag entries) || anyEntry test entries
  | .marked mark node => test (.marked mark node) || any test node
  | node => test node

def anyItem (test : Node → Bool) : List Node → Bool
  | [] => false
  | item :: rest => any test item || anyItem test rest

def anyEntry (test : Node → Bool) : List (Node × Node) → Bool
  | [] => false
  | (key, held) :: rest => any test key || any test held || anyEntry test rest

end

def isAround : Node → Bool
  | .around _ => true
  | _ => false

def isTree (node : Node) : Bool :=
  !node.any fun
    | .around _ | .wide _ _ => true
    | _ => false

end Node

end ThreatWatch.Yaml
