import ThreatWatch.Text.Quoted

/-! Code points of texts. An escape can name one half of a surrogate pair, and a half is no
character. -/

namespace ThreatWatch.Text

inductive Point where
  | character (letter : Char)
  | half (number : Nat)
  deriving DecidableEq, Repr

namespace Point

def character? : Point → Option Char
  | .character letter => some letter
  | .half _ => none

def standIn : Point → Char
  | .character letter => letter
  | .half _ => '\ufffd'

def escape (quote : Char) : Point → List Char
  | .character letter => escapeCharacter quote letter
  | .half number => pointEscape number

end Point

def ofPoints? (points : List Point) : Option String :=
  (points.mapM Point.character?).map String.ofList

def ofPoints (points : List Point) : String :=
  String.ofList (points.map Point.standIn)

def quotedPoints (points : List Point) : String :=
  let quote := quoteFor (points.contains (.character singleQuote))
    (points.contains (.character doubleQuote))
  String.ofList (quote :: points.flatMap (Point.escape quote) ++ [quote])

end ThreatWatch.Text
