import ThreatWatch.Text.Case.Table

/-! Letter case. A character has one simple lower and one simple upper form;
the full forms of a text may be longer than the text, and the lower form of a
capital sigma depends on whether it ends a word. -/

namespace ThreatWatch.Text

def simpleLower (character : Char) : Char :=
  Char.ofNat (shiftPoint character.toNat lowerRuns)

def upperForm (character : Char) : List Char :=
  match upperExpansions.lookup character.toNat with
  | some points => points.map Char.ofNat
  | none => [Char.ofNat (shiftPoint character.toNat upperRuns)]

def simpleUpper (character : Char) : Char :=
  (upperForm character).headD character

def isCased (character : Char) : Bool :=
  let lower := simpleLower character
  lower != character || simpleUpper lower != character

/-- Whether the nearest character that is not passed over is a letter with
case. -/
def meetsCased (neighbours : List Char) : Bool :=
  match neighbours.dropWhile caseIgnorables.contains with
  | [] => false
  | character :: _ => casedLetters.contains character

/-- A capital sigma is final when a letter comes before it and none after it;
`before` is read backwards from the sigma. -/
def isFinalSigma (before after : List Char) : Bool :=
  meetsCased before && !meetsCased after

/-- The full lower-case form of one character between its neighbours. -/
def lowerForm (before : List Char) (character : Char) (after : List Char) : List Char :=
  if character = 'Σ' then [if isFinalSigma before after then 'ς' else 'σ']
  else if character = 'İ' then ['i', '\u0307']
  else [simpleLower character]

def lowerAfter (before : List Char) : List Char → List Char
  | [] => []
  | character :: rest =>
      lowerForm before character rest ++ lowerAfter (character :: before) rest

def lowerCharacters (characters : List Char) : List Char :=
  lowerAfter [] characters

def lower (text : String) : String :=
  String.ofList (lowerCharacters text.toList)

def upper (text : String) : String :=
  String.ofList (text.toList.flatMap upperForm)

example : simpleLower 'Q' = 'q' := rfl
example : lowerCharacters ['A', 'Σ'] = ['a', 'ς'] := rfl
example : lowerCharacters ['A', 'Σ', 'A'] = ['a', 'σ', 'a'] := rfl

end ThreatWatch.Text
