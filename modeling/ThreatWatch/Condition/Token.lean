import ThreatWatch.Text.Case
import ThreatWatch.Text.Digit
import ThreatWatch.Text.Basic

/-! Tokens of conditions: a parenthesis stands by itself, and everything else
between blanks and parentheses is a word. -/

namespace ThreatWatch.Condition

def isParenthesis (character : Char) : Bool :=
  character == '(' || character == ')'

/-- The word read so far, kept backwards, as a token if it is not empty. -/
def closeWord (word : List Char) (tokens : List (List Char)) : List (List Char) :=
  if word.isEmpty then tokens else word.reverse :: tokens

def scanTokens (word : List Char) : List Char → List (List Char)
  | [] => closeWord word []
  | character :: rest =>
      if Text.isBlank character then closeWord word (scanTokens [] rest)
      else if isParenthesis character then closeWord word ([character] :: scanTokens [] rest)
      else scanTokens (character :: word) rest

def tokens (text : String) : List String :=
  (scanTokens [] text.toList).map String.ofList

/-! ## Classes of tokens -/

inductive Keyword where
  | conjunction
  | disjunction
  | negation
  | quantifier
  | every
  | wholeGroup
  deriving DecidableEq, Repr

def keyword? (token : String) : Option Keyword :=
  match Text.lower token with
  | "and" => some .conjunction
  | "or" => some .disjunction
  | "not" => some .negation
  | "of" => some .quantifier
  | "all" => some .every
  | "them" => some .wholeGroup
  | _ => none

def isCount (token : String) : Bool :=
  !token.toList.isEmpty && token.toList.all Text.isDigit

example : tokens "a and(b)" = ["a", "and", "(", "b", ")"] := by decide

end ThreatWatch.Condition
