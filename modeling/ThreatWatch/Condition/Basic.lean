import ThreatWatch.Text.Case

/-! Conditions of rules: boolean combinations of the selections of one rule. A
quantified condition holds the names that its group stands for, together with
the group as it was written. -/

namespace ThreatWatch

inductive Condition where
  | selection (name : String)
  | negation (operand : Condition)
  | both (left right : Condition)
  | either (left right : Condition)
  | every (names : List String) (group : String)
  | atLeast (count : Nat) (names : List String) (group : String)
  deriving DecidableEq, Repr, Inhabited

namespace Condition

def names : Condition → List String
  | .selection name => [name]
  | .negation operand => operand.names
  | .both left right => left.names ++ right.names
  | .either left right => left.names ++ right.names
  | .every names _ => names
  | .atLeast _ names _ => names

/-- Whether so many of the names hold; the search ends with the last one
needed. -/
def reaches (holds : String → Bool) (needed : Nat) : List String → Bool
  | [] => false
  | name :: rest =>
      if holds name then (if needed ≤ 1 then true else reaches holds (needed - 1) rest)
      else reaches holds needed rest

def evaluate (holds : String → Bool) : Condition → Bool
  | .selection name => holds name
  | .negation operand => !operand.evaluate holds
  | .both left right => left.evaluate holds && right.evaluate holds
  | .either left right => left.evaluate holds || right.evaluate holds
  | .every names _ => names.all holds
  | .atLeast count names _ => reaches holds count names

/-! ## What an evaluation asks for -/

def upTo (stop : Bool) (holds : String → Bool) : List String → List String
  | [] => []
  | name :: rest => if holds name = stop then [name] else name :: upTo stop holds rest

def consultedFor (holds : String → Bool) (needed : Nat) : List String → List String
  | [] => []
  | name :: rest =>
      if holds name then
        (if needed ≤ 1 then [name] else name :: consultedFor holds (needed - 1) rest)
      else name :: consultedFor holds needed rest

/-- The names an evaluation asks for, in order; what cannot change the answer is
not asked for. -/
def consulted (holds : String → Bool) : Condition → List String
  | .selection name => [name]
  | .negation operand => operand.consulted holds
  | .both left right =>
      left.consulted holds ++ (if left.evaluate holds then right.consulted holds else [])
  | .either left right =>
      left.consulted holds ++ (if left.evaluate holds then [] else right.consulted holds)
  | .every names _ => upTo false holds names
  | .atLeast count names _ => consultedFor holds count names

end Condition

end ThreatWatch
