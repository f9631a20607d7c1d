import ThreatWatch.Condition.Basic
import ThreatWatch.Condition.Token
import ThreatWatch.Fault
import ThreatWatch.Number.Numeral

/-! Reading conditions. Negation binds tightest, then conjunction, then
disjunction; both binary connectives group to the left. A reader takes the
tokens that are left and gives a condition with the tokens after it. -/

namespace ThreatWatch.Condition

abbrev Reader := List String → Except Fault (Condition × List String)

def fail {α : Type} (cause : RuleCause) : Except Fault α :=
  .error (.ofCause cause)

/-! ## Groups -/

/-- The names a group stands for: all of them, or those that begin like the
group up to its final star. -/
def expandGroup (group : String) (names : List String) : Except Fault (List String) :=
  if keyword? group = some .wholeGroup then .ok names
  else
    match group.toList.getLast? with
    | some '*' =>
        let start := group.toList.dropLast
        if start.contains '*' then fail (.malformedGroup group)
        else .ok (names.filter fun name => Text.startsWith start name.toList)
    | _ => fail (.malformedGroup group)

def readCount (token : String) : Except Fault (Option Nat) :=
  if keyword? token = some .every then .ok none
  else if !token.toList.all Text.isDecimal then .error .unreadableCount
  else
    match Numeral.readInt token with
    | .error _ => .error .tooManyDigits
    | .ok count =>
        if count < 1 then fail (.countBelowOne count) else .ok (some count.toNat)

def readQuantified (names : List String) (token : String) : Reader := fun rest => do
  let count ← readCount token
  let rest ← match rest with
    | [] => fail (.missingToken "of")
    | found :: rest =>
        if keyword? found = some .quantifier then Except.ok rest
        else fail (.unexpectedToken "of" found)
  match rest with
  | [] => fail (.missingGroup token)
  | group :: rest =>
      if group = "(" ∨ group = ")" then fail (.missingGroup token)
      else do
        let members ← expandGroup group names
        if members.isEmpty then fail (.emptyGroup group)
        else
          match count with
          | none => return (.every members group, rest)
          | some count => return (.atLeast count members group, rest)

/-! ## Connectives -/

/-- A left-grouped chain of operands joined by one keyword. Each turn uses up at
least one token, so `fuel` need not exceed the number of tokens. -/
def readChain (joint : Keyword) (join : Condition → Condition → Condition) (operand : Reader) :
    (fuel : Nat) → Condition → Reader
  | _, left, [] => .ok (left, [])
  | 0, left, tokens => .ok (left, tokens)
  | fuel + 1, left, token :: rest =>
      if keyword? token = some joint then do
        let (right, rest) ← operand rest
        readChain joint join operand fuel (join left right) rest
      else .ok (left, token :: rest)

def readConjunction (operand : Reader) : Reader := fun tokens => do
  let (left, rest) ← operand tokens
  readChain .conjunction .both operand rest.length left rest

def readDisjunction (operand : Reader) : Reader := fun tokens => do
  let (left, rest) ← readConjunction operand tokens
  readChain .disjunction .either (readConjunction operand) rest.length left rest

def readName (names : List String) (token : String) : Reader := fun rest =>
  if token.toList.contains '*' then fail (.misplacedWildcard token)
  else if names.contains token then .ok (.selection token, rest)
  else fail (.undefinedSelection token)

def expectClosing (condition : Condition) : Reader
  | [] => fail (.missingToken ")")
  | token :: rest =>
      if token = ")" then .ok (condition, rest) else fail (.unexpectedToken ")" token)

/-- An operand: a negated operand, a condition in parentheses, a quantified
group or a name. Each level of nesting uses up a token, so `fuel` need not
exceed the number of tokens. -/
def readOperand (names : List String) : (fuel : Nat) → Reader
  | _, [] => fail .endOfCondition
  | 0, _ => fail .endOfCondition
  | fuel + 1, token :: rest =>
      if keyword? token = some .negation then do
        let (operand, rest) ← readOperand names fuel rest
        return (.negation operand, rest)
      else if token = "(" then do
        let (condition, rest) ← readDisjunction (readOperand names fuel) rest
        expectClosing condition rest
      else if token = ")" then fail .unbalancedParenthesis
      else if isCount token ∨ keyword? token = some .every then readQuantified names token rest
      else if (keyword? token).isSome then fail (.unexpectedKeyword token)
      else readName names token rest

def ofTokens (tokens : List String) (names : List String) : Except Fault Condition :=
  if tokens.isEmpty then fail .emptyCondition
  else do
    let (condition, rest) ← readDisjunction (readOperand names tokens.length) tokens
    if rest.isEmpty then return condition else fail (.trailingTokens rest)

def parse (text : String) (names : List String) : Except Fault Condition :=
  ofTokens (tokens text) names

end ThreatWatch.Condition
