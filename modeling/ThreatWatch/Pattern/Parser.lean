import ThreatWatch.Pattern.Group
import ThreatWatch.Pattern.Repetition
import ThreatWatch.Pattern.Set

/-! Regular expressions read from their text. Nested parts are read by a reader of
one level less, so the nesting is bounded by the number of tokens. -/

namespace ThreatWatch.Pattern

namespace Read

def skipLine : (fuel : Nat) → Read Unit
  | 0 => return
  | fuel + 1 => do
      match ← next with
      | none => return
      | some (.plain '\n') => return
      | some _ => skipLine fuel

def isLayout (character : Char) : Bool :=
  character == ' ' || decide (9 ≤ character.toNat ∧ character.toNat ≤ 13)

def anchorOf (flags : Flags) (character : Char) : Anchor :=
  if character = '^' then (if flags.multiline then .lineStart else .start)
  else if flags.multiline then .lineStop
  else .stop

def readPart (nested : Nested) (first : Bool) (parts : Parts) (token : PatternToken) :
    Read Parts := do
  let flags := (← get).flags
  let other (body : Expression) : Parts := (.other, body) :: parts
  match token with
  | .dangling => refuse
  | .escaped letter =>
      let part ← escape letter
      return (kindOf part, part) :: parts
  | .plain character =>
      if flags.verbose && isLayout character then return parts
      else if flags.verbose && character = '#' then
        skipLine ((← remaining) + 1)
        return parts
      else
        match character with
        | '[' => return other (← readSet)
        | '?' => repeatLast 0 (some 1) parts
        | '*' => repeatLast 0 none parts
        | '+' => repeatLast 1 none parts
        | '\x7b' =>
            match ← braces with
            | some (least, most) => repeatLast least most parts
            | none => return other (← pointTest character.toNat)
        | '.' => return other (.test (.any flags.dotAll))
        | '(' =>
            match ← readGroup nested (first && parts.isEmpty) with
            | some part => return other part
            | none => return parts
        | '^' | '$' => return (.place, .anchor (anchorOf flags character)) :: parts
        | _ => return other (← pointTest character.toNat)

def readParts (nested : Nested) (first : Bool) : (fuel : Nat) → Parts → Read Parts
  | 0, _ => refuse
  | fuel + 1, parts => do
      match ← peek with
      | none => return parts
      | some (.plain '|') => return parts
      | some (.plain ')') => return parts
      | some token =>
          let _ ← next
          readParts nested first fuel (← readPart nested first parts token)

def readSequence (nested : Nested) (first : Bool) : Read Expression := do
  return joinParts (← readParts nested first ((← remaining) + 1) [])

def readChoice (nested : Nested) : (fuel : Nat) → (first : Bool) → Read Expression
  | 0, _ => refuse
  | fuel + 1, first => do
      let left ← readSequence nested first
      if ← accept '|' then return .choice left (← readChoice nested fuel false)
      else return left

def nestedReaders : (depth : Nat) → Nested
  | 0 => ⟨refuse, refuse⟩
  | depth + 1 =>
      let inner := nestedReaders depth
      ⟨do readChoice inner ((← remaining) + 1) false, readSequence inner false⟩

def readWhole : Read Expression := do
  checkNext
  let tokens ← remaining
  let body ← readChoice (nestedReaders tokens) (tokens + 1) true
  let state ← get
  if state.flags.asciiOnly && state.flags.unicode then refuse .incompatibleFlags
  else if !state.rest.isEmpty then refuse
  else if state.conditions.any fun index => decide (state.widths.length ≤ index) then refuse
  else if state.flags.template && body.hasRepeat then refuse
  else if !body.fixedLookbehind then refuse
  else return body

end Read

/-- Reads an expression; letter case is ignored unless the expression says
otherwise. -/
def Expression.parse (text : String) : Except PatternFault Expression :=
  (Read.readWhole.run { rest := PatternToken.scan text.toList }).map Prod.fst

end ThreatWatch.Pattern
