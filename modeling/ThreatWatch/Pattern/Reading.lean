import ThreatWatch.Pattern.Expression
import ThreatWatch.Pattern.Flags
import ThreatWatch.Pattern.Token
import ThreatWatch.Text.Identifier

/-! Reading a regular expression token by token. What is known of the groups that
have been closed decides which of them may be referred to. -/

namespace ThreatWatch.Pattern

/-- What has been read of the whole expression: the tokens left, the flags in
force, the widths of the groups closed so far and the names of groups. -/
structure ReadState where
  rest : List PatternToken
  flags : Flags := {}
  widths : List (Option (Nat × Nat)) := [none]
  names : List (List Char × Nat) := []
  lookbehind : Option Nat := none
  conditions : List Nat := []

abbrev Read := StateT ReadState (Except PatternFault)

namespace Read

def refuse {α : Type} (fault : PatternFault := .malformed) : Read α :=
  throw fault

def peek : Read (Option PatternToken) := do
  return (← get).rest.head?

def checkNext : Read Unit := do
  if (← peek) = some .dangling then refuse

def next : Read (Option PatternToken) := do
  match (← get).rest with
  | [] => return none
  | token :: rest =>
      modify fun state => { state with rest := rest }
      checkNext
      return some token

def demand : Read PatternToken := do
  match ← next with
  | some token => return token
  | none => refuse

def accept (character : Char) : Read Bool := do
  if (← peek) = some (.plain character) then
    let _ ← next
    return true
  else return false

def takeWhile (passes : Char → Bool) : (count : Nat) → Read (List Char)
  | 0 => return []
  | count + 1 => do
      match ← peek with
      | some (.plain character) =>
          if passes character then
            let _ ← next
            return character :: (← takeWhile passes count)
          else return []
      | _ => return []

def remaining : Read Nat := do
  return (← get).rest.length

def takeAll (passes : Char → Bool) : Read (List Char) := do
  takeWhile passes (← remaining)

/-- The text up to a terminator, which is consumed; it must not be empty. -/
def untilMark (terminator : Char) : (fuel : Nat) → List Char → Read (List Char)
  | 0, _ => refuse
  | fuel + 1, collected => do
      match ← next with
      | none => refuse
      | some token =>
          if token = .plain terminator then
            if collected.isEmpty then refuse else return collected
          else untilMark terminator fuel (collected ++ token.characters)

def nameUntil (terminator : Char) : Read (List Char) := do
  untilMark terminator ((← remaining) + 1) []

/-! ## Groups -/

def closedWidth? (index : Nat) : Read (Option (Nat × Nat)) := do
  return ((← get).widths[index]?).join

/-- Inside a look back, only groups closed before it may be referred to. -/
def checkLookbehind (index : Nat) : Read Unit := do
  match (← get).lookbehind with
  | none => return
  | some limit =>
      if (← closedWidth? index).isNone || decide (limit ≤ index) then refuse

def reference (index : Nat) : Read Expression := do
  match ← closedWidth? index with
  | none => refuse
  | some width =>
      checkLookbehind index
      return .reference (← get).flags.folding index width

def openGroup (name : Option (List Char)) : Read Nat := do
  let state ← get
  let index := state.widths.length
  match name with
  | none => set { state with widths := state.widths ++ [none] }
  | some name =>
      if (state.names.lookup name).isSome then refuse
      else set { state with
        widths := state.widths ++ [none], names := state.names ++ [(name, index)] }
  return index

def closeGroup (index : Nat) (body : Expression) : Read Unit :=
  modify fun state => { state with widths := state.widths.set index (some body.width) }

def checkName (name : List Char) : Read Unit := do
  if !Text.isIdentifier name then refuse

end Read

end ThreatWatch.Pattern
