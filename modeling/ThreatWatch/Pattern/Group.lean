import ThreatWatch.Pattern.Escape
import ThreatWatch.Text.Basic

/-! Groups of regular expressions: captures, parts with flags of their own, looks
ahead and behind, conditions and comments. -/

namespace ThreatWatch.Pattern.Read

/-! ## Flags -/

def alphabets (flags : Flags) : Nat :=
  flags.asciiOnly.toNat + flags.unicode.toNat

inductive FlagEnd where
  | whole
  | turnOff
  | body
  deriving DecidableEq, Repr

def addedFlags : (fuel : Nat) → Char → Flags → Read (Flags × FlagEnd)
  | 0, _, _ => refuse
  | fuel + 1, letter, flags => do
      match Flags.ofLetter? letter with
      | none => refuse
      | some flag =>
          let flags := flags.union flag
          if alphabets flag = 1 && alphabets flags > 1 then refuse
          else
            match ← demand with
            | .plain ')' => return (flags, .whole)
            | .plain '-' => return (flags, .turnOff)
            | .plain ':' => return (flags, .body)
            | .plain letter => addedFlags fuel letter flags
            | _ => refuse

def removedFlags : (fuel : Nat) → Char → Flags → Read Flags
  | 0, _, _ => refuse
  | fuel + 1, letter, flags => do
      match Flags.ofLetter? letter with
      | none => refuse
      | some flag =>
          if alphabets flag > 0 then refuse
          else
            let flags := flags.union flag
            match ← demand with
            | .plain ':' => return flags
            | .plain letter => removedFlags fuel letter flags
            | _ => refuse

def turnedOff : Read Flags := do
  match ← demand with
  | .plain letter => removedFlags ((← remaining) + 1) letter Flags.none
  | _ => refuse

/-- Flags after an opening parenthesis and question mark: `none` where they are
set for the whole expression. -/
def groupFlags (letter : Char) : Read (Option (Flags × Flags)) := do
  let (added, mark) ←
    if letter = '-' then pure (Flags.none, FlagEnd.turnOff)
    else addedFlags ((← remaining) + 1) letter Flags.none
  if mark = .whole then
    modify fun state => { state with flags := state.flags.union added }
    return none
  else if added.template then refuse
  else
    let removed ← if mark = .turnOff then turnedOff else pure Flags.none
    if removed.template || added.meets removed then refuse
    else return some (added, removed)

/-! ## Groups -/

/-- Readers of nested parts: a choice of sequences, and a single sequence. -/
structure Nested where
  choice : Read Expression
  sequence : Read Expression

def closing : Read Unit := do
  if !(← accept ')') then refuse

def captured (nested : Nested) (name : Option (List Char)) : Read Expression := do
  let index ← openGroup name
  let body ← nested.choice
  closing
  closeGroup index body
  return .group index body

def withFlags (flags : Flags) (read : Read Expression) : Read Expression := do
  let before := (← get).flags
  modify fun state => { state with flags := flags }
  let body ← read
  modify fun state => { state with flags := before }
  return body

def lookAround (nested : Nested) (back negated : Bool) : Read Expression := do
  let outer := (← get).lookbehind
  if back && outer.isNone then
    modify fun state => { state with lookbehind := some state.widths.length }
  let body ← nested.choice
  modify fun state => { state with lookbehind := outer }
  closing
  return if back then .behind negated body else .ahead negated body

def conditionGroup (name : List Char) : Read Nat := do
  if Text.isIdentifier name then
    match (← get).names.lookup name with
    | some index => return index
    | none => refuse
  else
    match Numeral.readInt (Text.trim (String.ofList name)) with
    | .error _ => refuse
    | .ok number =>
        if number ≤ 0 || number ≥ 0x40000000 then refuse
        else
          modify fun state => { state with conditions := number.toNat :: state.conditions }
          return number.toNat

def conditional (nested : Nested) : Read Expression := do
  let index ← conditionGroup (← nameUntil ')')
  checkLookbehind index
  let present ← nested.sequence
  let missing ← if ← accept '|' then
      let missing ← nested.sequence
      if (← peek) = some (.plain '|') then refuse else pure missing
    else pure .empty
  closing
  return .ifGroup index present missing

def skipComment : (fuel : Nat) → Read Unit
  | 0 => refuse
  | fuel + 1 => do
      match ← demand with
      | .plain ')' => return
      | _ => skipComment fuel

/-- What stands after an opening parenthesis; `none` where nothing is left of
it in the tree. `leading` tells whether flags for the whole expression may stand
here. -/
def readGroup (nested : Nested) (leading : Bool) : Read (Option Expression) := do
  if !(← accept '?') then return some (← captured nested none)
  else
    match ← demand with
    | .plain 'P' =>
        if ← accept '<' then
          let name ← nameUntil '>'
          checkName name
          return some (← captured nested (some name))
        else if ← accept '=' then
          let name ← nameUntil ')'
          checkName name
          match (← get).names.lookup name with
          | some index => return some (← reference index)
          | none => refuse
        else refuse
    | .plain ':' =>
        let body ← withFlags (← get).flags nested.choice
        closing
        return some body
    | .plain '#' =>
        skipComment ((← remaining) + 1)
        return none
    | .plain '=' => return some (← lookAround nested false false)
    | .plain '!' => return some (← lookAround nested false true)
    | .plain '<' =>
        match ← demand with
        | .plain '=' => return some (← lookAround nested true false)
        | .plain '!' => return some (← lookAround nested true true)
        | _ => refuse
    | .plain '(' => return some (← conditional nested)
    | .plain '>' =>
        let body ← nested.choice
        closing
        return some (.atomic body)
    | .plain letter =>
        match ← groupFlags letter with
        | none => if leading then return none else refuse
        | some (added, removed) =>
            let flags := (← get).flags
            let body ← withFlags (flags.inside added removed) nested.choice
            closing
            return some body
    | _ => refuse

end ThreatWatch.Pattern.Read
