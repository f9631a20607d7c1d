import ThreatWatch.Number.Numeral
import ThreatWatch.Pattern.Reading

/-! Repetition in regular expressions. A sign of repetition belongs to the part
before it, which may be neither a place nor a repetition itself. -/

namespace ThreatWatch.Pattern.Read

/-- Repetition counts stay below this limit, which stands for no limit. -/
def repeatLimit : Nat := 0xFFFFFFFF

def repeatCount (digits : List Char) : Read Nat := do
  if digits.length > Numeral.digitLimit then refuse .numeralTooLong
  else
    let count := Numeral.ofDigits digits
    if count ≥ repeatLimit then refuse .repetitionTooLarge else return count

/-- The counts between braces; `none` where the braces are no counts. -/
def braces : Read (Option (Nat × Option Nat)) := do
  if (← peek) = some (.plain '\x7d') then return none
  else
    let before ← get
    let low ← takeAll Numeral.isPlainDigit
    let high ← if ← accept ',' then takeAll Numeral.isPlainDigit else pure low
    if !(← accept '\x7d') then
      set before
      return none
    else
      let least ← if low.isEmpty then pure 0 else repeatCount low
      if high.isEmpty then return some (least, none)
      else
        let most ← repeatCount high
        if most < least then refuse else return some (least, some most)

def greed : Read Greed := do
  if ← accept '?' then return .lazy
  else if ← accept '+' then return .possessive
  else return .greedy

/-! ## Parts -/

/-- What the repetition signs need to know of the part before them. -/
inductive PartKind where
  | place
  | repetition
  | other
  deriving DecidableEq, Repr

def kindOf : Expression → PartKind
  | .anchor _ => .place
  | .repeated _ _ _ _ => .repetition
  | _ => .other

abbrev Parts := List (PartKind × Expression)

def joinParts (parts : Parts) : Expression :=
  parts.foldl (fun joined part =>
    match joined with
    | .empty => part.2
    | joined => .sequence part.2 joined) .empty

def repeatLast (least : Nat) (most : Option Nat) : Parts → Read Parts
  | (.other, body) :: before => do
      return (.repetition, .repeated (← greed) least most body) :: before
  | _ => refuse

end ThreatWatch.Pattern.Read
