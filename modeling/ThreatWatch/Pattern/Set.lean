import ThreatWatch.Pattern.Escape

/-! Sets of regular expressions: the characters, ranges and categories between
square brackets. -/

namespace ThreatWatch.Pattern.Read

def setMember (token : PatternToken) : Read SetItem := do
  match token with
  | .plain character => return .point character.toNat
  | .escaped letter => setEscape letter
  | .dangling => refuse

def setItems : (fuel : Nat) → List SetItem → Read (List SetItem)
  | 0, _ => refuse
  | fuel + 1, items => do
      let token ← demand
      if token = .plain ']' && !items.isEmpty then return items
      else
        let first ← setMember token
        if ← accept '-' then
          let token ← demand
          if token = .plain ']' then return items ++ [first, .point 45]
          else
            match first, ← setMember token with
            | .point low, .point high =>
                if high < low then refuse else setItems fuel (items ++ [.range low high])
            | _, _ => refuse
        else setItems fuel (items ++ [first])

def readSet : Read Expression := do
  let negated ← accept '^'
  let items ← setItems ((← remaining) + 1) []
  let flags := (← get).flags
  match items.eraseDups with
  | [.point value] =>
      return .test (if negated then .notPoint flags.folding value else .point flags.folding value)
  | items => return .test (.set flags.folding flags.asciiOnly negated items)

end ThreatWatch.Pattern.Read
