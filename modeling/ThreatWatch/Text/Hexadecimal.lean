/-! Hexadecimal digits, in lower case when written. -/

namespace ThreatWatch.Text

def hexDigit (value : Nat) : Char :=
  Nat.digitChar (value % 16)

def hexDigits : (width : Nat) → (value : Nat) → List Char
  | 0, _ => []
  | width + 1, value => hexDigits width (value / 16) ++ [hexDigit value]

def hexValue? (character : Char) : Option Nat :=
  let point := character.toNat
  if 48 ≤ point ∧ point ≤ 57 then some (point - 48)
  else if 97 ≤ point ∧ point ≤ 102 then some (point - 87)
  else if 65 ≤ point ∧ point ≤ 70 then some (point - 55)
  else none

def hexNumber? : List Char → Option Nat :=
  fun characters => characters.foldl
    (fun total character => do return (← total) * 16 + (← hexValue? character)) (some 0)

example : hexDigits 4 0xBEEF = ['b', 'e', 'e', 'f'] := rfl
example : hexNumber? ['b', 'E'] = some 0xBE := rfl

end ThreatWatch.Text
