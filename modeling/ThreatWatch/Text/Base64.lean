import ThreatWatch.Text.CodePoints

/-! Octets written in base 64. Each digit brings six bits; characters that are
no digits are passed over, and the padding ends the text. -/

namespace ThreatWatch.Text.Base64

def digitValue? (character : Char) : Option Nat :=
  let point := character.toNat
  if 65 ≤ point ∧ point ≤ 90 then some (point - 65)
  else if 97 ≤ point ∧ point ≤ 122 then some (point - 71)
  else if 48 ≤ point ∧ point ≤ 57 then some (point + 4)
  else if character = '+' then some 62
  else if character = '/' then some 63
  else none

/-- The digits taken since the last whole group of four: their number, and the
bits that have not yet filled an octet. -/
structure Partial where
  digits : Nat := 0
  bits : Nat := 0
  deriving DecidableEq, Repr

/-- Takes one digit, which completes an octet unless it is the first of its
group. -/
def Partial.take (state : Partial) (digit : Nat) : Option UInt8 × Partial :=
  match state.digits with
  | 0 => (none, ⟨1, digit⟩)
  | 1 => (some (UInt8.ofNat (state.bits * 4 + digit / 16)), ⟨2, digit % 16⟩)
  | 2 => (some (UInt8.ofNat (state.bits * 16 + digit / 4)), ⟨3, digit % 4⟩)
  | _ => (some (UInt8.ofNat (state.bits * 64 + digit)), ⟨0, 0⟩)

/-- Reads digits until the padding completes a group or the text ends, which it
must not do inside a group. -/
def decodeFrom (state : Partial) (pads : Nat) : List Char → Option (List UInt8)
  | [] => if state.digits = 0 then some [] else none
  | character :: rest =>
      if character = '=' then
        if state.digits < 2 then decodeFrom state pads rest
        else if state.digits + pads + 1 ≥ 4 then some []
        else decodeFrom state (pads + 1) rest
      else
        match digitValue? character with
        | none => decodeFrom state pads rest
        | some digit =>
            match state.take digit with
            | (none, next) => decodeFrom next 0 rest
            | (some octet, next) => (decodeFrom next 0 rest).map (octet :: ·)

def decode? (characters : List Char) : Option (List UInt8) :=
  decodeFrom {} 0 characters

example : decode? ['a', 'G', 'k', '='] = some [0x68, 0x69] := by decide

end ThreatWatch.Text.Base64
