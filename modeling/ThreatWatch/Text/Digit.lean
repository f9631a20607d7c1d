import ThreatWatch.Text.CodePoints

/-! Digits. Decimal digits stand in runs of ten, from zero to nine, one run for
each script that has its own; the other digits are signs such as superscripts
that have a digit value but take no part in decimal numerals. -/

namespace ThreatWatch.Text

def decimalZeros : List Nat := [
  0x30, 0x660, 0x6F0, 0x7C0, 0x966, 0x9E6, 0xA66, 0xAE6, 0xB66, 0xBE6, 0xC66, 0xCE6,
  0xD66, 0xDE6, 0xE50, 0xED0, 0xF20, 0x1040, 0x1090, 0x17E0, 0x1810, 0x1946, 0x19D0,
  0x1A80, 0x1A90, 0x1B50, 0x1BB0, 0x1C40, 0x1C50, 0xA620, 0xA8D0, 0xA900, 0xA9D0,
  0xA9F0, 0xAA50, 0xABF0, 0xFF10, 0x104A0, 0x10D30, 0x11066, 0x110F0, 0x11136, 0x111D0,
  0x112F0, 0x11450, 0x114D0, 0x11650, 0x116C0, 0x11730, 0x118E0, 0x11950, 0x11C50,
  0x11D50, 0x11DA0, 0x16A60, 0x16AC0, 0x16B50, 0x1D7CE, 0x1D7D8, 0x1D7E2, 0x1D7EC,
  0x1D7F6, 0x1E140, 0x1E2F0, 0x1E950, 0x1FBF0]

def digitValueFrom (point : Nat) : List Nat → Option Nat
  | [] => none
  | base :: rest =>
      if point < base then none
      else if point < base + 10 then some (point - base)
      else digitValueFrom point rest

theorem digitValueFrom_lt {point value : Nat} {zeros : List Nat}
    (found : digitValueFrom point zeros = some value) : value < 10 := by
  induction zeros with
  | nil => cases found
  | cons base rest induction =>
      unfold digitValueFrom at found
      split at found
      · cases found
      · split at found
        · cases found
          omega
        · exact induction found

def decimalValue? (character : Char) : Option Nat :=
  digitValueFrom character.toNat decimalZeros

def isDecimal (character : Char) : Bool :=
  (decimalValue? character).isSome

def digitSigns : CodePoints := ⟨[
  0xB2, 0xB4, 0xB9, 0xBA, 0x1369, 0x1372, 0x19DA, 0x19DB, 0x2070, 0x2071, 0x2074,
  0x207A, 0x2080, 0x208A, 0x2460, 0x2469, 0x2474, 0x247D, 0x2488, 0x2491, 0x24EA,
  0x24EB, 0x24F5, 0x24FE, 0x24FF, 0x2500, 0x2776, 0x277F, 0x2780, 0x2789, 0x278A,
  0x2793, 0x10A40, 0x10A44, 0x10E60, 0x10E69, 0x11052, 0x1105B, 0x1F100, 0x1F10B]⟩

def isDigit (character : Char) : Bool :=
  isDecimal character || digitSigns.contains character

example : decimalValue? '7' = some 7 := rfl
example : decimalValue? '\u0663' = some 3 := rfl
example : isDigit '\u00b2' = true := rfl
example : isDecimal '\u00b2' = false := rfl

end ThreatWatch.Text
