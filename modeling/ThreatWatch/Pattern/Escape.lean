import ThreatWatch.Number.Numeral
import ThreatWatch.Pattern.Reading
import ThreatWatch.Text.Hexadecimal

/-! Escapes of regular expressions: code points by their number, categories,
anchors, and references to groups. -/

namespace ThreatWatch.Pattern.Read

def isOctal (character : Char) : Bool := decide ('0' ≤ character ∧ character ≤ '7')

def isHex (character : Char) : Bool := (Text.hexValue? character).isSome

def ofOctal (digits : List Char) : Nat :=
  digits.foldl (fun total digit => total * 8 + Numeral.digitValue digit) 0

def isAsciiAlpha (character : Char) : Bool := isAsciiLetter character.toNat

def hexEscape (count : Nat) : Read Nat := do
  let digits ← takeWhile isHex count
  if digits.length ≠ count then refuse
  else return (Text.hexNumber? digits).getD 0

def controlEscape? (letter : Char) : Option Nat :=
  match letter with
  | 'a' => some 7
  | 'b' => some 8
  | 'f' => some 12
  | 'n' => some 10
  | 'r' => some 13
  | 't' => some 9
  | 'v' => some 11
  | '\\' => some 92
  | _ => none

def categoryEscape? (letter : Char) : Option SetItem :=
  match letter with
  | 'd' => some (.category .digit false)
  | 'D' => some (.category .digit true)
  | 's' => some (.category .blank false)
  | 'S' => some (.category .blank true)
  | 'w' => some (.category .word false)
  | 'W' => some (.category .word true)
  | _ => none

def pointEscape? (letter : Char) : Read (Option Nat) := do
  match letter with
  | 'x' => return some (← hexEscape 2)
  | 'u' => return some (← hexEscape 4)
  | 'U' =>
      let point ← hexEscape 8
      if point ≥ 0x80000000 then refuse .pointTooLarge
      else if point > 0x10FFFF then refuse
      else return some point
  | _ => return none

def setEscape (letter : Char) : Read SetItem := do
  match controlEscape? letter, categoryEscape? letter with
  | some point, _ => return .point point
  | none, some item => return item
  | none, none =>
      match ← pointEscape? letter with
      | some point => return .point point
      | none =>
          if isOctal letter then
            let point := ofOctal (letter :: (← takeWhile isOctal 2))
            if point > 255 then refuse else return .point point
          else if Numeral.isPlainDigit letter || isAsciiAlpha letter then refuse
          else return .point letter.toNat

def pointTest (point : Nat) : Read Expression := do
  return .test (.point (← get).flags.folding point)

/-- A backslash and a digit other than zero: three octal digits are a code
point, anything else is the number of a group. -/
def digitEscape (first : Char) : Read Expression := do
  match ← peek with
  | some (.plain second) =>
      if Numeral.isPlainDigit second then
        let _ ← next
        match ← peek with
        | some (.plain third) =>
            if isOctal first && isOctal second && isOctal third then
              let _ ← next
              let point := ofOctal [first, second, third]
              if point > 255 then refuse else pointTest point
            else reference (Numeral.ofDigits [first, second])
        | _ => reference (Numeral.ofDigits [first, second])
      else reference (Numeral.digitValue first)
  | _ => reference (Numeral.digitValue first)

def anchorEscape? (flags : Flags) (letter : Char) : Option Anchor :=
  match letter with
  | 'A' => some .start
  | 'Z' => some .textStop
  | 'b' => some (.boundary flags.asciiOnly false)
  | 'B' => some (.boundary flags.asciiOnly true)
  | _ => none

def escape (letter : Char) : Read Expression := do
  let flags := (← get).flags
  match anchorEscape? flags letter, categoryEscape? letter, controlEscape? letter with
  | some place, _, _ => return .anchor place
  | none, some item, _ => return .test (.set flags.folding flags.asciiOnly false [item])
  | none, none, some point => pointTest point
  | none, none, none =>
      match ← pointEscape? letter with
      | some point => pointTest point
      | none =>
          if letter = '0' then pointTest (ofOctal (← takeWhile isOctal 2))
          else if Numeral.isPlainDigit letter then digitEscape letter
          else if isAsciiAlpha letter then refuse
          else pointTest letter.toNat

end ThreatWatch.Pattern.Read
