import ThreatWatch.Fault
import ThreatWatch.Text.Case
import ThreatWatch.Value

/-! Numbers in documents. Underscores are passed over; integers may be binary,
octal, hexadecimal or of base sixty, and floats may be of base sixty too. -/

namespace ThreatWatch.Yaml

def withoutUnderscores (content : String) : List Char :=
  content.toList.filter (· != '_')

namespace WholeNumber

def readBase (base : Nat) (letters : List Char) (characters : List Char) : Except Fault Int :=
  let (negative, body) := Numeral.splitSign (Numeral.plainDigits (Text.trimCharacters characters))
  let digits :=
    match body with
    | '0' :: letter :: rest => if letters.contains letter then rest else body
    | body => body
  let value? (digit : Char) := (Text.hexValue? digit).filter (· < base)
  match digits.mapM value? with
  | none | some [] => .error .impossibleNumber
  | some values =>
      .ok (Binary64.withSign negative (values.foldl (fun total value => total * base + value) 0))

def readDecimal (characters : List Char) : Except Fault Int :=
  match Numeral.readInt (String.ofList (Text.trimCharacters characters)) with
  | .ok number => .ok number
  | .error .malformed => .error .impossibleNumber
  | .error .tooLong => .error .tooManyDigits

def readSexagesimal (characters : List Char) : Except Fault Int := do
  let parts ← (Text.pieces ':' characters).mapM readDecimal
  return parts.foldl (fun total part => total * 60 + part) 0

def readMagnitude : List Char → Except Fault Int
  | [] => .error .emptyNumber
  | ['0'] => .ok 0
  | '0' :: 'b' :: rest => readBase 2 ['b', 'B'] rest
  | '0' :: 'x' :: rest => readBase 16 ['x', 'X'] rest
  | '0' :: rest => readBase 8 ['o', 'O'] ('0' :: rest)
  | characters =>
      if characters.contains ':' then readSexagesimal characters else readDecimal characters

def read (content : String) : Except Fault Int :=
  match withoutUnderscores content with
  | '-' :: rest => do return -(← readMagnitude rest)
  | '+' :: rest => readMagnitude rest
  | characters => readMagnitude characters

end WholeNumber

namespace RealNumber

def readDecimal (characters : List Char) : Except Fault Binary64 :=
  match Numeral.readDouble? (String.ofList (Text.trimCharacters characters)) with
  | some number => .ok number
  | none => .error .impossibleNumber

/-- Adds up parts, the last one first, each weighing sixty times as much as the
one before it. -/
def addParts (weight : Nat) (total : Binary64) : List Binary64 → Except Fault Binary64
  | [] => .ok total
  | part :: rest =>
      match Binary64.ofInt? weight with
      | some factor => addParts (weight * 60) (total.add (part.multiply factor)) rest
      | none => .error .integerTooLarge

def readSexagesimal (characters : List Char) : Except Fault Binary64 := do
  let parts ← (Text.pieces ':' characters).mapM readDecimal
  addParts 1 Binary64.zero parts.reverse

def readMagnitude (characters : List Char) : Except Fault Binary64 :=
  if characters = ".inf".toList then .ok (.infinite false)
  else if characters = ".nan".toList then .ok .undefined
  else if characters.contains ':' then readSexagesimal characters
  else readDecimal characters

def read (content : String) : Except Fault Binary64 :=
  match Text.lowerCharacters (withoutUnderscores content) with
  | [] => .error .emptyNumber
  | '-' :: rest => do return (← readMagnitude rest).negate
  | '+' :: rest => readMagnitude rest
  | characters => readMagnitude characters

end RealNumber

end ThreatWatch.Yaml
