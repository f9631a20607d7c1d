import ThreatWatch.Value

/-! Values as whole numbers. A real number loses its fraction, and a text is
read as a decimal numeral. -/

namespace ThreatWatch.Value

def integerOfText (content : String) : Except Fault Int :=
  match Numeral.readInt (Numeral.trim content) with
  | .ok number => .ok number
  | .error .malformed => .error .impossibleNumber
  | .error .tooLong => .error .tooManyDigits

def plainText? (octets : List UInt8) : Option String :=
  if octets.all (· < 128) then some (String.ofList (octets.map fun octet => Char.ofNat octet.toNat))
  else none

def integer : Value → Except Fault Int
  | .int number => .ok number
  | .bool flag => .ok (if flag then 1 else 0)
  | .float .undefined => .error .undefinedNumber
  | .float number =>
      match number.truncate? with
      | some whole => .ok whole
      | none => .error .integerTooLarge
  | .text content => integerOfText content
  | .bytes octets =>
      match plainText? octets with
      | some content => integerOfText content
      | none => .error .impossibleNumber
  | _ => .error .notANumber

end ThreatWatch.Value
