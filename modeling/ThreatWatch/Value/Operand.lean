import ThreatWatch.Value

/-! Values as operands of criteria: the text that is compared and the number
that is compared. -/

namespace ThreatWatch.Value

/-- The text of a value as criteria compare it: nothing is empty, truth values
are in lower case, and whole numbers have no fraction. -/
def operandText : Value → Except Fault String
  | .null => .ok ""
  | .text content => .ok content
  | .bool flag => .ok (if flag then "true" else "false")
  | .float number =>
      match number.isInteger, number.truncate? with
      | true, some whole => writtenInt whole
      | _, _ => .ok (number.written numberLayout)
  | value => value.shown

def readNumber? (content : String) : Option Binary64 :=
  (Numeral.readDouble? (Text.trim content)).bind Binary64.finite?

/-- The double nearest to an integer. One beyond the doubles cannot be compared at
all. -/
def integerOperand (number : Int) : Except Fault (Option Binary64) :=
  (Binary64.ofInt? number).elim (.error .integerTooLarge) fun double => .ok (some double)

/-- The number of a value as criteria compare it. Truth values are no numbers. -/
def operandNumber : Value → Except Fault (Option Binary64)
  | .null | .bool _ => .ok none
  | .int number => integerOperand number
  | .float number => .ok number.finite?
  | .text content => .ok (readNumber? content)
  | value =>
      match value.shown with
      | .ok content => .ok (readNumber? content)
      | .error _ => .ok none

end ThreatWatch.Value
