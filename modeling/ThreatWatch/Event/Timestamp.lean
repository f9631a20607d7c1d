import ThreatWatch.Value

/-! Moments from loosely written timestamps: moments themselves, texts in ISO
form, and seconds, milliseconds or nanoseconds since 1970 as numbers or texts of
numbers. Whatever has no offset counts as universal time. -/

namespace ThreatWatch.Timestamp

def unrecognized {α : Type} (value : Value) : Except Fault α := do
  .error (.unrecognizedTimestamp (← value.quoted))

/-! ## Epoch numbers -/

def nanosecondsAbove : Binary64 := Binary64.ofInt 100000000000000000

def millisecondsAbove : Binary64 := Binary64.ofInt 100000000000

/-- A number of some unit as seconds; its size tells the unit. -/
def inSeconds (number : Binary64) : Binary64 :=
  if nanosecondsAbove.lessThan number then number.divideBy 1000000000
  else if millisecondsAbove.lessThan number then number.divideBy 1000
  else number

/-- The last second of the last year that a clock of 32-bit years reaches, and
the first second of the first one. -/
def lastClockSecond : Int := 67768036191676799
def firstClockSecond : Int := -67768040609740800

/-- The microseconds since 1970 of a number of seconds, to the nearest one; of
two equally near ones to the even one. -/
def wholeMicros (seconds : Binary64) : Except Fault Int :=
  match seconds.truncate?, (seconds.fraction.multiply (Binary64.ofInt 1000000)).round? with
  | some whole, some part => .ok (whole * 1000000 + part)
  | _, _ => .error (if seconds = .undefined then .undefinedNumber else .epochOutOfReach)

def ofSeconds (seconds : Binary64) : Except Fault Calendar.Moment := do
  let micros ← wholeMicros seconds
  let second := Int.fdiv micros 1000000
  if second < -0x8000000000000000 ∨ second ≥ 0x8000000000000000 then .error .epochOutOfReach
  else if second > lastClockSecond ∨ second < firstClockSecond then .error .yearBeyondClock
  else
    match Calendar.Moment.ofEpochMicros? micros with
    | some moment => .ok moment
    | none => .error .yearOutOfRange

def ofNumber (number : Binary64) : Except Fault Calendar.Moment :=
  ofSeconds (inSeconds number)

/-- An integer counts as the double nearest to it. -/
def ofInteger (number : Int) : Except Fault Calendar.Moment :=
  (Binary64.ofInt? number).elim (.error .integerTooLarge) ofNumber

/-! ## Texts -/

def withOffset (text : String) : String :=
  match text.toList.getLast? with
  | some 'Z' => String.ofList text.toList.dropLast ++ "+00:00"
  | _ => text

/-- A number in a text; one that no calendar year can hold is unrecognized, as
is what is no number. -/
def ofNumberText (value : Value) (text : String) : Except Fault Calendar.Moment :=
  match Numeral.readDouble? text with
  | none => unrecognized value
  | some number =>
      match ofNumber number with
      | .error .yearOutOfRange | .error .undefinedNumber => unrecognized value
      | result => result

def ofText (value : Value) (content : String) : Except Fault Calendar.Moment :=
  let trimmed := Text.trim content
  if trimmed = "" then unrecognized value
  else
    let text := withOffset trimmed
    match Calendar.Moment.read? text with
    | some moment => .ok moment.assumeUtc
    | none => ofNumberText value text

def ofValue (value : Value) : Except Fault Calendar.Moment :=
  match value with
  | .moment time => .ok time.assumeUtc
  | .int number => ofInteger number
  | .float number => ofNumber number
  | .text content => ofText value content
  | value => unrecognized value

end ThreatWatch.Timestamp
