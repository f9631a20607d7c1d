import ThreatWatch.Calendar.Moment
import ThreatWatch.Fault
import ThreatWatch.Number.Amount

/-! Spans of time, in microseconds. A span of a whole number of units is exact.
One of a real number of units is the exact product for the whole part and the
double nearest to the product for the rest, brought to the nearest microsecond,
a half going to the even one. -/

namespace ThreatWatch.Calendar

def spanDayLimit : Int := 999999999

/-- Whether a span, counted in whole days towards the past, keeps to the
limit. -/
def spanFits (micros : Int) : Bool :=
  decide (-spanDayLimit ≤ Int.fdiv micros microsPerDay ∧
    Int.fdiv micros microsPerDay ≤ spanDayLimit)

def boundedSpan (micros : Int) : Except Fault Int :=
  if spanFits micros then .ok micros else .error .spanTooLarge

/-- A signed number of the smallest doubles, brought to the nearest integer. -/
def nearestWhole (units : Int) : Int :=
  Binary64.withSign (decide (units < 0)) (roundHalfEven units.natAbs Binary64.unitsPerOne)

def spanOf (unit : Nat) : Amount → Except Fault Int
  | .whole number => boundedSpan (number * unit)
  | .real .undefined => .error .undefinedNumber
  | .real (.infinite _) => .error .spanTooLarge
  | .real (.finite negative units) =>
      let whole := Binary64.withSign negative (units / Binary64.unitsPerOne)
      let rest := (Binary64.ofInt unit).multiply (Binary64.fraction (.finite negative units))
      boundedSpan (nearestWhole
        (whole * unit * Binary64.unitsPerOne + (rest.signedUnits?).getD 0))

end ThreatWatch.Calendar
