/-! Days of the proleptic Gregorian calendar, from the first day of year 1 to
the last day of year 9999. A day is its distance from the first one; year,
month and day of the month are read off it. -/

namespace ThreatWatch.Calendar

def isLeap (year : Nat) : Bool :=
  year % 4 == 0 && (year % 100 != 0 || year % 400 == 0)

/-- The days of all years before a year, counted from year 1. -/
def daysBeforeYear (year : Nat) : Nat :=
  (year - 1) * 365 + (year - 1) / 4 - (year - 1) / 100 + (year - 1) / 400

def daysInMonth (year month : Nat) : Nat :=
  match month with
  | 2 => if isLeap year then 29 else 28
  | 4 | 6 | 9 | 11 => 30
  | _ => 31

def daysBeforeMonth (year : Nat) : Nat → Nat
  | 0 => 0
  | 1 => 0
  | month + 2 => daysBeforeMonth year (month + 1) + daysInMonth year (month + 1)

def dayLimit : Nat := 3652059

structure Date where
  number : Nat
  inRange : number < dayLimit
  deriving DecidableEq, Repr

/-- A year, a month from 1 and a day of the month from 1. -/
structure Civil where
  year : Nat
  month : Nat
  day : Nat
  deriving DecidableEq, Repr

def Civil.IsValid (civil : Civil) : Prop :=
  1 ≤ civil.year ∧ civil.year ≤ 9999 ∧ 1 ≤ civil.month ∧ civil.month ≤ 12 ∧
    1 ≤ civil.day ∧ civil.day ≤ daysInMonth civil.year civil.month

instance (civil : Civil) : Decidable civil.IsValid :=
  inferInstanceAs (Decidable (_ ∧ _))

def Civil.dayNumber (civil : Civil) : Nat :=
  daysBeforeYear civil.year + daysBeforeMonth civil.year civil.month + (civil.day - 1)

/-- The year in which a day lies: the estimate by the mean length of a year is
never off by more than one. -/
def yearOf (number : Nat) : Nat :=
  let estimate := number * 400 / 146097 + 1
  if number < daysBeforeYear estimate then estimate - 1
  else if daysBeforeYear (estimate + 1) ≤ number then estimate + 1
  else estimate

def monthOf (year dayOfYear : Nat) : Nat → Nat
  | 0 => 1
  | month + 1 =>
      if daysBeforeMonth year (month + 1) ≤ dayOfYear then month + 1
      else monthOf year dayOfYear month

def civilOf (number : Nat) : Civil :=
  let year := yearOf number
  let dayOfYear := number - daysBeforeYear year
  let month := monthOf year dayOfYear 12
  ⟨year, month, dayOfYear - daysBeforeMonth year month + 1⟩

namespace Date

def ofNumber? (number : Int) : Option Date :=
  if bounds : 0 ≤ number ∧ number.toNat < dayLimit then some ⟨number.toNat, bounds.2⟩
  else none

def ofCivil? (civil : Civil) : Option Date :=
  if civil.IsValid then ofNumber? civil.dayNumber else none

def civil (date : Date) : Civil :=
  civilOf date.number

/-- The day of the week, from 0 for Monday. -/
def weekday (number : Nat) : Nat :=
  number % 7

end Date

/-! ## The year of a day -/

theorem daysBeforeYear_le_succ (year : Nat) : daysBeforeYear year ≤ daysBeforeYear (year + 1) := by
  unfold daysBeforeYear
  omega

theorem daysBeforeYear_mono {earlier later : Nat} (ordered : earlier ≤ later) :
    daysBeforeYear earlier ≤ daysBeforeYear later := by
  induction ordered with
  | refl => exact Nat.le_refl _
  | step _ induction => exact Nat.le_trans induction (daysBeforeYear_le_succ _)

theorem daysBeforeYear_yearOf_le (number : Nat) : daysBeforeYear (yearOf number) ≤ number := by
  unfold yearOf
  simp only
  split
  · unfold daysBeforeYear at *
    omega
  · split
    · assumption
    · omega

theorem lt_daysBeforeYear_yearOf (number : Nat) : number < daysBeforeYear (yearOf number + 1) := by
  unfold yearOf
  simp only
  split
  · assumption
  · split
    · unfold daysBeforeYear at *
      omega
    · omega

theorem le_yearOf_iff {year number : Nat} :
    year ≤ yearOf number ↔ daysBeforeYear year ≤ number := by
  constructor
  · intro atLeast
    exact Nat.le_trans (daysBeforeYear_mono atLeast) (daysBeforeYear_yearOf_le number)
  · intro passed
    refine Nat.le_of_not_lt fun before => Nat.not_le_of_lt ?_ passed
    exact Nat.lt_of_lt_of_le (lt_daysBeforeYear_yearOf number) (daysBeforeYear_mono before)

/-! ## Weeks -/

/-- The first Monday of the week-numbered year: the Monday of the week that
holds the fourth of January. -/
def firstMonday (year : Nat) : Int :=
  let start := daysBeforeYear year
  let weekday := start % 7
  (start : Int) - weekday + (if weekday > 3 then 7 else 0)

/-- Years that start on a Thursday, and leap years that start on a Wednesday,
have a week 53. -/
def hasWeek53 (year : Nat) : Bool :=
  let weekday := daysBeforeYear year % 7
  weekday == 3 || (weekday == 2 && isLeap year)

def Date.ofWeek? (year week day : Nat) : Option Date :=
  if year = 0 then none
  else if week = 0 ∨ 53 < week ∨ (week = 53 ∧ !hasWeek53 year) then none
  else if day = 0 ∨ 7 < day then none
  else Date.ofNumber? (firstMonday year + ((week - 1) * 7 + (day - 1) : Nat))

example : (Date.ofCivil? ⟨1, 1, 1⟩).map Date.number = some 0 := by decide
example : (Date.ofCivil? ⟨9999, 12, 31⟩).map Date.number = some (dayLimit - 1) := by
  decide +kernel
example : civilOf 719162 = ⟨1970, 1, 1⟩ := by decide +kernel

end ThreatWatch.Calendar
