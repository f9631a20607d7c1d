import ThreatWatch.Calendar.Date

/-! Moments: a wall-clock time to the microsecond, with or without its distance
from universal time. Spans are signed numbers of microseconds. -/

namespace ThreatWatch.Calendar

def microsPerSecond : Nat := 1000000
def microsPerMinute : Nat := 60 * microsPerSecond
def microsPerHour : Nat := 60 * microsPerMinute
def microsPerDay : Nat := 24 * microsPerHour

def wallLimit : Nat := dayLimit * microsPerDay

structure Offset where
  micros : Int
  bounded : micros.natAbs < microsPerDay
  deriving DecidableEq, Repr

namespace Offset

def utc : Offset := ⟨0, by decide⟩

def ofMicros? (micros : Int) : Option Offset :=
  if bounded : micros.natAbs < microsPerDay then some ⟨micros, bounded⟩ else none

end Offset

/-- A reading of a wall clock, in microseconds from the start of year 1. -/
structure Moment where
  wall : Nat
  inRange : wall < wallLimit
  offset : Option Offset
  deriving DecidableEq, Repr

structure TimeOfDay where
  hour : Nat
  minute : Nat
  second : Nat
  micro : Nat
  deriving DecidableEq, Repr

namespace TimeOfDay

def midnight : TimeOfDay := ⟨0, 0, 0, 0⟩

def IsValid (time : TimeOfDay) : Prop :=
  time.hour < 24 ∧ time.minute < 60 ∧ time.second < 60 ∧ time.micro < microsPerSecond

instance (time : TimeOfDay) : Decidable time.IsValid :=
  inferInstanceAs (Decidable (_ ∧ _))

def micros (time : TimeOfDay) : Nat :=
  time.hour * microsPerHour + time.minute * microsPerMinute + time.second * microsPerSecond +
    time.micro

def ofMicros (micros : Nat) : TimeOfDay :=
  ⟨micros / microsPerHour, micros / microsPerMinute % 60, micros / microsPerSecond % 60,
    micros % microsPerSecond⟩

end TimeOfDay

namespace Moment

def ofWall? (wall : Int) (offset : Option Offset) : Option Moment :=
  if bounds : 0 ≤ wall ∧ wall.toNat < wallLimit then some ⟨wall.toNat, bounds.2, offset⟩
  else none

def ofParts? (date : Date) (time : TimeOfDay) (offset : Option Offset) : Option Moment :=
  if time.IsValid then ofWall? (date.number * microsPerDay + time.micros : Nat) offset
  else none

def civil (moment : Moment) : Civil :=
  civilOf (moment.wall / microsPerDay)

def time (moment : Moment) : TimeOfDay :=
  TimeOfDay.ofMicros (moment.wall % microsPerDay)

def isAware (moment : Moment) : Bool :=
  moment.offset.isSome

/-- The position on the universal time line; a moment without offset counts as
universal time. -/
def instant (moment : Moment) : Int :=
  moment.wall - (moment.offset.map Offset.micros).getD 0

def assumeUtc (moment : Moment) : Moment :=
  { moment with offset := some (moment.offset.getD Offset.utc) }

def toUtc? (moment : Moment) : Option Moment :=
  ofWall? moment.instant (some Offset.utc)

def comparable (left right : Moment) : Bool :=
  left.isAware == right.isAware

def add? (moment : Moment) (span : Int) : Option Moment :=
  ofWall? (moment.wall + span) moment.offset

def date (moment : Moment) : Date :=
  ⟨moment.wall / microsPerDay, by
    have bound := moment.inRange
    unfold wallLimit at bound
    exact Nat.div_lt_of_lt_mul (by rw [Nat.mul_comm]; exact bound)⟩

def epochWall : Nat := 719162 * microsPerDay

def ofEpochMicros? (micros : Int) : Option Moment :=
  ofWall? (epochWall + micros) (some Offset.utc)

theorem ofWall?_eq_some {wall : Int} {offset : Option Offset} {moment : Moment}
    (told : ofWall? wall offset = some moment) : moment.wall = wall ∧ moment.offset = offset := by
  unfold ofWall? at told
  split at told
  · next bounds =>
      cases told
      exact ⟨Int.toNat_of_nonneg bounds.1, rfl⟩
  · cases told

theorem toUtc?_eq_some {moment result : Moment} (told : moment.toUtc? = some result) :
    result.instant = moment.instant ∧ result.offset = some Offset.utc := by
  rcases ofWall?_eq_some told with ⟨wall, offset⟩
  refine ⟨?_, offset⟩
  rw [instant, offset, wall]
  simp [Offset.utc]

theorem toUtc?_of_utc {moment : Moment} (utc : moment.offset = some Offset.utc) :
    moment.toUtc? = some moment := by
  have same : moment.instant = moment.wall := by simp [instant, utc, Offset.utc]
  unfold toUtc? ofWall?
  rw [same, dif_pos ⟨Int.natCast_nonneg _, by simpa using moment.inRange⟩]
  cases moment
  simp_all

theorem add?_eq_some {moment result : Moment} {span : Int}
    (told : moment.add? span = some result) : result.instant = moment.instant + span := by
  rcases ofWall?_eq_some told with ⟨wall, offset⟩
  rw [instant, instant, offset, wall]
  omega

end Moment

end ThreatWatch.Calendar
