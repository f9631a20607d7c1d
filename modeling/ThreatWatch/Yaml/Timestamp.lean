import ThreatWatch.Number.Numeral
import ThreatWatch.Value

/-! Timestamps in documents: a date, or a date with a time of day and perhaps a
zone. -/

namespace ThreatWatch.Yaml

inductive Zone where
  | universal
  | offset (negative : Bool) (hours minutes : Nat)
  deriving DecidableEq, Repr

structure ClockTime where
  hour : Nat
  minute : Nat
  second : Nat
  /-- The digits after the point. -/
  fraction : List Char
  zone : Option Zone
  deriving DecidableEq, Repr

structure Timestamp where
  year : Nat
  month : Nat
  day : Nat
  /-- Month and day have two digits each. -/
  fullWidth : Bool
  time : Option ClockTime
  deriving DecidableEq, Repr

namespace Timestamp

abbrev Reader (α : Type) := List Char → Option (α × List Char)

/-! ## Reading -/

def isBlank (character : Char) : Bool :=
  character == ' ' || character == '\t'

def digits (least most : Nat) : Reader (List Char) := fun characters =>
  let taken := (characters.take most).takeWhile Numeral.isPlainDigit
  if taken.length < least then none else some (taken, characters.drop taken.length)

def number (least most : Nat) : Reader Nat := fun characters => do
  let (taken, rest) ← digits least most characters
  return (Numeral.ofDigits taken, rest)

def mark (expected : Char) : List Char → Option (List Char)
  | character :: rest => if character = expected then some rest else none
  | [] => none

def offset (negative : Bool) (characters : List Char) : Option Zone := do
  let (hours, rest) ← number 1 2 characters
  match rest with
  | [] => return .offset negative hours 0
  | ':' :: rest =>
      let (minutes, rest) ← number 2 2 rest
      if rest.isEmpty then return .offset negative hours minutes else none
  | _ => none

def zone : List Char → Option (Option Zone)
  | [] => some none
  | characters =>
      match characters.dropWhile isBlank with
      | ['Z'] => some (some .universal)
      | '+' :: rest => (offset false rest).map some
      | '-' :: rest => (offset true rest).map some
      | _ => none

def clockTime (characters : List Char) : Option ClockTime := do
  let (hour, rest) ← number 1 2 characters
  let (minute, rest) ← number 2 2 (← mark ':' rest)
  let (second, rest) ← number 2 2 (← mark ':' rest)
  let (fraction, rest) :=
    match rest with
    | '.' :: rest => Numeral.splitDigits rest
    | rest => ([], rest)
  return ⟨hour, minute, second, fraction, ← zone rest⟩

def afterDate : List Char → Option (List Char)
  | 'T' :: rest | 't' :: rest => some rest
  | character :: rest => if isBlank character then some (rest.dropWhile isBlank) else none
  | [] => none

def read? (characters : List Char) : Option Timestamp := do
  let (year, rest) ← number 4 4 characters
  let (month, rest) ← digits 1 2 (← mark '-' rest)
  let (day, rest) ← digits 1 2 (← mark '-' rest)
  let date (time : Option ClockTime) : Timestamp :=
    ⟨year, Numeral.ofDigits month, Numeral.ofDigits day,
      month.length == 2 && day.length == 2, time⟩
  if rest.isEmpty then return date none
  else return date (some (← clockTime (← afterDate rest)))

def isPlain (characters : List Char) : Bool :=
  match read? characters with
  | some timestamp => timestamp.fullWidth || timestamp.time.isSome
  | none => false

/-! ## Value -/

def micros (fraction : List Char) : Nat :=
  let kept := fraction.take 6
  Numeral.ofDigits kept * Nat.pow 10 (6 - kept.length)

def Zone.offset? : Zone → Option Calendar.Offset
  | .universal => some Calendar.Offset.utc
  | .offset negative hours minutes =>
      let span := hours * Calendar.microsPerHour + minutes * Calendar.microsPerMinute
      Calendar.Offset.ofMicros? (if negative then -span else span)

def value? (timestamp : Timestamp) : Option Value := do
  let date ← Calendar.Date.ofCivil? ⟨timestamp.year, timestamp.month, timestamp.day⟩
  match timestamp.time with
  | none => return .date date
  | some clock =>
      let offset ←
        match clock.zone with
        | none => pure none
        | some zone => (Zone.offset? zone).map some
      let time : Calendar.TimeOfDay :=
        ⟨clock.hour, clock.minute, clock.second, micros clock.fraction⟩
      return .moment (← Calendar.Moment.ofParts? date time offset)

end Timestamp

end ThreatWatch.Yaml
