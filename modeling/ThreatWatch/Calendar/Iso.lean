import ThreatWatch.Calendar.Moment
import ThreatWatch.Number.Numeral

/-! The text form of dates and moments: `YYYY-MM-DD`, a separator, `HH:MM:SS`,
six fraction digits unless they are all zero, and the offset as `+HH:MM` with
seconds and fraction only where it has them. The reader takes more than is
written: dates without dashes or by week, times without colons or cut short,
and any separator. -/

namespace ThreatWatch.Calendar

/-! ## Writing -/

def padDigits (width number : Nat) : List Char :=
  let digits := Nat.toDigits 10 number
  List.replicate (width - digits.length) '0' ++ digits

def writeCivil (civil : Civil) : List Char :=
  padDigits 4 civil.year ++ '-' :: padDigits 2 civil.month ++ '-' :: padDigits 2 civil.day

def writeFraction (micro : Nat) : List Char :=
  if micro = 0 then [] else '.' :: padDigits 6 micro

def writeTime (time : TimeOfDay) : List Char :=
  padDigits 2 time.hour ++ ':' :: padDigits 2 time.minute ++ ':' :: padDigits 2 time.second ++
    writeFraction time.micro

def writeOffset (offset : Offset) : List Char :=
  let time := TimeOfDay.ofMicros offset.micros.natAbs
  (if offset.micros < 0 then '-' else '+') :: padDigits 2 time.hour ++ ':' ::
    padDigits 2 time.minute ++
    (if time.second = 0 ∧ time.micro = 0 then []
     else ':' :: padDigits 2 time.second ++ writeFraction time.micro)

def Date.isoCharacters (date : Date) : List Char :=
  writeCivil date.civil

def Date.iso (date : Date) : String :=
  String.ofList date.isoCharacters

def Moment.isoCharacters (separator : Char) (moment : Moment) : List Char :=
  writeCivil moment.civil ++ separator :: writeTime moment.time ++
    (match moment.offset with
     | some offset => writeOffset offset
     | none => [])

def Moment.iso (moment : Moment) : String :=
  String.ofList (moment.isoCharacters 'T')

/-! ## Reading -/

def takeNumber? : (count : Nat) → (total : Nat) → List Char → Option (Nat × List Char)
  | 0, total, rest => some (total, rest)
  | count + 1, total, character :: rest =>
      if Numeral.isPlainDigit character then
        takeNumber? count (total * 10 + Numeral.digitValue character) rest
      else none
  | _ + 1, _, [] => none

/-- Positions are counted in octets, so a character beyond the first half of
the octets stands as many times as it has octets. -/
def spreadOctets (characters : List Char) : List Char :=
  characters.flatMap fun character => List.replicate character.utf8Size character

def digitAt (characters : List Char) (position : Nat) : Bool :=
  (characters[position]?.map Numeral.isPlainDigit).getD false

/-- Where the date ends. A dash or a week mark after the year tells the forms
apart; where a week is followed by digits, their number decides whether the
first one is the day of the week. -/
def dateEnd? (characters : List Char) : Option Nat :=
  let length := characters.length
  if length = 7 then some 7
  else if characters[4]? = some '-' then
    if characters[5]? = some 'W' then
      if length < 8 then none
      else if characters[8]? = some '-' then
        if length = 9 then none
        else if digitAt characters 10 then some 8
        else some 10
      else some 8
    else some 10
  else if characters[4]? = some 'W' then
    let digits := ((characters.drop 7).takeWhile Numeral.isPlainDigit).length
    let position := 7 + digits
    if position < 9 then some position
    else if position % 2 = 0 then some 7
    else some 8
  else some 8

/-- A week date after the week mark; `atEnd` tells whether the date ends after
the week. -/
def readWeek? (dashed : Bool) (year : Nat) (dateLength : Nat) (characters : List Char) :
    Option Date := do
  let (week, rest) ← takeNumber? 2 0 characters
  let read := 4 + (if dashed then 1 else 0) + 3
  if read < dateLength then
    let rest ← if dashed then
        match rest with
        | '-' :: rest => some rest
        | _ => none
      else some rest
    let (day, _) ← takeNumber? 1 0 rest
    Date.ofWeek? year week day
  else Date.ofWeek? year week 1

def readDate? (dateLength : Nat) (characters : List Char) : Option Date := do
  let (year, rest) ← takeNumber? 4 0 characters
  let (dashed, rest) :=
    match rest with
    | '-' :: rest => (true, rest)
    | rest => (false, rest)
  match rest with
  | 'W' :: rest => readWeek? dashed year dateLength rest
  | rest =>
      let (month, rest) ← takeNumber? 2 0 rest
      let rest ← if dashed then
          match rest with
          | '-' :: rest => some rest
          | _ => none
        else some rest
      let (day, _) ← takeNumber? 2 0 rest
      Date.ofCivil? ⟨year, month, day⟩

/-- Up to six fraction digits count; more are skipped. The result tells whether
the digits reach the end. -/
def readFraction? (characters : List Char) : Option (Nat × Bool) := do
  let count := min 6 characters.length
  if count = 0 then none
  else
    let (number, rest) ← takeNumber? count 0 characters
    let skipped := rest.dropWhile Numeral.isPlainDigit
    return (number * Nat.pow 10 (6 - count), skipped.isEmpty)

/-- The parts of a time in order: each part is two digits, and `colons` tells
whether a colon stood after the first. A single character left after a part is
no part of the time; the flag tells whether the text was used up. -/
def readParts? : (remaining : Nat) → (colons : Option Bool) → List Char →
    Option (List Nat × Nat × Bool)
  | 0, _, rest => do
      let (micro, complete) ← readFraction? rest
      return ([], micro, complete)
  | remaining + 1, colons, characters => do
      let (number, rest) ← takeNumber? 2 0 characters
      match rest with
      | [] => return ([number], 0, true)
      | mark :: rest =>
          let colons := colons.getD (mark == ':')
          if rest.isEmpty then return ([number], 0, false)
          else if colons && mark == ':' then
            let (numbers, micro, complete) ← readParts? remaining (some colons) rest
            return (number :: numbers, micro, complete)
          else if mark = '.' ∨ mark = ',' then
            let (micro, complete) ← readFraction? rest
            return ([number], micro, complete)
          else if !colons then
            let (numbers, micro, complete) ← readParts? remaining (some colons) (mark :: rest)
            return (number :: numbers, micro, complete)
          else none

def readTime? (characters : List Char) : Option (TimeOfDay × Bool) := do
  let (numbers, micro, complete) ← readParts? 3 none characters
  return (⟨numbers.getD 0 0, numbers.getD 1 0, numbers.getD 2 0, micro⟩, complete)

def isOffsetMark (character : Char) : Bool :=
  character == '+' || character == '-' || character == 'Z'

/-- An offset of less than a second counts as none at all. -/
def readOffset? (negative : Bool) (characters : List Char) : Option Offset := do
  let (time, complete) ← readTime? characters
  if !complete then none
  else if time.hour = 0 ∧ time.minute = 0 ∧ time.second = 0 then return Offset.utc
  else Offset.ofMicros? (if negative then -(time.micros : Int) else time.micros)

def readZonedTime? (characters : List Char) : Option (TimeOfDay × Option Offset) := do
  let clock := characters.takeWhile (!isOffsetMark ·)
  let (time, complete) ← readTime? clock
  match characters.dropWhile (!isOffsetMark ·) with
  | [] => if complete then return (time, none) else none
  | 'Z' :: rest => if rest.isEmpty then return (time, some Offset.utc) else none
  | mark :: rest => do
      let offset ← readOffset? (mark == '-') rest
      return (time, some offset)

/-- Reads a moment; the date may stand alone and then means midnight. -/
def Moment.read? (text : String) : Option Moment := do
  let characters := spreadOctets text.toList
  let stop ← dateEnd? characters
  let date ← readDate? stop characters
  match characters.drop stop with
  | [] => Moment.ofParts? date TimeOfDay.midnight none
  | separator :: rest =>
      let (time, offset) ← readZonedTime? (rest.drop (separator.utf8Size - 1))
      Moment.ofParts? date time offset

def Date.read? (text : String) : Option Date :=
  readDate? text.length text.toList

end ThreatWatch.Calendar
