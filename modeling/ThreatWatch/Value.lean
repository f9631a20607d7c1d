import ThreatWatch.Calendar.Iso
import ThreatWatch.Fault
import ThreatWatch.Number.Numeral
import ThreatWatch.Number.Shortest
import ThreatWatch.Table

/-! Values as documents, settings and raw events hold them. A mapping keeps the
order of its entries and may have keys of any kind; a sealed mapping is one that
belongs to a finished rule and has texts as keys. -/

namespace ThreatWatch

inductive Value where
  | null
  | bool (flag : Bool)
  | int (number : Int)
  | float (number : Binary64)
  | text (content : String)
  | bytes (content : List UInt8)
  | date (day : Calendar.Date)
  | moment (time : Calendar.Moment)
  | list (items : List Value)
  | tuple (items : List Value)
  | set (items : List Value)
  | map (entries : List (Value × Value))
  | sealed (entries : List (Value × Value))
  deriving Inhabited

namespace Value

def kindName : Value → String
  | .null => "NoneType"
  | .bool _ => "bool"
  | .int _ => "int"
  | .float _ => "float"
  | .text _ => "str"
  | .bytes _ => "bytes"
  | .date _ => "date"
  | .moment _ => "datetime"
  | .list _ => "list"
  | .tuple _ => "tuple"
  | .set _ => "set"
  | .map _ => "dict"
  | .sealed _ => "mappingproxy"

def isScalar : Value → Bool
  | .text _ | .int _ | .float _ | .bool _ => true
  | _ => false

def isNull : Value → Bool
  | .null => true
  | _ => false

/-- Whether a value counts as present: nothing, zero and whatever is empty do
not. -/
def isPresent : Value → Bool
  | .null => false
  | .bool flag => flag
  | .int number => number != 0
  | .float number => !number.isZero
  | .text content => content != ""
  | .bytes content => !content.isEmpty
  | .date _ | .moment _ => true
  | .list items | .tuple items | .set items => !items.isEmpty
  | .map entries | .sealed entries => !entries.isEmpty

def items? : Value → Option (List Value)
  | .list items | .tuple items => some items
  | _ => none

def entries? : Value → Option (List (Value × Value))
  | .map entries => some entries
  | _ => none

def text? : Value → Option String
  | .text content => some content
  | _ => none

/-! ## Equality of keys -/

/-- The position of a number on the extended line, in units of the smallest
double, for every kind that counts as a number. -/
def numericRank? : Value → Option Int
  | .bool flag => some (if flag then Binary64.unitsPerOne else 0)
  | .int number => some (number * Binary64.unitsPerOne)
  | .float (.finite negative units) => some (Binary64.withSign negative units)
  | _ => none

def sameMoment (left right : Calendar.Moment) : Bool :=
  left.comparable right && left.instant == right.instant

mutual

def same : Value → Value → Bool
  | .null, .null => true
  | .text left, .text right => left == right
  | .bytes left, .bytes right => left == right
  | .date left, .date right => left == right
  | .moment left, .moment right => sameMoment left right
  | .list left, .list right => sameItems left right
  | .tuple left, .tuple right => sameItems left right
  | .float (.infinite left), .float (.infinite right) => left == right
  | left, right =>
      match left.numericRank?, right.numericRank? with
      | some first, some second => first == second
      | _, _ => false

def sameItems : List Value → List Value → Bool
  | [], [] => true
  | first :: rest, other :: others => same first other && sameItems rest others
  | _, _ => false

end

/-! ## Entries of mappings -/

def lookup? (entries : List (Value × Value)) (key : Value) : Option Value :=
  (entries.find? fun entry => entry.1.same key).map Prod.snd

/-- The value under a text key, nothing where it is missing. -/
def entry (entries : List (Value × Value)) (name : String) : Value :=
  (lookup? entries (.text name)).getD .null

def putEntry (key value : Value) : List (Value × Value) → List (Value × Value)
  | [] => [(key, value)]
  | (first, old) :: rest =>
      if first.same key then (first, value) :: rest
      else (first, old) :: putEntry key value rest

def ofEntries (entries : List (Value × Value)) : List (Value × Value) :=
  entries.foldl (fun result entry => putEntry entry.1 entry.2 result) []

/-! ## Texts of values -/

def missingText : String := "None"

def numberLayout : DecimalLayout where
  leastPositional := -4
  positionalLimit := 16
  exponentMark := 'e'
  exponentWidth := 2
  infinityText := "inf"
  undefinedText := "nan"

def writtenInt (number : Int) : Except Fault String :=
  match Numeral.writeInt? number with
  | some digits => .ok digits
  | none => .error .tooManyDigits

def writtenDate (date : Calendar.Date) : String :=
  let civil := date.civil
  "datetime.date(" ++ Text.join ", " [toString civil.year, toString civil.month,
    toString civil.day] ++ ")"

def writtenSpan (micros : Int) : String :=
  let days := Int.fdiv micros Calendar.microsPerDay
  let rest := (Int.fmod micros Calendar.microsPerDay).toNat
  let seconds := rest / Calendar.microsPerSecond
  let part := rest % Calendar.microsPerSecond
  let parts := (if days = 0 then [] else ["days=" ++ toString days]) ++
    (if seconds = 0 then [] else ["seconds=" ++ toString seconds]) ++
    (if part = 0 then [] else ["microseconds=" ++ toString part])
  "datetime.timedelta(" ++ (if parts.isEmpty then "0" else Text.join ", " parts) ++ ")"

def writtenOffset (offset : Calendar.Offset) : String :=
  if offset.micros = 0 then "datetime.timezone.utc"
  else "datetime.timezone(" ++ writtenSpan offset.micros ++ ")"

def writtenMoment (moment : Calendar.Moment) : String :=
  let civil := moment.civil
  let time := moment.time
  let tail := if time.micro ≠ 0 then [time.second, time.micro]
    else if time.second ≠ 0 then [time.second] else []
  let numbers := [civil.year, civil.month, civil.day, time.hour, time.minute] ++ tail
  let zone := match moment.offset with
    | some offset => ["tzinfo=" ++ writtenOffset offset]
    | none => []
  "datetime.datetime(" ++ Text.join ", " (numbers.map toString ++ zone) ++ ")"

mutual

def quoted : Value → Except Fault String
  | .null => .ok missingText
  | .bool flag => .ok (if flag then "True" else "False")
  | .int number => writtenInt number
  | .float number => .ok (number.written numberLayout)
  | .text content => .ok (Text.quoted content)
  | .bytes content => .ok (Text.quotedOctets content)
  | .date day => .ok (writtenDate day)
  | .moment time => .ok (writtenMoment time)
  | .list items => do return "[" ++ Text.join ", " (← quotedItems items) ++ "]"
  | .tuple [item] => do return "(" ++ (← quoted item) ++ ",)"
  | .tuple items => do return "(" ++ Text.join ", " (← quotedItems items) ++ ")"
  | .set [] => .ok "set()"
  | .set items => do return "\x7b" ++ Text.join ", " (← quotedItems items) ++ "\x7d"
  | .map entries => do return "\x7b" ++ Text.join ", " (← quotedEntries entries) ++ "\x7d"
  | .sealed entries => do
      return "mappingproxy(\x7b" ++ Text.join ", " (← quotedEntries entries) ++ "\x7d)"

def quotedItems : List Value → Except Fault (List String)
  | [] => .ok []
  | item :: rest => do return (← quoted item) :: (← quotedItems rest)

def quotedEntries : List (Value × Value) → Except Fault (List String)
  | [] => .ok []
  | (key, value) :: rest => do
      let shown := (← quoted key) ++ ": " ++ (← quoted value)
      return shown :: (← quotedEntries rest)

end

def shown : Value → Except Fault String
  | .text content => .ok content
  | .date day => .ok day.iso
  | .moment time => .ok (String.ofList (time.isoCharacters ' '))
  | .sealed entries => quoted (.map entries)
  | value => quoted value

/-- The text of a value, empty where the value does not count as present. -/
def shownOrEmpty (value : Value) : Except Fault String :=
  if value.isPresent then value.shown else .ok ""

end Value

end ThreatWatch
