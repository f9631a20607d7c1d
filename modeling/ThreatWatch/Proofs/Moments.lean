import ThreatWatch.Proofs.Days
import ThreatWatch.Proofs.Epochs

/-! Moments read back from their text form. A date and a time of day come back to the
microsecond, with an offset where one is written. Only an offset of less than a second is lost,
since the reading looks at no more than hours, minutes and seconds to tell it from none. -/

namespace ThreatWatch

namespace Calendar

open Numeral

/-! ## Numbers of a fixed width -/

section Digits

variable {width number : Nat}

theorem plain_padDigits (width number : Nat) :
    (padDigits width number).all isPlainDigit = true := by
  rw [padDigits, List.all_append, plain_toDigits, Bool.and_true, List.all_eq_true]
  intro digit member
  rw [List.eq_of_mem_replicate member]
  decide

theorem length_padDigits (positive : 0 < width) (small : number < Nat.pow 10 width) :
    (padDigits width number).length = width := by
  have fits : (Nat.toDigits 10 number).length ≤ width :=
    (Nat.length_toDigits_le_iff (by decide) positive).mpr small
  rw [padDigits, List.length_append, List.length_replicate, Nat.sub_add_cancel fits]

theorem ofDigits_padDigits (width number : Nat) : ofDigits (padDigits width number) = number := by
  have zeros (count : Nat) : ofDigits (List.replicate count '0') = 0 := by
    induction count with
    | zero => rfl
    | succ count induction => exact induction
  rw [padDigits, ofDigits, List.foldl_append, ← ofDigits, zeros]
  exact ofDigits_toDigits number

theorem takeNumber?_padDigits (positive : 0 < width) (small : number < Nat.pow 10 width)
    (rest : List Char) :
    takeNumber? width 0 (padDigits width number ++ rest) = some (number, rest) := by
  have read := takeNumber?_append (plain_padDigits width number) 0 rest
  rw [length_padDigits positive small, ← ofDigits, ofDigits_padDigits] at read
  exact read

end Digits

/-! ## Parts of a time -/

section Parts

variable {number remaining : Nat}

theorem readParts?_colon (small : number < 100) {rest : List Char} (filled : rest ≠ [])
    {colons : Option Bool} (allowed : colons ≠ some false) :
    readParts? (remaining + 1) colons (padDigits 2 number ++ ':' :: rest) =
      (readParts? remaining (some true) rest).map fun parts =>
        (number :: parts.1, parts.2) := by
  have colon : colons.getD true = true := by
    rcases colons with _ | _ | _ <;> simp_all
  rw [readParts?, takeNumber?_padDigits (by decide) small]
  simp [colon, filled, Option.map_eq_bind]

theorem readParts?_last (small : number < 100) {micro : Nat} (inSecond : micro < microsPerSecond) :
    readParts? (remaining + 1) (some true) (padDigits 2 number ++ writeFraction micro) =
      some ([number], micro, true) := by
  rw [readParts?, takeNumber?_padDigits (by decide) small, writeFraction]
  split
  · next none => simp [none]
  · have length : (padDigits 6 micro).length = 6 := length_padDigits (by decide) inSecond
    have filled : padDigits 6 micro ≠ [] := by
      rw [← List.length_pos_iff, length]
      decide
    have read : fractionMicros (padDigits 6 micro) = micro := by
      rw [fractionMicros, List.take_of_length_le (Nat.le_of_eq length), ofDigits_padDigits, length]
      exact Nat.mul_one micro
    simp [filled, readFraction?_of_plain (plain_padDigits 6 micro) filled, read]

end Parts

/-! ## Times of day -/

theorem readTime?_writeTime {time : TimeOfDay} (valid : time.IsValid) :
    readTime? (writeTime time) = some (time, true) := by
  obtain ⟨hour, minute, second, micro⟩ := valid
  have parts : writeTime time =
      padDigits 2 time.hour ++ ':' :: (padDigits 2 time.minute ++ ':' ::
        (padDigits 2 time.second ++ writeFraction time.micro)) := by
    simp [writeTime]
  rw [parts, readTime?, readParts?_colon (by omega) (by simp [padDigits]) (by decide),
    readParts?_colon (by omega) (by simp [padDigits]) (by decide),
    readParts?_last (by omega) micro]
  rfl

theorem readTime?_hourMinute {hour minute : Nat} (inDay : hour < 24) (inHour : minute < 60) :
    readTime? (padDigits 2 hour ++ ':' :: padDigits 2 minute) =
      some (⟨hour, minute, 0, 0⟩, true) := by
  have last : readParts? 2 (some true) (padDigits 2 minute ++ writeFraction 0) =
      some ([minute], 0, true) := readParts?_last (by omega) (by decide)
  rw [writeFraction, if_pos rfl, List.append_nil] at last
  rw [readTime?, readParts?_colon (by omega) (by simp [padDigits]) (by decide), last]
  rfl

/-! ## Offsets -/

def writeDistance (time : TimeOfDay) : List Char :=
  padDigits 2 time.hour ++ ':' :: padDigits 2 time.minute ++
    (if time.second = 0 ∧ time.micro = 0 then []
     else ':' :: padDigits 2 time.second ++ writeFraction time.micro)

theorem readTime?_writeDistance {time : TimeOfDay} (valid : time.IsValid) :
    readTime? (writeDistance time) = some (time, true) := by
  obtain ⟨hour, minute, second, micro⟩ := time
  unfold writeDistance
  split
  · next whole =>
      obtain ⟨rfl, rfl⟩ : second = 0 ∧ micro = 0 := whole
      rw [List.append_nil, readTime?_hourMinute valid.1 valid.2.1]
  · have full := readTime?_writeTime valid
    simpa [writeTime] using full

namespace Offset

def IsSplitSecond (offset : Offset) : Prop :=
  offset ≠ utc ∧ offset.micros.natAbs < microsPerSecond

instance (offset : Offset) : Decidable offset.IsSplitSecond :=
  inferInstanceAs (Decidable (_ ∧ _))

def kept (offset : Offset) : Offset :=
  if offset.micros.natAbs < microsPerSecond then utc else offset

theorem kept_eq_self_iff (offset : Offset) : offset.kept = offset ↔ ¬offset.IsSplitSecond := by
  unfold kept IsSplitSecond
  split
  · next small => simp [small, eq_comm]
  · next large => simp [large]

theorem readOffset?_kept (offset : Offset) :
    readOffset? (decide (offset.micros < 0))
      (writeDistance (TimeOfDay.ofMicros offset.micros.natAbs)) = some offset.kept := by
  have valid := TimeOfDay.isValid_ofMicros offset.bounded
  have small : ((TimeOfDay.ofMicros offset.micros.natAbs).hour = 0 ∧
      (TimeOfDay.ofMicros offset.micros.natAbs).minute = 0 ∧
      (TimeOfDay.ofMicros offset.micros.natAbs).second = 0) ↔
      offset.micros.natAbs < microsPerSecond := by
    unfold TimeOfDay.ofMicros microsPerHour microsPerMinute microsPerSecond
    dsimp only
    omega
  have signed : (if decide (offset.micros < 0) = true then -(offset.micros.natAbs : Int)
      else offset.micros.natAbs) = offset.micros := by
    simp only [decide_eq_true_eq]
    split <;> omega
  rw [readOffset?, readTime?_writeDistance valid]
  simp only [Option.bind_eq_bind, Option.bind_some, Bool.not_true, Bool.false_eq_true, if_false,
    small, TimeOfDay.micros_ofMicros, signed]
  unfold kept
  split
  · rfl
  · rw [ofMicros?, dif_pos offset.bounded]

end Offset

def writeZone : Option Offset → List Char
  | some offset => writeOffset offset
  | none => []

theorem writeZone_some (offset : Offset) :
    writeZone (some offset) = (if offset.micros < 0 then '-' else '+') ::
      writeDistance (TimeOfDay.ofMicros offset.micros.natAbs) := by
  rfl

/-! ## Characters -/

section Characters

variable {holds : Char → Bool} (digits : ∀ value < 10, holds (Nat.digitChar value) = true)

include digits

theorem all_padDigits (width number : Nat) : (padDigits width number).all holds = true :=
  List.all_eq_true.mpr (forall_of_plain (plain_padDigits width number) digits)

theorem all_writeFraction (point : holds '.' = true) (micro : Nat) :
    (writeFraction micro).all holds = true := by
  unfold writeFraction
  split
  · rfl
  · simp only [List.all_cons, point, all_padDigits digits, Bool.and_self]

theorem all_writeCivil (dash : holds '-' = true) (civil : Civil) :
    (writeCivil civil).all holds = true := by
  simp only [writeCivil, List.all_append, List.all_cons, dash, all_padDigits digits,
    Bool.and_self]

variable (colon : holds ':' = true) (point : holds '.' = true)

include colon point

theorem all_writeTime (time : TimeOfDay) : (writeTime time).all holds = true := by
  simp only [writeTime, List.all_append, List.all_cons, colon, all_padDigits digits,
    all_writeFraction digits point, Bool.and_self]

theorem all_writeDistance (time : TimeOfDay) : (writeDistance time).all holds = true := by
  unfold writeDistance
  split <;> simp only [List.all_append, List.all_cons, List.all_nil, colon, all_padDigits digits,
    all_writeFraction digits point, Bool.and_self]

theorem all_writeZone (minus : holds '-' = true) (plus : holds '+' = true)
    (offset : Option Offset) : (writeZone offset).all holds = true := by
  cases offset with
  | none => rfl
  | some offset =>
      rw [writeZone_some, List.all_cons, all_writeDistance digits colon point]
      split <;> simp [minus, plus]

end Characters

/-! ## Times of day with their offsets -/

theorem readZonedTime?_writeZone {time : TimeOfDay} (valid : time.IsValid)
    (offset : Option Offset) :
    readZonedTime? (writeTime time ++ writeZone offset) =
      some (time, offset.map Offset.kept) := by
  have noMark : ∀ character ∈ writeTime time, (!isOffsetMark character) = true :=
    List.all_eq_true.mp (all_writeTime (by decide) (by decide) (by decide) time)
  rw [readZonedTime?, List.takeWhile_append_of_pos noMark, List.dropWhile_append_of_pos noMark]
  cases offset with
  | none =>
      simp [writeZone, readTime?_writeTime valid]
  | some offset =>
      have read := offset.readOffset?_kept
      rw [writeZone_some]
      split
      · next negative =>
          rw [decide_eq_true negative] at read
          simp [isOffsetMark, readTime?_writeTime valid, read]
      · next positive =>
          rw [decide_eq_false positive] at read
          simp [isOffsetMark, readTime?_writeTime valid, read]

/-! ## Dates -/

section Dates

variable {civil : Civil}

theorem daysInMonth_lt (year month : Nat) : daysInMonth year month < 100 := by
  unfold daysInMonth
  repeat' split
  all_goals decide

theorem fits_of_isValid (valid : civil.IsValid) :
    civil.year < 10000 ∧ civil.month < 100 ∧ civil.day < 100 := by
  obtain ⟨_, year, _, month, _, day⟩ := valid
  exact ⟨Nat.lt_succ_of_le year, by omega, day.trans_lt (daysInMonth_lt _ _)⟩

theorem length_writeCivil (valid : civil.IsValid) : (writeCivil civil).length = 10 := by
  obtain ⟨year, month, day⟩ := fits_of_isValid valid
  simp only [writeCivil, List.length_append, List.length_cons,
    length_padDigits (show 0 < 4 by decide) year, length_padDigits (show 0 < 2 by decide) month,
    length_padDigits (show 0 < 2 by decide) day]

theorem exists_month (valid : civil.IsValid) :
    ∃ first rest, padDigits 2 civil.month = first :: rest ∧ first ≠ 'W' := by
  obtain ⟨_, month, _⟩ := fits_of_isValid valid
  have length : (padDigits 2 civil.month).length = 1 + 1 := length_padDigits (by decide) month
  obtain ⟨first, rest, digits⟩ := List.exists_cons_of_length_eq_add_one length
  have plain := plain_padDigits 2 civil.month
  rw [digits, List.all_cons, Bool.and_eq_true] at plain
  exact ⟨first, rest, digits, ne_of_isPlainDigit plain.1 (by decide)⟩

theorem writeCivil_append (civil : Civil) (rest : List Char) :
    writeCivil civil ++ rest = padDigits 4 civil.year ++ '-' ::
      (padDigits 2 civil.month ++ '-' :: (padDigits 2 civil.day ++ rest)) := by
  simp [writeCivil]

theorem dateEnd?_writeCivil (valid : civil.IsValid) (rest : List Char) :
    dateEnd? (writeCivil civil ++ rest) = some 10 := by
  have total : (writeCivil civil ++ rest).length = 10 + rest.length := by
    rw [List.length_append, length_writeCivil valid]
  obtain ⟨first, later, month, noWeek⟩ := exists_month valid
  have afterYear (position : Nat) : (writeCivil civil ++ rest)[4 + position]? =
      ('-' :: first :: later ++ '-' :: (padDigits 2 civil.day ++ rest))[position]? := by
    have year : (padDigits 4 civil.year).length = 4 :=
      length_padDigits (by decide) (fits_of_isValid valid).1
    rw [writeCivil_append, List.getElem?_append_right (by omega), year, month,
      Nat.add_sub_cancel_left]
    rfl
  have dash : (writeCivil civil ++ rest)[4]? = some '-' := afterYear 0
  have digit : (writeCivil civil ++ rest)[5]? = some first := afterYear 1
  -- The two characters after the year tell a month from a week.
  unfold dateEnd?
  dsimp only
  rw [if_neg (by omega), if_pos dash, digit, if_neg (by simpa using noWeek)]

theorem readDate?_writeCivil (valid : civil.IsValid) (stop : Nat) (rest : List Char) :
    readDate? stop (writeCivil civil ++ rest) = Date.ofCivil? civil := by
  obtain ⟨yearFits, monthFits, dayFits⟩ := fits_of_isValid valid
  obtain ⟨first, later, digits, noWeek⟩ := exists_month valid
  have month := takeNumber?_padDigits (show 0 < 2 by decide) monthFits
    ('-' :: (padDigits 2 civil.day ++ rest))
  have day := takeNumber?_padDigits (show 0 < 2 by decide) dayFits rest
  rw [digits, List.cons_append] at month
  rw [writeCivil_append, readDate?, takeNumber?_padDigits (by decide) yearFits, digits]
  simp [noWeek, month, day]

end Dates

/-! ## Moments -/

theorem Moment.isoCharacters_eq (moment : Moment) :
    moment.isoCharacters 'T' =
      writeCivil moment.civil ++ 'T' :: (writeTime moment.time ++ writeZone moment.offset) := by
  rw [Moment.isoCharacters, List.append_assoc, List.cons_append]
  rfl

theorem Moment.all_isoCharacters {holds : Char → Bool}
    (digits : ∀ value < 10, holds (Nat.digitChar value) = true)
    (marks : ['-', 'T', ':', '.', '+'].all holds = true) (moment : Moment) :
    (moment.isoCharacters 'T').all holds = true := by
  simp only [List.all_cons, Bool.and_eq_true] at marks
  obtain ⟨dash, separator, colon, point, plus, _⟩ := marks
  simp only [Moment.isoCharacters_eq, List.all_append, List.all_cons, separator,
    all_writeCivil digits dash, all_writeTime digits colon point,
    all_writeZone digits colon point dash plus, Bool.and_self]

theorem Moment.read?_iso (moment : Moment) :
    Moment.read? moment.iso = some { moment with offset := moment.offset.map Offset.kept } := by
  have valid : moment.civil.IsValid := isValid_civilOf moment.date.inRange
  -- Positions are counted in octets, and each of the characters is one octet long.
  have single : (moment.isoCharacters 'T').all (·.utf8Size == 1) = true :=
    moment.all_isoCharacters (by decide) (by decide)
  have octets : spreadOctets (moment.isoCharacters 'T') = moment.isoCharacters 'T' :=
    spreadOctets_of_single fun character member =>
      eq_of_beq (List.all_eq_true.mp single character member)
  have later (rest : List Char) : (writeCivil moment.civil ++ rest).drop 10 = rest :=
    List.drop_left' (length_writeCivil valid)
  have date : Date.ofCivil? moment.civil = some moment.date := Date.ofCivil?_civil moment.date
  have separator : 'T'.utf8Size - 1 = 0 := by decide
  rw [Moment.read?, Moment.iso, String.toList_ofList, octets, Moment.isoCharacters_eq]
  dsimp only
  rw [dateEnd?_writeCivil valid, Option.bind_eq_bind, Option.bind_some,
    readDate?_writeCivil valid, date, Option.bind_eq_bind, Option.bind_some, later]
  dsimp only
  rw [separator, List.drop_zero, readZonedTime?_writeZone moment.time_isValid]
  exact moment.ofParts?_date_time _

end Calendar

/-! ## Texts with an offset of zero -/

namespace Text

variable {tail : List Char}

theorem trimCharacters_append (noBlank : tail.all (!isBlank ·) = true) (filled : tail ≠ [])
    (characters : List Char) :
    trimCharacters (characters ++ tail) = characters.dropWhile isBlank ++ tail := by
  have solid : ∀ character ∈ tail, isBlank character = false := by simpa using noBlank
  have front : (characters ++ tail).dropWhile isBlank = characters.dropWhile isBlank ++ tail := by
    rw [List.dropWhile_append, dropWhile_isBlank solid]
    split
    · next blank => rw [List.isEmpty_iff.mp blank, List.nil_append]
    · rfl
  have back : tail.reverse.dropWhile isBlank = tail.reverse :=
    dropWhile_isBlank fun character member => solid character (List.mem_reverse.mp member)
  have nonempty : tail.reverse.isEmpty = false := by simpa using filled
  rw [trimCharacters, front, trimEnd, List.reverse_append, List.dropWhile_append, back, nonempty,
    if_neg Bool.false_ne_true, List.reverse_append, List.reverse_reverse, List.reverse_reverse]

end Text

namespace Timestamp

open Calendar (Moment Offset)

theorem withOffset_append (characters : List Char) :
    withOffset (String.ofList (characters ++ ['Z'])) =
      String.ofList (characters ++ "+00:00".toList) := by
  unfold withOffset
  rw [String.toList_ofList, List.getLast?_concat]
  simp

theorem unrecognized_ne_ok {α : Type} (value : Value) (result : α) :
    unrecognized value ≠ .ok result := by
  unfold unrecognized
  cases value.quoted <;> nofun

theorem ofNumberText_eq_ok_iff {value : Value} {text : String} {moment : Moment} :
    ofNumberText value text = .ok moment ↔
      ∃ number, Numeral.readDouble? text = some number ∧ ofNumber number = .ok moment := by
  unfold ofNumberText
  cases Numeral.readDouble? text with
  | none => simp [unrecognized_ne_ok]
  | some number =>
      dsimp only
      split <;> simp_all [unrecognized_ne_ok]

theorem ofText_eq_ok_congr {value other : Value} {content text : String} {moment : Moment}
    (filled : Text.trim content ≠ "") (alsoFilled : Text.trim text ≠ "")
    (same : withOffset (Text.trim content) = withOffset (Text.trim text)) :
    ofText value content = .ok moment ↔ ofText other text = .ok moment := by
  unfold ofText
  dsimp only
  rw [if_neg filled, if_neg alsoFilled, same]
  -- The values themselves are only shown in the faults.
  cases Moment.read? (withOffset (Text.trim text)) with
  | some written => exact Iff.rfl
  | none => rw [ofNumberText_eq_ok_iff, ofNumberText_eq_ok_iff]

theorem ofText_zero_iff_mark {value other : Value} (text : String) (moment : Moment) :
    ofText value (text ++ "+00:00") = .ok moment ↔ ofText other (text ++ "Z") = .ok moment := by
  have spelledOut : Text.trim (text ++ "+00:00") =
      String.ofList (text.toList.dropWhile Text.isBlank ++ "+00:00".toList) := by
    rw [Text.trim, String.toList_append, Text.trimCharacters_append (by decide) (by decide)]
  have marked : Text.trim (text ++ "Z") =
      String.ofList (text.toList.dropWhile Text.isBlank ++ ['Z']) := by
    rw [Text.trim, String.toList_append, Text.trimCharacters_append (by decide) (by decide)]
    rfl
  refine ofText_eq_ok_congr ?_ ?_ ?_
  · rw [spelledOut]
    simp
  · rw [marked]
    simp
  · rw [spelledOut, marked, withOffset_append]
    exact withOffset_of_ne (by simp)

theorem ofText_iso (value : Value) (moment : Moment) :
    ofText value moment.iso =
      .ok { moment with offset := some ((moment.offset.map Offset.kept).getD Offset.utc) } := by
  have solid : (moment.isoCharacters 'T').all (!Text.isBlank ·) = true :=
    moment.all_isoCharacters (by decide) (by decide)
  have unmarked : (moment.isoCharacters 'T').all (· != 'Z') = true :=
    moment.all_isoCharacters (by decide) (by decide)
  have trimmed : Text.trim moment.iso = moment.iso := by
    refine Text.trim_ofList fun character member => ?_
    simpa using List.all_eq_true.mp solid character member
  have whole : withOffset moment.iso = moment.iso := by
    refine withOffset_of_ne fun last => ?_
    simpa using List.all_eq_true.mp unmarked _ (List.mem_of_getLast? last)
  have filled : moment.iso ≠ "" := by
    simp [Moment.iso, Moment.isoCharacters_eq]
  rw [ofText]
  dsimp only
  rw [trimmed, if_neg filled, whole, moment.read?_iso]
  rfl

/-- The text form of a moment is read as the moment itself, naive ones as universal time, if and
only if its offset is none of less than a second; such an offset is lost. A final mark for
universal time says the same as an offset of zero. -/
theorem read_back_iff (moment : Moment) (text : String) :
    ofValue (.moment moment) = .ok moment.assumeUtc ∧
    (ofValue (.text moment.iso) = ofValue (.moment moment) ↔
      ∀ offset ∈ moment.offset, ¬offset.IsSplitSecond) ∧
    (∀ offset ∈ moment.offset, offset.IsSplitSecond →
      ofValue (.text moment.iso) = .ok { moment with offset := some Offset.utc }) ∧
    ∀ told, ofValue (.text (text ++ "+00:00")) = .ok told ↔
      ofValue (.text (text ++ "Z")) = .ok told := by
  refine ⟨rfl, ?_, ?_, fun told => ?_⟩
  · rw [ofValue, ofValue, ofText_iso]
    obtain ⟨wall, inRange, offset⟩ := moment
    cases offset with
    | none => simp [Moment.assumeUtc]
    | some offset => simp [Moment.assumeUtc, Offset.kept_eq_self_iff]
  · rintro offset found ⟨_, small⟩
    rw [ofValue, ofText_iso, Option.mem_def.mp found, Option.map_some, Option.getD_some,
      Offset.kept, if_pos small]
  · rw [ofValue, ofValue]
    exact ofText_zero_iff_mark text told

/-- A moment one microsecond into a second, on a clock whose offset has seconds of its own. -/
theorem offset_with_seconds_is_read_back :
    ∃ moment : Moment, moment.iso = "1999-12-31T23:59:59.000001-03:30:15" ∧
      ofValue (.text moment.iso) = .ok moment ∧
      ofValue (.text ("20240501T10" ++ "Z")) =
        .ok ⟨63850154400000000, by decide, some Offset.utc⟩ := by
  have readBack := read_back_iff
    ⟨63082281599000001, by decide, some ⟨-12615000000, by decide⟩⟩ "20240501T10"
  refine ⟨_, by decide +kernel, readBack.2.1.mpr ?_, (readBack.2.2.2 _).mp (by decide +kernel)⟩
  rintro offset ⟨⟩
  decide

/-- With an offset of a millionth of a second a moment and its text form differ. -/
theorem offset_of_a_microsecond_is_lost :
    ∃ moment other : Moment, moment.iso = "2024-05-01T10:00:00+00:00:00.000001" ∧
      ofValue (.moment moment) = .ok moment ∧ ofValue (.text moment.iso) = .ok other ∧
      other.iso = "2024-05-01T10:00:00+00:00" ∧ other ≠ moment := by
  refine ⟨⟨63850154400000000, by decide, some ⟨1, by decide⟩⟩,
    ⟨63850154400000000, by decide, some Offset.utc⟩, ?_, ?_, ?_, ?_, ?_⟩
  all_goals decide +kernel

end Timestamp

end ThreatWatch
