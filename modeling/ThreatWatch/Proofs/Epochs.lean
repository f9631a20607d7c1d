import ThreatWatch.Event.Timestamp
import ThreatWatch.Proofs.Comparing
import ThreatWatch.Proofs.Numerals
import ThreatWatch.Proofs.Texts

/-! Epoch numbers and the texts that write them. A text is tried as a date before it is
tried as a number, and any character may separate a date from a time of day, so that a
row of digits can be both. Where its digits make no date, a text tells the same moment as
its number. -/

namespace ThreatWatch

/-! ## Dates in digits -/

namespace Calendar

open Numeral

variable {digits : List Char}

theorem takeNumber?_append (plain : digits.all isPlainDigit = true) (total : Nat)
    (rest : List Char) :
    takeNumber? digits.length total (digits ++ rest) =
      some (digits.foldl (fun total digit => total * 10 + digitValue digit) total, rest) := by
  induction digits generalizing total with
  | nil => rfl
  | cons digit others induction =>
      rcases Bool.and_eq_true_iff.mp (List.all_cons ▸ plain) with ⟨here, later⟩
      rw [List.length_cons, List.cons_append, takeNumber?, if_pos here, induction later,
        List.foldl_cons]

theorem takeNumber?_of_plain (plain : digits.all isPlainDigit = true) {count : Nat}
    (enough : count ≤ digits.length) (total : Nat) :
    takeNumber? count total digits =
      some ((digits.take count).foldl (fun total digit => total * 10 + digitValue digit) total,
        digits.drop count) := by
  have taken : (digits.take count).all isPlainDigit = true :=
    List.all_eq_true.mpr fun digit member =>
      List.all_eq_true.mp plain digit (List.mem_of_mem_take member)
  have read := takeNumber?_append taken total (digits.drop count)
  rwa [List.length_take_of_le enough, List.take_append_drop] at read

theorem takeNumber?_of_short {count : Nat} (short : digits.length < count) (total : Nat) :
    takeNumber? count total digits = none := by
  induction count generalizing total digits with
  | zero => simp at short
  | succ count induction =>
      cases digits with
      | nil => rfl
      | cons digit rest =>
          rw [takeNumber?]
          split
          · exact induction (Nat.lt_of_succ_lt_succ short) _
          · rfl

def numberAt (digits : List Char) (position count : Nat) : Nat :=
  ofDigits ((digits.drop position).take count)

def fractionMicros (digits : List Char) : Nat :=
  ofDigits (digits.take 6) * Nat.pow 10 (6 - min 6 digits.length)

/-- The time of day in a row of digits: pairs for the hour, the minute and the second
and, after all three of them, a fraction of at least two digits. -/
def compactTime? (digits : List Char) : Option TimeOfDay :=
  let hour := numberAt digits 0 2
  let minute := numberAt digits 2 2
  let second := numberAt digits 4 2
  match digits.length with
  | 0 | 1 | 3 | 5 | 7 => none
  | 2 => some ⟨hour, 0, 0, 0⟩
  | 4 => some ⟨hour, minute, 0, 0⟩
  | 6 => some ⟨hour, minute, second, 0⟩
  | _ => some ⟨hour, minute, second, fractionMicros (digits.drop 6)⟩

theorem readFraction?_of_plain (plain : digits.all isPlainDigit = true) (filled : digits ≠ []) :
    readFraction? digits = some (fractionMicros digits, true) := by
  have positive : min 6 digits.length ≠ 0 := by
    have length := List.length_pos_iff.mpr filled
    omega
  have rest := List.dropWhile_eq_nil_iff.mpr
    (List.all_eq_true.mp (plain_drop plain (min 6 digits.length)))
  have taken : digits.take (min 6 digits.length) = digits.take 6 :=
    List.take_eq_take_iff.mpr (by omega)
  rw [readFraction?]
  dsimp only
  rw [if_neg positive, takeNumber?_of_plain plain (Nat.min_le_right _ _), Option.bind_eq_bind,
    Option.bind_some]
  dsimp only
  rw [rest, taken]
  rfl

theorem readParts?_of_plain (plain : digits.all isPlainDigit = true)
    (long : 4 ≤ digits.length) {colons : Option Bool} (noColon : colons ≠ some true)
    (remaining : Nat) :
    readParts? (remaining + 1) colons digits =
      (readParts? remaining (some false) (digits.drop 2)).map fun parts =>
        (numberAt digits 0 2 :: parts.1, parts.2) := by
  match digits, long with
  | first :: second :: mark :: next :: rest, _ =>
      have each := List.all_eq_true.mp plain
      have noMark : ∀ other, isPlainDigit other = false → mark ≠ other := fun other =>
        ne_of_isPlainDigit (each mark (by simp))
      have noColonAfter : colons.getD (mark == ':') = false := by
        rcases colons with _ | _ | _ <;> simp_all [noMark ':' (by decide)]
      rw [readParts?, takeNumber?_of_plain plain (by simp)]
      simp [noColonAfter, noMark '.' (by decide), noMark ',' (by decide), Option.map_eq_bind,
        numberAt, ofDigits]

theorem readParts?_of_pair (plain : digits.all isPlainDigit = true) (pair : digits.length = 2)
    (colons : Option Bool) (remaining : Nat) :
    readParts? (remaining + 1) colons digits = some ([numberAt digits 0 2], 0, true) := by
  rw [readParts?, takeNumber?_of_plain plain (Nat.le_of_eq pair.symm), Option.bind_eq_bind,
    Option.bind_some, List.drop_eq_nil_of_le (Nat.le_of_eq pair)]
  rfl

theorem readParts?_of_three (plain : digits.all isPlainDigit = true)
    (three : digits.length = 3) (colons : Option Bool) (remaining : Nat) :
    ∃ numbers, readParts? (remaining + 1) colons digits = some (numbers, 0, false) := by
  match digits, three with
  | [first, second, mark], _ =>
      rw [readParts?, takeNumber?_of_plain plain (by simp)]
      exact ⟨_, rfl⟩

theorem readParts?_of_short (short : digits.length < 2) (colons : Option Bool)
    (remaining : Nat) : readParts? (remaining + 1) colons digits = none := by
  rw [readParts?, takeNumber?_of_short short]
  rfl

theorem numberAt_drop (skipped position count : Nat) :
    numberAt (digits.drop skipped) position count = numberAt digits (skipped + position) count := by
  rw [numberAt, numberAt, List.drop_drop]

theorem readTime?_of_plain (plain : digits.all isPlainDigit = true) :
    ((readTime? digits).bind fun read => if read.2 then some read.1 else none) =
      compactTime? digits := by
  have plainLater := plain_drop plain 2
  have plainLast := plain_drop plain 4
  have plainRest := plain_drop plain 6
  have hour (long : 4 ≤ digits.length) :=
    readParts?_of_plain plain long (show none ≠ some true by decide) 2
  have minute (long : 6 ≤ digits.length) :=
    readParts?_of_plain plainLater (show 4 ≤ (digits.drop 2).length by simp; omega)
      (show some false ≠ some true by decide) 1
  have second (long : 8 ≤ digits.length) :=
    readParts?_of_plain plainLast (show 4 ≤ (digits.drop 4).length by simp; omega)
      (show some false ≠ some true by decide) 0
  unfold readTime? compactTime?
  match length : digits.length with
  | 0 | 1 => simp [readParts?_of_short (show digits.length < 2 by omega)]
  | 2 => simp [readParts?_of_pair plain length]
  | 3 =>
      rcases readParts?_of_three plain length none 2 with ⟨numbers, read⟩
      simp [read]
  | 4 =>
      have pair : (digits.drop 2).length = 2 := by simp [length]
      simp [hour (by omega), readParts?_of_pair plainLater pair, numberAt_drop]
  | 5 =>
      rcases readParts?_of_three plainLater (by simp [length]) (some false) 1 with ⟨numbers, read⟩
      simp [hour (by omega), read]
  | 6 =>
      have pair : (digits.drop 4).length = 2 := by simp [length]
      simp [hour (by omega), minute (by omega), readParts?_of_pair plainLast pair, numberAt_drop]
  | 7 =>
      rcases readParts?_of_three plainLast (by simp [length]) (some false) 0 with ⟨numbers, read⟩
      simp [hour (by omega), minute (by omega), read]
  | more + 8 =>
      have filled : digits.drop 6 ≠ [] := by
        rw [ne_eq, List.drop_eq_nil_iff]
        omega
      have fraction : readParts? 0 (some false) (digits.drop 6) =
          some ([], fractionMicros (digits.drop 6), true) := by
        rw [readParts?, readFraction?_of_plain (plain_drop plain 6) filled]
        rfl
      simp [hour (by omega), minute (by omega), second (by omega), fraction, numberAt_drop]

/-- The moment in a row of digits: eight for the date, one for the separator and the rest
for the time of day. -/
def compactMoment? (digits : List Char) : Option Moment := do
  let date ← Date.ofCivil? ⟨numberAt digits 0 4, numberAt digits 4 2, numberAt digits 6 2⟩
  let time ← compactTime? (digits.drop 9)
  Moment.ofParts? date time none

theorem spreadOctets_of_single {characters : List Char}
    (single : ∀ character ∈ characters, character.utf8Size = 1) :
    spreadOctets characters = characters := by
  have once : ∀ character ∈ characters,
      List.replicate character.utf8Size character = [character] := fun character member => by
    rw [single character member, List.replicate_one]
  rw [spreadOctets, List.flatMap_congr once]
  simp

theorem spreadOctets_of_plain (plain : digits.all isPlainDigit = true) :
    spreadOctets digits = digits :=
  spreadOctets_of_single (forall_of_plain plain (by decide))

theorem dateEnd?_of_plain (plain : digits.all isPlainDigit = true) (long : 8 ≤ digits.length) :
    dateEnd? digits = some 8 := by
  have each := List.all_eq_true.mp plain
  have noMark (other : Char) (noDigit : isPlainDigit other = false) : digits[4]? ≠ some other :=
    fun found => ne_of_isPlainDigit (each _ (List.mem_of_getElem? found)) noDigit rfl
  unfold dateEnd?
  dsimp only
  rw [if_neg (by omega), if_neg (noMark '-' (by decide)), if_neg (noMark 'W' (by decide))]

theorem takeNumber?_drop (plain : digits.all isPlainDigit = true) {position count : Nat}
    (enough : position + count ≤ digits.length) :
    takeNumber? count 0 (digits.drop position) =
      some (numberAt digits position count, digits.drop (position + count)) := by
  have room : count ≤ (digits.drop position).length := by
    rw [List.length_drop]
    omega
  rw [takeNumber?_of_plain (plain_drop plain position) room, List.drop_drop]
  rfl

theorem readDate?_of_plain (plain : digits.all isPlainDigit = true) (long : 8 ≤ digits.length)
    (stop : Nat) :
    readDate? stop digits =
      Date.ofCivil? ⟨numberAt digits 0 4, numberAt digits 4 2, numberAt digits 6 2⟩ := by
  have year : takeNumber? 4 0 digits = some (numberAt digits 0 4, digits.drop 4) :=
    takeNumber?_drop plain (show 0 + 4 ≤ digits.length by omega)
  have month := takeNumber?_drop plain (show 4 + 2 ≤ digits.length by omega)
  have day := takeNumber?_drop plain (show 6 + 2 ≤ digits.length by omega)
  have filled : digits.drop 4 ≠ [] := by
    rw [ne_eq, List.drop_eq_nil_iff]
    omega
  rcases List.exists_cons_of_ne_nil filled with ⟨mark, more, rest⟩
  have isDigit : isPlainDigit mark = true :=
    List.all_eq_true.mp (plain_drop plain 4) mark (by simp [rest])
  -- The dashed forms and the weeks are told by this character.
  have noDash := ne_of_isPlainDigit isDigit (show isPlainDigit '-' = false by decide)
  have noWeek := ne_of_isPlainDigit isDigit (show isPlainDigit 'W' = false by decide)
  rw [rest] at year month
  rw [readDate?, year]
  simp [noDash, noWeek, month, day]

theorem readZonedTime?_of_plain (plain : digits.all isPlainDigit = true) :
    readZonedTime? digits = (compactTime? digits).map fun time => (time, none) := by
  have noMark : ∀ digit ∈ digits, (!isOffsetMark digit) = true := forall_of_plain plain (by decide)
  rw [readZonedTime?, List.takeWhile_eq_self_iff.mpr noMark, List.dropWhile_eq_nil_iff.mpr noMark,
    ← readTime?_of_plain plain]
  rcases readTime? digits with _ | ⟨time, _ | _⟩ <;> rfl

theorem Moment.read?_of_plain (plain : digits.all isPlainDigit = true)
    (long : 10 ≤ digits.length) :
    Moment.read? (String.ofList digits) = compactMoment? digits := by
  rw [Moment.read?, String.toList_ofList, spreadOctets_of_plain plain]
  dsimp only
  rw [dateEnd?_of_plain plain (by omega), Option.bind_eq_bind, Option.bind_some,
    readDate?_of_plain plain (by omega), compactMoment?]
  refine congrArg _ (funext fun date => ?_)
  have rest : digits.drop 8 = digits[8] :: digits.drop 9 := List.drop_eq_getElem_cons (by omega)
  have single : ∀ digit ∈ digits, digit.utf8Size = 1 := forall_of_plain plain (by decide)
  rw [rest]
  dsimp only
  rw [single _ (List.getElem_mem _), Nat.sub_self, List.drop_zero,
    readZonedTime?_of_plain (plain_drop plain 9)]
  cases compactTime? (digits.drop 9) <;> rfl

theorem compactTime?_of_odd (odd : digits.length % 2 = 1) (short : digits.length < 9) :
    compactTime? digits = none := by
  unfold compactTime?
  match length : digits.length with
  | 1 | 3 | 5 | 7 => rfl
  | 0 | 2 | 4 | 6 | 8 | _ + 9 => omega

theorem compactMoment?_of_even (long : 9 < digits.length) (short : digits.length < 17)
    (even : digits.length % 2 = 0) : compactMoment? digits = none := by
  have length : (digits.drop 9).length = digits.length - 9 := List.length_drop
  rw [compactMoment?, compactTime?_of_odd (by omega) (by omega)]
  cases Date.ofCivil? ⟨numberAt digits 0 4, numberAt digits 4 2, numberAt digits 6 2⟩ <;> rfl

end Calendar

/-! ## Epoch numbers as texts -/

namespace Timestamp

open Calendar Numeral

variable {digits : List Char}

theorem withOffset_of_ne {characters : List Char} (noMark : characters.getLast? ≠ some 'Z') :
    withOffset (String.ofList characters) = String.ofList characters := by
  unfold withOffset
  split
  · next last =>
      rw [String.toList_ofList] at last
      exact absurd last noMark
  · rfl

theorem ofText_of_plain (plain : digits.all isPlainDigit = true) (long : 10 ≤ digits.length)
    (value : Value) :
    ofText value (String.ofList digits) =
      match compactMoment? digits with
      | some written => .ok written.assumeUtc
      | none => ofNumberText value (String.ofList digits) := by
  have solid : ∀ digit ∈ digits, Text.isBlank digit = false := forall_of_plain plain (by decide)
  have nonempty : String.ofList digits ≠ "" :=
    fun empty => by simp_all
  have noOffset : withOffset (String.ofList digits) = String.ofList digits := by
    refine withOffset_of_ne fun last => ?_
    have isDigit := List.all_eq_true.mp plain _ (List.mem_of_getLast? last)
    exact absurd isDigit (by decide)
  have read := Moment.read?_of_plain plain long
  unfold ofText
  dsimp only
  rw [Text.trim_ofList solid, if_neg nonempty, noOffset]
  cases found : compactMoment? digits with
  | none => rw [read, found]
  | some written => rw [read, found]

theorem length_toDigits {number : Nat} (large : 1000000000 ≤ number) :
    10 ≤ (Nat.toDigits 10 number).length := by
  by_contra short
  have bound := (@Nat.length_toDigits_le_iff 10 number 9 (by decide) (by decide)).mp (by omega)
  omega

theorem shown_of_ofInt? {number : Nat} {double : Binary64}
    (found : Binary64.ofInt? number = some double) :
    (Value.int number).shown = .ok (String.ofList (Nat.toDigits 10 number)) := by
  have near : (Binary64.ofInt? number).isSome = true := by rw [found, Option.isSome_some]
  have small := ((Binary64.isSome_ofInt?_iff number).mp near).trans_le Binary64.integerLimit_le
  rw [Value.shown, Value.quoted]
  · unfold Value.writtenInt writeInt?
    rw [if_pos (small.trans_le Value.unitsLimit_le)]
    exact congrArg Except.ok Nat.repr_eq_ofList_toDigits
  all_goals simp

theorem ofInteger_eq_ok {number : Int} {moment : Moment} (told : ofInteger number = .ok moment) :
    ∃ double, Binary64.ofInt? number = some double ∧ ofNumber double = .ok moment := by
  rw [ofInteger] at told
  cases found : Binary64.ofInt? number with
  | none =>
      rw [found, Option.elim_none] at told
      cases told
  | some double =>
      rw [found, Option.elim_some] at told
      exact ⟨double, rfl, told⟩

/-- The text that writes an epoch number of ten digits or more tells the same moment,
unless its first eight digits are a date and those from the tenth on a time of day. -/
theorem ofText_of_epoch {number : Int} {moment : Moment} (large : 1000000000 ≤ number)
    (told : ofValue (.int number) = .ok moment) :
    ∃ text, (Value.int number).shown = .ok text ∧
      (compactMoment? text.toList = none → ofValue (.text text) = .ok moment) ∧
      (∀ written, compactMoment? text.toList = some written →
        ofValue (.text text) = .ok written.assumeUtc) ∧
      (text.length % 2 = 0 → text.length < 17 → ofValue (.text text) = .ok moment) := by
  rcases Int.eq_ofNat_of_zero_le (show 0 ≤ number by omega) with ⟨natural, rfl⟩
  rw [ofValue] at told
  rcases ofInteger_eq_ok told with ⟨double, found, read⟩
  have plain := plain_toDigits natural
  have long := length_toDigits (show 1000000000 ≤ natural by omega)
  have number (value : Value) :
      ofNumberText value (String.ofList (Nat.toDigits 10 natural)) = .ok moment := by
    have asDecimal : Binary64.ofDecimal false natural 0 = double :=
      Binary64.ofDecimal_of_ofInt? found
    have decimal := readDouble?_of_plain false plain Nat.toDigits_ne_nil
    rw [ofDigits_toDigits, asDecimal] at decimal
    have numeral : readDouble? (String.ofList (Nat.toDigits 10 natural)) = some double := decimal
    rw [ofNumberText, numeral]
    dsimp only
    rw [read]
  have asNumber (noDate : compactMoment? (Nat.toDigits 10 natural) = none) :
      ofValue (.text (String.ofList (Nat.toDigits 10 natural))) = .ok moment := by
    rw [ofValue, ofText_of_plain plain long, noDate]
    exact number _
  refine ⟨_, shown_of_ofInt? found, ?_, ?_, ?_⟩
  · rw [String.toList_ofList]
    exact asNumber
  · intro written date
    rw [String.toList_ofList] at date
    rw [ofValue, ofText_of_plain plain long, date]
  · intro even short
    rw [String.length_ofList] at even short
    exact asNumber (compactMoment?_of_even long short even)

theorem milliseconds_are_told_by_their_text :
    ∃ moment, ofValue (.int 1698422400000) = .ok moment ∧
      moment.iso = "2023-10-27T16:00:00+00:00" ∧
      ofValue (.text "1698422400000") = .ok moment := by
  have told : ofValue (.int 1698422400000) =
      .ok ⟨63834019200000000, by decide, some Offset.utc⟩ := by decide +kernel
  rcases ofText_of_epoch (by decide) told with ⟨text, shown, agrees, _⟩
  have same : (Value.int 1698422400000).shown = .ok "1698422400000" := by decide +kernel
  cases same.symm.trans shown
  exact ⟨_, told, by decide +kernel, agrees (by decide +kernel)⟩

/-- Milliseconds of the year 2023 whose text is taken for a day of the year 1700. -/
theorem milliseconds_are_taken_for_a_date :
    ∃ moment other, ofValue (.int 1700010100000) = .ok moment ∧
      moment.iso = "2023-11-15T01:01:40+00:00" ∧
      (Value.int 1700010100000).shown = .ok "1700010100000" ∧
      ofValue (.text "1700010100000") = .ok other ∧
      other.iso = "1700-01-01T00:00:00+00:00" ∧ other.instant ≠ moment.instant := by
  refine ⟨⟨63835606900000000, by decide, some Offset.utc⟩,
    ⟨53615260800000000, by decide, some Offset.utc⟩, ?_, ?_, ?_, ?_, ?_, ?_⟩
  all_goals decide +kernel

end Timestamp

end ThreatWatch
