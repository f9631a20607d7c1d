import ThreatWatch.Number.Binary64
import ThreatWatch.Text.Basic
import ThreatWatch.Text.Digit

/-! Numerals in texts. Digits of every script count as the digits they stand
for, and an underscore may stand between two digits. -/

namespace ThreatWatch.Numeral

def plainDigits (characters : List Char) : List Char :=
  characters.map fun character =>
    match Text.decimalValue? character with
    | some value => Nat.digitChar value
    | none => character

def isPlainDigit (character : Char) : Bool :=
  decide ('0' ≤ character ∧ character ≤ '9')

def digitValue (character : Char) : Nat :=
  character.toNat - 48

def ofDigits (digits : List Char) : Nat :=
  digits.foldl (fun total digit => total * 10 + digitValue digit) 0

/-- Drops the underscores that stand between two digits; any other underscore
makes the numeral unreadable. -/
def withoutSeparators? (afterDigit : Bool) : List Char → Option (List Char)
  | [] => some []
  | '_' :: next :: rest =>
      if afterDigit && isPlainDigit next then
        (withoutSeparators? true rest).map (next :: ·)
      else none
  | '_' :: [] => none
  | character :: rest =>
      (withoutSeparators? (isPlainDigit character) rest).map (character :: ·)

def splitSign : List Char → Bool × List Char
  | '-' :: rest => (true, rest)
  | '+' :: rest => (false, rest)
  | characters => (false, characters)

def splitDigits (characters : List Char) : List Char × List Char :=
  (characters.takeWhile isPlainDigit, characters.dropWhile isPlainDigit)

def exponent? : List Char → Option Int
  | [] => some 0
  | mark :: rest =>
      if mark = 'e' ∨ mark = 'E' then
        let (negative, digits) := splitSign rest
        if digits.isEmpty || !digits.all isPlainDigit then none
        else some (if negative then -(ofDigits digits : Int) else ofDigits digits)
      else none

def asciiLower (character : Char) : Char :=
  if 'A' ≤ character ∧ character ≤ 'Z' then Char.ofNat (character.toNat + 32) else character

def magnitude? (negative : Bool) (characters : List Char) : Option Binary64 :=
  let name := String.ofList (characters.map asciiLower)
  if name = "inf" ∨ name = "infinity" then some (.infinite negative)
  else if name = "nan" then some .undefined
  else
    let (whole, rest) := splitDigits characters
    let (fraction, rest) :=
      match rest with
      | '.' :: rest => splitDigits rest
      | rest => ([], rest)
    if whole.isEmpty && fraction.isEmpty then none
    else do
      let exponent ← exponent? rest
      return Binary64.ofDecimal negative (ofDigits (whole ++ fraction))
        (exponent - fraction.length)

def readDouble? (text : String) : Option Binary64 := do
  let characters ← withoutSeparators? false (plainDigits text.toList)
  let (negative, rest) := splitSign characters
  magnitude? negative rest

def digitLimit : Nat := 4300

/-- Blanks of plain characters. The controls that act as separators are none of them. -/
def isPlainBlank (character : Char) : Bool :=
  character = ' ' || decide ('\t' ≤ character ∧ character ≤ '\r')

/-- A text without the blanks around a numeral: all kinds of them where the text has characters that
are not plain, and plain ones otherwise. -/
def trim (text : String) : String :=
  if text.toList.all fun character => character.toNat < 128 then
    let rest := text.toList.dropWhile isPlainBlank
    String.ofList (rest.reverse.dropWhile isPlainBlank).reverse
  else Text.trim text

inductive ReadFault where
  | malformed
  | tooLong
  deriving DecidableEq, Repr

def readInt (text : String) : Except ReadFault Int :=
  match withoutSeparators? false (plainDigits text.toList) with
  | none => .error .malformed
  | some characters =>
      let (negative, digits) := splitSign characters
      if digits.isEmpty || !digits.all isPlainDigit then .error .malformed
      else if digits.length > digitLimit then .error .tooLong
      else .ok (Binary64.withSign negative (ofDigits digits))

def writeInt? (number : Int) : Option String :=
  if number.natAbs < Nat.pow 10 digitLimit then some (toString number) else none

/-! ## Plain numerals -/

theorem isPlainDigit_digitChar {value : Nat} (small : value < 10) :
    isPlainDigit (Nat.digitChar value) = true := by
  revert value
  decide

theorem all_plainDigits {characters : List Char} (decimal : characters.all Text.isDecimal = true) :
    (plainDigits characters).all isPlainDigit = true := by
  rw [List.all_eq_true] at decimal ⊢
  intro digit member
  rcases List.mem_map.mp member with ⟨character, characterMember, rfl⟩
  rcases Option.isSome_iff_exists.mp (decimal character characterMember) with ⟨value, found⟩
  rw [found]
  exact isPlainDigit_digitChar (Text.digitValueFrom_lt found)

theorem withoutSeparators?_of_plain {digits : List Char} (afterDigit : Bool)
    (plain : digits.all isPlainDigit = true) :
    withoutSeparators? afterDigit digits = some digits := by
  induction digits generalizing afterDigit with
  | nil => rfl
  | cons digit rest induction =>
      have separated : digit ≠ '_' := by
        rintro rfl
        exact absurd plain (by simp [isPlainDigit])
      rcases Bool.and_eq_true_iff.mp (List.all_cons ▸ plain) with ⟨_, others⟩
      unfold withoutSeparators?
      split <;> simp_all

theorem splitSign_of_plain {digits : List Char} (plain : digits.all isPlainDigit = true) :
    splitSign digits = (false, digits) := by
  unfold splitSign
  split
  · exact absurd plain (by simp [isPlainDigit])
  · exact absurd plain (by simp [isPlainDigit])
  · rfl

theorem readInt_of_decimal {text : String} (nonempty : text.toList ≠ [])
    (decimal : text.toList.all Text.isDecimal = true) :
    readInt text = if digitLimit < text.toList.length then .error .tooLong
      else .ok (ofDigits (plainDigits text.toList)) := by
  have plain := all_plainDigits decimal
  have filled : (plainDigits text.toList).isEmpty = false := by
    simpa [plainDigits] using nonempty
  simp only [readInt, withoutSeparators?_of_plain false plain, splitSign_of_plain plain, filled,
    plain, Binary64.withSign]
  simp [plainDigits]

example : readDouble? "1_0.5e1" = Binary64.ofInt? 105 := by decide +kernel
example : readDouble? "1__0" = none := by decide +kernel

end ThreatWatch.Numeral
