import Mathlib.Data.List.Basic
import Mathlib.Data.List.Induction
import Mathlib.Data.List.TakeWhile
import ThreatWatch.Number.Numeral

/-! Rows of plain digits. Neither the digits of other scripts nor separators, signs and
names play a part in how they are read, so that a numeral of plain digits alone is the
number that they write. -/

namespace ThreatWatch.Numeral

variable {digits : List Char}

theorem isPlainDigit_of_isDigit {digit : Char} (isDigit : digit.isDigit = true) :
    isPlainDigit digit = true := by
  rw [Char.isDigit, Bool.and_eq_true, decide_eq_true_eq, decide_eq_true_eq] at isDigit
  exact decide_eq_true isDigit

theorem exists_digitChar {digit : Char} (plain : isPlainDigit digit = true) :
    ∃ value < 10, Nat.digitChar value = digit := by
  rw [isPlainDigit, decide_eq_true_eq] at plain
  have least : 48 ≤ digit.toNat := plain.1
  have most : digit.toNat ≤ 57 := plain.2
  have small : digit.toNat - 48 < 10 := by omega
  refine ⟨digit.toNat - 48, small, Char.toNat_inj.mp ?_⟩
  rw [Nat.toNat_digitChar_of_lt_ten small]
  omega

theorem ne_of_isPlainDigit {digit other : Char} (plain : isPlainDigit digit = true)
    (noDigit : isPlainDigit other = false) : digit ≠ other := by
  rintro rfl
  rw [plain] at noDigit
  cases noDigit

theorem forall_of_plain {property : Char → Prop} (plain : digits.all isPlainDigit = true)
    (holds : ∀ value < 10, property (Nat.digitChar value)) : ∀ digit ∈ digits, property digit := by
  intro digit member
  rcases exists_digitChar (List.all_eq_true.mp plain digit member) with ⟨value, small, rfl⟩
  exact holds value small

theorem plain_drop (plain : digits.all isPlainDigit = true) (count : Nat) :
    (digits.drop count).all isPlainDigit = true :=
  List.all_eq_true.mpr fun digit member =>
    List.all_eq_true.mp plain digit (List.mem_of_mem_drop member)

theorem plainDigits_of_plain (plain : digits.all isPlainDigit = true) :
    plainDigits digits = digits := by
  refine (List.map_congr_left ?_).trans (List.map_id _)
  exact forall_of_plain plain (by decide)

theorem map_asciiLower_of_plain (plain : digits.all isPlainDigit = true) :
    digits.map asciiLower = digits := by
  refine (List.map_congr_left ?_).trans (List.map_id _)
  exact forall_of_plain plain (by decide)

theorem splitDigits_of_plain (plain : digits.all isPlainDigit = true) :
    splitDigits digits = (digits, []) := by
  have each := List.all_eq_true.mp plain
  exact Prod.ext (List.takeWhile_eq_self_iff.mpr each) (List.dropWhile_eq_nil_iff.mpr each)

theorem plain_toDigits (number : Nat) : (Nat.toDigits 10 number).all isPlainDigit = true :=
  List.all_eq_true.mpr fun _ member =>
    isPlainDigit_of_isDigit (Nat.isDigit_of_mem_toDigits (by decide) (by decide) member)

theorem ofDigits_toDigits (number : Nat) : ofDigits (Nat.toDigits 10 number) = number := by
  have read := @Nat.ofDigitChars_ten_toDigits number
  rw [Nat.ofDigitChars_eq_foldl] at read
  refine Eq.trans (List.foldl_ext _ _ _ fun total digit _ => ?_) read
  rw [Nat.mul_comm]
  rfl

theorem toList_toString (number : Int) :
    (toString number).toList =
      (if number < 0 then ['-'] else []) ++ Nat.toDigits 10 number.natAbs := by
  cases number with
  | ofNat number => exact String.toList_ofList
  | negSucc number =>
      have written : (toString (number + 1)).toList = Nat.toDigits 10 (number + 1) :=
        String.toList_ofList
      change ("-" ++ toString (number + 1)).toList = _
      rw [String.toList_append, written, if_pos (Int.negSucc_lt_zero number)]
      rfl

theorem toDigits_ofDigits {first : Char} {rest : List Char}
    (plain : (first :: rest).all isPlainDigit = true) (leading : first ≠ '0') :
    Nat.toDigits 10 (ofDigits (first :: rest)) = first :: rest := by
  induction rest using List.reverseRecOn with
  | nil =>
      rcases exists_digitChar (List.all_eq_true.mp plain first (by simp)) with ⟨value, small, rfl⟩
      have written : ofDigits [Nat.digitChar value] = value := by
        simp [ofDigits, digitValue, Nat.toNat_digitChar_sub_48_of_lt_ten small]
      rw [written, Nat.toDigits_of_lt_base small]
  | append_singleton before last induction =>
      rw [← List.cons_append, List.all_append, Bool.and_eq_true] at plain
      have digits := induction plain.1
      rcases exists_digitChar (by simpa using plain.2) with ⟨value, small, rfl⟩
      have positive : 0 < ofDigits (first :: before) := by
        refine Nat.pos_of_ne_zero fun zero => leading ?_
        rw [zero] at digits
        exact (List.cons.inj digits).1.symm
      have written : ofDigits (first :: (before ++ [Nat.digitChar value])) =
          10 * ofDigits (first :: before) + value := by
        rw [← List.cons_append, ofDigits, List.foldl_append, ← ofDigits]
        simp [digitValue, Nat.toNat_digitChar_sub_48_of_lt_ten small, Nat.mul_comm]
      rw [written, ← Nat.toDigits_append_toDigits (by decide) positive small, digits,
        Nat.toDigits_of_lt_base small, List.cons_append]

theorem ofList_ne_of_plain (plain : digits.all isPlainDigit = true) {name : String}
    (letters : name.toList.all isPlainDigit = false) : String.ofList digits ≠ name := by
  rintro rfl
  rw [String.toList_ofList, plain] at letters
  cases letters

theorem plainDigits_sign (negative : Bool) (plain : digits.all isPlainDigit = true) :
    plainDigits ((if negative then ['-'] else []) ++ digits) =
      (if negative then ['-'] else []) ++ digits := by
  cases negative with
  | false => exact plainDigits_of_plain plain
  | true => exact congrArg ('-' :: ·) (plainDigits_of_plain plain)

theorem withoutSeparators?_sign (negative : Bool) (plain : digits.all isPlainDigit = true) :
    withoutSeparators? false ((if negative then ['-'] else []) ++ digits) =
      some ((if negative then ['-'] else []) ++ digits) := by
  cases negative with
  | false => exact withoutSeparators?_of_plain false plain
  | true =>
      rw [if_pos rfl, List.singleton_append, withoutSeparators?,
        withoutSeparators?_of_plain _ plain, Option.map_some]
      all_goals simp

theorem splitSign_sign (negative : Bool) (plain : digits.all isPlainDigit = true) :
    splitSign ((if negative then ['-'] else []) ++ digits) = (negative, digits) := by
  cases negative with
  | false => exact splitSign_of_plain plain
  | true => rfl

/-- A row of digits is read as the double nearest to the integer that it writes, with the sign
that stands before it. -/
theorem readDouble?_of_plain (negative : Bool) (plain : digits.all isPlainDigit = true)
    (filled : digits ≠ []) :
    readDouble? (String.ofList ((if negative then ['-'] else []) ++ digits)) =
      some (Binary64.ofDecimal negative (ofDigits digits) 0) := by
  have infinity := ofList_ne_of_plain plain (show "inf".toList.all isPlainDigit = false by decide)
  have infinityInFull := ofList_ne_of_plain plain
    (show "infinity".toList.all isPlainDigit = false by decide)
  have undefinedName := ofList_ne_of_plain plain
    (show "nan".toList.all isPlainDigit = false by decide)
  have nonempty : digits.isEmpty = false := by simpa using filled
  rw [readDouble?, String.toList_ofList, plainDigits_sign negative plain,
    withoutSeparators?_sign negative plain, Option.bind_eq_bind, Option.bind_some,
    splitSign_sign negative plain]
  simp only [magnitude?, map_asciiLower_of_plain plain, splitDigits_of_plain plain, infinity,
    infinityInFull, undefinedName, nonempty, exponent?]
  simp

/-! ## Integers -/

theorem digitValue_lt {digit : Char} (plain : isPlainDigit digit = true) :
    digitValue digit < 10 := by
  rcases exists_digitChar plain with ⟨value, small, rfl⟩
  rw [digitValue, Nat.toNat_digitChar_sub_48_of_lt_ten small]
  exact small

theorem ofDigits_lt (plain : digits.all isPlainDigit = true) :
    ofDigits digits < Nat.pow 10 digits.length := by
  have bounded : ∀ (rest : List Char) (total limit : Nat), rest.all isPlainDigit = true →
      total < limit → rest.foldl (fun total digit => total * 10 + digitValue digit) total <
        limit * 10 ^ rest.length := by
    intro rest
    induction rest with
    | nil =>
        intro total limit _ below
        simpa using below
    | cons digit rest induction =>
        intro total limit plain below
        rcases Bool.and_eq_true_iff.mp (List.all_cons ▸ plain) with ⟨here, others⟩
        have next := induction (total * 10 + digitValue digit) (limit * 10) others (by
          have small := digitValue_lt here
          omega)
        rw [List.foldl_cons, List.length_cons, Nat.pow_succ']
        rwa [Nat.mul_assoc] at next
  simpa [ofDigits] using bounded digits 0 1 plain (by decide)

theorem readInt_of_plain (negative : Bool) (plain : digits.all isPlainDigit = true)
    (filled : digits ≠ []) :
    readInt (String.ofList ((if negative then ['-'] else []) ++ digits)) =
      if digitLimit < digits.length then .error .tooLong
      else .ok (Binary64.withSign negative (ofDigits digits)) := by
  have nonempty : digits.isEmpty = false := by simpa using filled
  simp only [readInt, String.toList_ofList, plainDigits_sign negative plain,
    withoutSeparators?_sign negative plain, splitSign_sign negative plain, nonempty, plain]
  rfl

end ThreatWatch.Numeral
