import ThreatWatch.Json
import ThreatWatch.Proofs.Shortness

/-! Reading JSON texts. A text that is no JSON is refused as malformed, unless more digits
in a row than an integer may have stand in it; what is read holds no such integer. -/

namespace ThreatWatch

namespace Json

/-! ## What a reader comes to -/

def HoldsLongRun (characters : List Char) : Prop :=
  ∃ digits, digits <:+: characters ∧ digits.all Numeral.isPlainDigit = true ∧
    Numeral.digitLimit < digits.length

theorem HoldsLongRun.of_infix {part characters : List Char} (run : HoldsLongRun part)
    (within : part <:+: characters) : HoldsLongRun characters := by
  rcases run with ⟨digits, inside, plain, long⟩
  exact ⟨digits, inside.trans within, plain, long⟩

section

variable {α β : Type}

/-- A reader comes to a good value and an end of what it was given, or to a failure, and to
one over too many digits only where they stand in a row. -/
inductive ComesTo (good : α → Prop) (characters : List Char) :
    Except JsonFault (α × List Char) → Prop where
  | read {value : α} {after : List Char} (isGood : good value) (left : after <:+ characters) :
      ComesTo good characters (.ok (value, after))
  | malformed : ComesTo good characters (.error .malformed)
  | tooManyDigits (run : HoldsLongRun characters) : ComesTo good characters (.error .tooManyDigits)

def Careful (good : α → Prop) (reader : Reader α) : Prop :=
  ∀ characters, ComesTo good characters (reader characters)

variable {good : α → Prop} {further : β → Prop} {characters after : List Char}

theorem ComesTo.of_suffix {outcome : Except JsonFault (α × List Char)}
    (comes : ComesTo good after outcome) (left : after <:+ characters) :
    ComesTo good characters outcome := by
  cases comes with
  | read isGood rest => exact .read isGood (rest.trans left)
  | malformed => exact .malformed
  | tooManyDigits run => exact .tooManyDigits (run.of_infix left.isInfix)

theorem ComesTo.bind_within {outcome : Except JsonFault (α × List Char)}
    {next : α × List Char → Except JsonFault (β × List Char)}
    (first : ComesTo good characters outcome)
    (later : ∀ value after, good value → after <:+ characters →
      ComesTo further characters (next (value, after))) :
    ComesTo further characters (outcome >>= next) := by
  cases first with
  | read isGood left => exact later _ _ isGood left
  | malformed => exact .malformed
  | tooManyDigits run => exact .tooManyDigits run

theorem ComesTo.bind {outcome : Except JsonFault (α × List Char)}
    {next : α × List Char → Except JsonFault (β × List Char)}
    (first : ComesTo good characters outcome)
    (later : ∀ value after, good value → ComesTo further after (next (value, after))) :
    ComesTo further characters (outcome >>= next) :=
  first.bind_within fun value after isGood left => (later value after isGood).of_suffix left

theorem comesTo_here {value : α} (isGood : good value) :
    ComesTo good characters (.ok (value, characters)) :=
  .read isGood (List.suffix_refl _)

theorem ComesTo.cons {outcome : Except JsonFault (α × List Char)}
    (comes : ComesTo good after outcome) (character : Char) :
    ComesTo good (character :: after) outcome :=
  comes.of_suffix (List.suffix_cons _ _)

theorem ComesTo.skipBlank {outcome : Except JsonFault (α × List Char)}
    (comes : ComesTo good (skipBlank characters) outcome) : ComesTo good characters outcome :=
  comes.of_suffix (List.dropWhile_suffix _)

/-! ## Texts -/

def anything (_ : α) : Prop :=
  True

theorem careful_readUnit : Careful anything readUnit := by
  intro characters
  unfold readUnit
  split
  · split
    · exact ((((comesTo_here trivial).cons _).cons _).cons _).cons _
    · exact .malformed
  · exact .malformed

theorem careful_readNumericEscape : Careful anything readNumericEscape := by
  intro characters
  refine (careful_readUnit characters).bind fun unit rest _ => ?_
  dsimp only
  split
  · next others =>
      split
      · have within : others <:+ '\\' :: 'u' :: others :=
          (List.suffix_cons _ _).trans (List.suffix_cons _ _)
        refine ((careful_readUnit others).of_suffix within).bind_within
          fun second after _ left => ?_
        dsimp only
        -- The second unit is given back where it is no second half.
        split
        · exact .read trivial left
        · exact comesTo_here trivial
      · exact comesTo_here trivial
  · exact comesTo_here trivial

theorem careful_readTextFrom (fuel : Nat) : Careful anything (readTextFrom fuel) := by
  induction fuel with
  | zero => exact fun _ => .malformed
  | succ fuel induction =>
      intro characters
      have others (character : Char) (rest : List Char) :
          ComesTo anything rest (readTextFrom fuel rest >>= fun read =>
            pure (character :: read.1, read.2)) :=
        (induction rest).bind fun _ _ _ => comesTo_here trivial
      unfold readTextFrom
      split
      · exact .malformed
      · exact (comesTo_here trivial).cons _
      · next rest =>
          refine (((careful_readNumericEscape rest).bind fun character rest _ => ?_).cons _).cons _
          exact others character rest
      · next letter rest _ =>
          split
          · exact .malformed
          · exact ((others _ rest).cons _).cons _
      · next character rest _ _ _ =>
          split
          · exact .malformed
          · exact (others character rest).cons _

theorem careful_readText : Careful anything readText := by
  intro characters
  exact (careful_readTextFrom _ characters).bind fun content after _ => comesTo_here trivial

/-! ## Numbers -/

theorem splitDigits_append (characters : List Char) :
    (Numeral.splitDigits characters).1 ++ (Numeral.splitDigits characters).2 = characters :=
  List.takeWhile_append_dropWhile

theorem wholeDigits_eq_some {whole rest : List Char}
    (told : wholeDigits characters = some (whole, rest)) :
    characters = whole ++ rest ∧ whole.all Numeral.isPlainDigit = true ∧ whole ≠ [] := by
  unfold wholeDigits at told
  split at told
  · cases told
    exact ⟨rfl, rfl, by simp⟩
  · dsimp only at told
    split at told
    · cases told
    · next filled =>
        cases told
        refine ⟨(splitDigits_append _).symm, ?_, by simpa using filled⟩
        exact List.all_eq_true.mpr fun _ => List.mem_takeWhile_imp

theorem fractionPart_suffix (characters : List Char) :
    (fractionPart characters).2 <:+ characters := by
  unfold fractionPart
  split
  · dsimp only
    split
    · exact List.suffix_refl _
    · exact (List.dropWhile_suffix _).trans (List.suffix_cons _ _)
  · exact List.suffix_refl _

theorem exponentPart_suffix (characters : List Char) :
    (exponentPart characters).2 <:+ characters := by
  unfold exponentPart
  split
  · next mark rest =>
      split
      · have after (others : List Char) (left : others <:+ rest) :
            (Numeral.splitDigits others).2 <:+ mark :: rest :=
          ((List.dropWhile_suffix _).trans left).trans (List.suffix_cons _ _)
        dsimp only
        split <;> dsimp only <;> split
        all_goals first
          | exact List.suffix_refl _
          | exact after _ (List.suffix_cons _ _)
          | exact after _ (List.suffix_refl _)
      · exact List.suffix_refl _
  · exact List.suffix_refl _

theorem readInt_signed {sign whole : List Char} (isSign : sign = ['-'] ∨ sign = [])
    (plain : whole.all Numeral.isPlainDigit = true) (filled : whole ≠ []) :
    (∀ number, Numeral.readInt (String.ofList (sign ++ whole)) = .ok number →
      (Value.int number).IsShort) ∧
    (Numeral.readInt (String.ofList (sign ++ whole)) = .error .tooLong →
      Numeral.digitLimit < whole.length) := by
  have read : ∃ negative, Numeral.readInt (String.ofList (sign ++ whole)) =
      if Numeral.digitLimit < whole.length then .error .tooLong
      else .ok (Binary64.withSign negative (Numeral.ofDigits whole)) := by
    rcases isSign with rfl | rfl
    · exact ⟨true, Numeral.readInt_of_plain true plain filled⟩
    · exact ⟨false, Numeral.readInt_of_plain false plain filled⟩
  rcases read with ⟨negative, read⟩
  rw [read]
  split
  · next long => exact ⟨by simp, fun _ => long⟩
  · next short =>
      refine ⟨fun number told => ?_, by simp⟩
      cases told
      exact Value.isShort_int_of_digits (Nat.le_of_not_lt short) plain negative

theorem careful_readNumber : Careful Value.IsShort readNumber := by
  intro characters
  unfold readNumber
  dsimp only
  split
  · exact .malformed
  · next whole rest told =>
      rcases wholeDigits_eq_some told with ⟨unsigned, plain, filled⟩
      have within : whole ++ rest <:+ characters := by
        rw [← unsigned]
        split
        · exact List.suffix_cons _ _
        · exact List.suffix_refl _
      have left := (List.suffix_append whole rest).trans within
      have after := ((exponentPart_suffix _).trans (fractionPart_suffix rest)).trans left
      split
      · split
        · next number read =>
            refine .read ((readInt_signed ?_ plain filled).1 number read) after
            split <;> simp
        · next read =>
            refine .tooManyDigits ⟨whole, ?_, plain, (readInt_signed ?_ plain filled).2 read⟩
            · exact (List.prefix_append whole rest).isInfix.trans within.isInfix
            · split <;> simp
        · exact .malformed
      · split
        · exact .read (Value.isShort_of_parts (by simp) (by simp [Value.parts])) after
        · exact .malformed

/-! ## Values -/

theorem careful_readMore (closing : Char) {item : Reader α} (careful : Careful good item)
    (fuel : Nat) : Careful (∀ value ∈ ·, good value) (readMore closing item fuel) := by
  induction fuel with
  | zero => exact fun _ => .malformed
  | succ fuel induction =>
      intro characters
      unfold readMore
      refine ComesTo.skipBlank ?_
      split
      · exact .malformed
      · next mark rest found =>
          rw [found]
          split
          · exact (comesTo_here (fun _ member => by cases member)).cons _
          · split
            · refine (((careful _).bind fun first rest isGood => ?_).skipBlank).cons _
              refine (induction rest).bind fun others after areGood => ?_
              exact comesTo_here (List.forall_mem_cons.mpr ⟨isGood, areGood⟩)
            · exact .malformed

theorem careful_readItems (closing : Char) {item : Reader α} (careful : Careful good item) :
    Careful (∀ value ∈ ·, good value) (readItems closing item) := by
  intro characters
  unfold readItems
  refine ComesTo.skipBlank ?_
  dsimp only
  split
  · exact .read (by simp) (List.tail_suffix _)
  · refine (careful _).bind fun first rest isGood => ?_
    refine (careful_readMore closing careful _ rest).bind fun others after areGood => ?_
    exact comesTo_here (List.forall_mem_cons.mpr ⟨isGood, areGood⟩)

theorem careful_readMember {value : Reader Value} (careful : Careful Value.IsShort value) :
    Careful (fun entry : Value × Value => entry.1.IsShort ∧ entry.2.IsShort)
      (readMember value) := by
  intro characters
  unfold readMember
  split
  · next rest =>
      refine ((careful_readText rest).bind fun key rest _ => ?_).cons _
      refine ComesTo.skipBlank ?_
      dsimp only
      split
      · next found =>
        rw [found]
        refine (((careful _).bind fun held after isShort => ?_).skipBlank).cons _
        exact comesTo_here ⟨Value.isShort_text key, isShort⟩
      · exact .malformed
  · exact .malformed

theorem isShort_of_mem_words {entry : List Char × Value} (member : entry ∈ words) :
    entry.2.IsShort := by
  simp only [words, List.mem_cons, List.not_mem_nil, or_false] at member
  rcases member with rfl | rfl | rfl | rfl | rfl | rfl
  all_goals exact Value.isShort_of_parts (by simp) (by simp [Value.parts])

theorem careful_readValue (fuel : Nat) : Careful Value.IsShort (readValue fuel) := by
  induction fuel with
  | zero => exact fun _ => .malformed
  | succ fuel induction =>
      intro characters
      unfold readValue
      split
      · next rest =>
          refine ((careful_readText rest).bind fun content after _ => ?_).cons _
          exact comesTo_here (Value.isShort_text content)
      · next rest =>
          refine ((careful_readItems _ (careful_readMember induction) rest).bind
            fun entries after areShort => ?_).cons _
          exact comesTo_here (Value.isShort_map_iff.mpr (Value.areShort_ofEntries areShort))
      · next rest =>
          refine ((careful_readItems _ induction rest).bind fun items after areShort => ?_).cons _
          exact comesTo_here (Value.isShort_of_parts (by simp) areShort)
      · split
        · next result found =>
            rcases Option.map_eq_some_iff.mp found with ⟨entry, among, rfl⟩
            exact .read (isShort_of_mem_words (List.mem_of_find?_eq_some among))
              (List.drop_suffix _ _)
        · exact careful_readNumber _

end

variable {text : String}

theorem isShort_of_read {value : Value} (told : read text = .ok value) : value.IsShort := by
  rcases bind_eq_ok_iff.mp told with ⟨⟨found, after⟩, here, rest⟩
  have comes := careful_readValue (text.toList.length + 1) (skipBlank text.toList)
  rw [here] at comes
  dsimp only at rest
  split at rest
  · cases rest
    cases comes with
    | read isShort _ => exact isShort
  · cases rest

theorem holdsLongRun_of_read (failed : read text = .error .tooManyDigits) :
    HoldsLongRun text.toList := by
  have comes := careful_readValue (text.toList.length + 1) (skipBlank text.toList)
  rcases bind_eq_error_iff.mp failed with here | ⟨⟨found, after⟩, _, rest⟩
  · rw [here] at comes
    cases comes with
    | tooManyDigits run => exact run.of_infix (List.dropWhile_suffix _).isInfix
  · dsimp only at rest
    split at rest <;> cases rest

/-! ## A number of too many digits -/

theorem readNumber_of_long {digits : List Char} (plain : digits.all Numeral.isPlainDigit = true)
    (long : Numeral.digitLimit ≤ digits.length) :
    readNumber ('1' :: (digits ++ ['\x7d'])) = .error .tooManyDigits := by
  have allPlain : ('1' :: digits).all Numeral.isPlainDigit = true := by
    rw [List.all_cons, plain]
    rfl
  have each := List.all_eq_true.mp plain
  have whole : wholeDigits ('1' :: (digits ++ ['\x7d'])) = some ('1' :: digits, ['\x7d']) := by
    have brace : Numeral.isPlainDigit '\x7d' = false := by decide
    have one : Numeral.isPlainDigit '1' = true := by decide
    simp [wholeDigits, Numeral.splitDigits, List.takeWhile_append_of_pos each,
      List.dropWhile_append_of_pos each, one, brace]
  have tooLong : Numeral.readInt (String.ofList ('1' :: digits)) = .error .tooLong := by
    have tooMany : Numeral.digitLimit < ('1' :: digits).length := Nat.lt_succ_of_le long
    have read := Numeral.readInt_of_plain false allPlain (by simp)
    rwa [if_pos tooMany] at read
  simp [-String.ofList_cons, readNumber, whole, fractionPart, exponentPart, tooLong]

/-- What follows the opening brace of an object whose only value is a number, of a one and
the digits after it. -/
def numberMember (digits : List Char) : List Char :=
  '\x22' :: 'n' :: '\x22' :: ':' :: ' ' :: '1' :: (digits ++ ['\x7d'])

def objectOfNumber (digits : List Char) : String :=
  String.ofList ('\x7b' :: numberMember digits)

theorem head?_trim_objectOfNumber (digits : List Char) :
    (Text.trim (objectOfNumber digits)).toList.head? = some '\x7b' := by
  have opening : Text.isBlank '\x7b' = false := by decide
  have closing : Text.isBlank '\x7d' = false := by decide
  simp [Text.trim, Text.trimCharacters, Text.trimEnd, objectOfNumber, numberMember, opening,
    closing]

theorem read_objectOfNumber_of_long {digits : List Char}
    (plain : digits.all Numeral.isPlainDigit = true) (long : Numeral.digitLimit ≤ digits.length) :
    read (objectOfNumber digits) = .error .tooManyDigits := by
  have number (fuel : Nat) : readValue (fuel + 1) ('1' :: (digits ++ ['\x7d'])) =
      .error .tooManyDigits := readNumber_of_long plain long
  have member (fuel : Nat) : readMember (readValue (fuel + 1)) (numberMember digits) =
      .error .tooManyDigits :=
    bind_eq_error_iff.mpr (.inr ⟨("n", ':' :: ' ' :: '1' :: (digits ++ ['\x7d'])), rfl,
      bind_eq_error_iff.mpr (.inl (number fuel))⟩)
  unfold read objectOfNumber
  rw [String.toList_ofList]
  exact bind_eq_error_iff.mpr (.inl (bind_eq_error_iff.mpr (.inl
    (bind_eq_error_iff.mpr (.inl (member _))))))

end Json

end ThreatWatch
