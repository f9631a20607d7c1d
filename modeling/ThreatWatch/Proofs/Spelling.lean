import ThreatWatch.Proofs.Conditions

/-! How the tokens of conditions are spelled. A keyword may be written in any letter
case, and a numeral with the decimal digits of any script; nothing is both, since digits
and stars have no other case. -/

namespace ThreatWatch

namespace Text

/-! ## Characters without other case -/

def IsSteady (character : Char) : Prop :=
  ∀ before after, lowerForm before character after = [character]

theorem isSteady_of_simpleLower {character : Char} (same : simpleLower character = character)
    (noSigma : character ≠ 'Σ') (noDotted : character ≠ 'İ') : IsSteady character := by
  intro before after
  rw [lowerForm, if_neg noSigma, if_neg noDotted, same]

theorem mem_lowerAfter_of_steady {character : Char} (steady : IsSteady character)
    {characters : List Char} (member : character ∈ characters) (before : List Char) :
    character ∈ lowerAfter before characters := by
  induction characters generalizing before with
  | nil => cases member
  | cons first rest induction =>
      rw [lowerAfter, List.mem_append]
      rcases List.mem_cons.mp member with rfl | later
      · rw [steady]
        exact .inl (List.mem_singleton_self _)
      · exact .inr (induction later _)

theorem exists_base_of_digitValueFrom {point value : Nat} {bases : List Nat}
    (found : digitValueFrom point bases = some value) : ∃ base ∈ bases, point = base + value := by
  induction bases with
  | nil => cases found
  | cons first rest induction =>
      unfold digitValueFrom at found
      split at found
      · cases found
      · split at found
        · cases found
          exact ⟨first, by simp, by omega⟩
        · rcases induction found with ⟨base, member, equal⟩
          exact ⟨base, List.mem_cons_of_mem _ member, equal⟩

theorem shiftPoint_of_outside {point : Nat} {runs : List CaseRun}
    (outside : ∀ run ∈ runs, point < run.first ∨ run.last < point) :
    shiftPoint point runs = point := by
  induction runs with
  | nil => rfl
  | cons run rest induction =>
      rcases List.forall_mem_cons.mp outside with ⟨here, later⟩
      unfold shiftPoint
      split
      · rfl
      · rw [if_neg (by omega), induction later]

theorem decimals_outside_lowerRuns : (decimalZeros.all fun base => lowerRuns.all fun run =>
    Nat.blt (base + 9) run.first || Nat.blt run.last base) = true := by
  decide +kernel

theorem isSteady_of_decimal {character : Char} (decimal : isDecimal character = true) :
    IsSteady character := by
  rcases Option.isSome_iff_exists.mp decimal with ⟨value, found⟩
  rcases exists_base_of_digitValueFrom found with ⟨base, member, point⟩
  have small := digitValueFrom_lt found
  have fixed : shiftPoint character.toNat lowerRuns = character.toNat := by
    refine shiftPoint_of_outside fun run runMember => ?_
    have outside := List.all_eq_true.mp
      (List.all_eq_true.mp decimals_outside_lowerRuns base member) run runMember
    simp only [Bool.or_eq_true, Nat.blt_eq] at outside
    omega
  refine isSteady_of_simpleLower ?_ ?_ ?_
  · rw [simpleLower, fixed, Char.ofNat_toNat]
  · rintro rfl
    revert decimal
    decide
  · rintro rfl
    revert decimal
    decide

theorem isSteady_star : IsSteady '*' :=
  isSteady_of_simpleLower rfl (by decide) (by decide)

end Text

namespace Condition

/-! ## Keywords -/

def Keyword.name : Keyword → String
  | .conjunction => "and"
  | .disjunction => "or"
  | .negation => "not"
  | .quantifier => "of"
  | .every => "all"
  | .wholeGroup => "them"

theorem keyword?_eq_some_iff {token : String} {keyword : Keyword} :
    keyword? token = some keyword ↔ Text.lower token = keyword.name := by
  unfold keyword?
  constructor
  · intro found
    split at found <;> cases found <;> assumption
  · intro lowered
    rw [lowered]
    cases keyword <;> rfl

theorem mem_name_of_keyword? {token : String} {keyword : Keyword}
    (found : keyword? token = some keyword) {character : Char}
    (steady : Text.IsSteady character) (member : character ∈ token.toList) :
    character ∈ keyword.name.toList := by
  rw [← keyword?_eq_some_iff.mp found, Text.lower, String.toList_ofList]
  exact Text.mem_lowerAfter_of_steady steady member []

theorem keyword?_of_decimal {token : String} {digit : Char} (member : digit ∈ token.toList)
    (decimal : Text.isDecimal digit = true) : keyword? token = none := by
  cases found : keyword? token with
  | none => rfl
  | some keyword =>
      have letters : (keyword.name.toList.all fun letter => !Text.isDecimal letter) = true := by
        cases keyword <;> decide
      have letter := mem_name_of_keyword? found (Text.isSteady_of_decimal decimal) member
      have noDigit := List.all_eq_true.mp letters digit letter
      rw [decimal] at noDigit
      cases noDigit

theorem keyword?_of_star {token : String} (member : '*' ∈ token.toList) :
    keyword? token = none := by
  cases found : keyword? token with
  | none => rfl
  | some keyword =>
      have starless : ∀ keyword : Keyword, '*' ∉ keyword.name.toList := by
        intro keyword
        cases keyword <;> decide
      exact absurd (mem_name_of_keyword? found Text.isSteady_star member) (starless keyword)

/-! ## Numerals -/

def numberOf (digits : List Char) : Nat :=
  digits.foldl (fun total digit => total * 10 + (Text.decimalValue? digit).getD 0) 0

/-- A token writes a number in decimal digits, of which there are not too many. -/
structure Writes (token : String) (number : Nat) : Prop where
  nonempty : token.toList ≠ []
  decimal : ∀ digit ∈ token.toList, Text.isDecimal digit = true
  short : token.toList.length ≤ Numeral.digitLimit
  value : numberOf token.toList = number

theorem digitValue_digitChar {value : Nat} (small : value < 10) :
    Numeral.digitValue (Nat.digitChar value) = value := by
  revert value
  decide

theorem ofDigits_plainDigits {digits : List Char}
    (decimal : ∀ digit ∈ digits, Text.isDecimal digit = true) :
    Numeral.ofDigits (Numeral.plainDigits digits) = numberOf digits := by
  unfold Numeral.ofDigits Numeral.plainDigits numberOf
  rw [List.foldl_map]
  refine List.foldl_ext _ _ _ fun total digit member => ?_
  rcases Option.isSome_iff_exists.mp (decimal digit member) with ⟨value, found⟩
  rw [found]
  exact congrArg (total * 10 + ·) (digitValue_digitChar (Text.digitValueFrom_lt found))

theorem Writes.isCount {token : String} {number : Nat} (writes : Writes token number) :
    isCount token = true := by
  have digits : token.toList.all Text.isDigit = true := by
    refine List.all_eq_true.mpr fun digit member => ?_
    rw [Text.isDigit, writes.decimal digit member, Bool.true_or]
  simp [Condition.isCount, digits, writes.nonempty]

theorem Writes.keyword?_eq_none {token : String} {number : Nat} (writes : Writes token number) :
    keyword? token = none := by
  rcases List.exists_mem_of_ne_nil _ writes.nonempty with ⟨digit, member⟩
  exact keyword?_of_decimal member (writes.decimal digit member)

theorem readCount_ne_none {token : String} (notAll : keyword? token ≠ some .every) :
    readCount token ≠ .ok none := by
  intro read
  rw [readCount, if_neg notAll] at read
  split at read
  · cases read
  · split at read
    · cases read
    · split at read <;> cases read

theorem readCount_eq_ok_some_iff {token : String} (isNumber : isCount token = true) {count : Nat} :
    readCount token = .ok (some count) ↔ Writes token count ∧ 1 ≤ count := by
  have nonempty := isCount_ne_nil isNumber
  constructor
  · intro read
    have positive := readCount_eq_ok read
    unfold readCount at read
    split at read
    · cases read
    · split at read
      · cases read
      · next decimal =>
          have allDecimal : token.toList.all Text.isDecimal = true := by simpa using decimal
          have each := List.all_eq_true.mp allDecimal
          rw [Numeral.readInt_of_decimal nonempty allDecimal, ofDigits_plainDigits each] at read
          split at read
          · cases read
          · next number told =>
              split at told
              · cases told
              · next short =>
                  cases told
                  split at read
                  · cases read
                  · cases read
                    exact ⟨⟨nonempty, each, Nat.le_of_not_lt short, rfl⟩, positive⟩
  · rintro ⟨writes, positive⟩
    have allDecimal := List.all_eq_true.mpr writes.decimal
    have noKeyword : keyword? token ≠ some .every := by simp [writes.keyword?_eq_none]
    rw [readCount, if_neg noKeyword, if_neg (by simp [allDecimal]),
      Numeral.readInt_of_decimal nonempty allDecimal, ofDigits_plainDigits writes.decimal,
      writes.value, if_neg (Nat.not_lt_of_le writes.short)]
    dsimp only
    rw [if_neg (by omega)]
    rfl

end Condition

end ThreatWatch
