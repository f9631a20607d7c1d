import ThreatWatch.Proofs.Numerals
import ThreatWatch.Proofs.Placements
import ThreatWatch.Proofs.Texts
import ThreatWatch.Proofs.Units

/-! Comparisons of integers. A comparison sees of an integer, or of the text that writes it, only
the nearest double. Rounding keeps the order, so that two integers are compared as they stand
unless they have one nearest double, and then they count as equal. No integer of at most 53 bits
shares its double with another one. -/

namespace ThreatWatch

/-! ## Rounding and the order -/

theorem roundHalfEven_mono {first second denominator : Nat} (ordered : first ≤ second) :
    roundHalfEven first denominator ≤ roundHalfEven second denominator := by
  rcases Nat.lt_or_eq_of_le (Nat.div_le_div_right ordered) with below | same
  · exact (roundHalfEven_le first denominator).trans
      ((Nat.succ_le_of_lt below).trans (div_le_roundHalfEven second denominator))
  · -- With one quotient, the larger remainder is no further from the next whole number.
    have firstParts := Nat.div_add_mod first denominator
    have secondParts := Nat.div_add_mod second denominator
    rw [same] at firstParts
    have remainders : first % denominator ≤ second % denominator := by omega
    have parity : second / denominator % 2 < 2 := Nat.mod_lt _ (by decide)
    have upward := div_le_roundHalfEven second denominator
    unfold roundHalfEven at *
    rw [same]
    dsimp only at *
    by_cases low : 2 * (first % denominator) < denominator
    · rw [if_pos low]
      exact upward
    · rw [if_neg low, if_neg (show ¬2 * (second % denominator) < denominator by omega)]
      split
      · rw [if_pos (by omega)]
      · split <;> omega

namespace Binary64

theorem nearestUnits_of_few {units : Nat} (few : FewBits units) : nearestUnits units 1 = units := by
  have exactly := nearestUnits_mul Nat.one_pos few.stepAt_dvd
  rwa [Nat.mul_one] at exactly

theorem leading_le_nearestUnits {units : Nat} (positive : units ≠ 0) :
    2 ^ units.log2 ≤ nearestUnits units 1 := by
  rcases Nat.lt_or_ge units (2 ^ 53) with small | large
  · rw [nearestUnits_of_few (fewBits_of_lt small)]
    exact Nat.log2_self_le positive
  · have length : 53 ≤ units.log2 := (Nat.le_log2 positive).mpr large
    exact pow_log2_le_nearestUnits (by omega)

theorem nearestUnits_le_leading (units : Nat) : nearestUnits units 1 ≤ 2 ^ (units.log2 + 1) := by
  have below : units < 2 ^ (units.log2 + 1) := Nat.lt_log2_self
  rcases Nat.lt_or_ge units (2 ^ 53) with small | large
  · rw [nearestUnits_of_few (fewBits_of_lt small)]
    exact below.le
  · have positive : units ≠ 0 := by omega
    have length : 53 ≤ units.log2 := (Nat.le_log2 positive).mpr large
    have top : 2 ^ (units.log2 + 1) = 2 ^ 53 * stepAt units := by
      rw [stepAt_eq, ← Nat.pow_add]
      congr 1
      omega
    have digits : units / stepAt units < 2 ^ 53 := by
      rwa [Nat.div_lt_iff_lt_mul (stepAt_pos units), ← top]
    rw [nearestUnits_one, top]
    exact Nat.mul_le_mul_right _ ((roundHalfEven_le units (stepAt units)).trans digits)

theorem nearestUnits_mono {first second : Nat} (ordered : first ≤ second) :
    nearestUnits first 1 ≤ nearestUnits second 1 := by
  by_cases zero : first = 0
  · rw [zero, nearestUnits_of_few (fewBits_of_lt (by decide))]
    exact Nat.zero_le _
  · have positive : second ≠ 0 := by omega
    have lengths : first.log2 ≤ second.log2 :=
      (Nat.le_log2 positive).mpr ((Nat.log2_self_le zero).trans ordered)
    rcases Nat.lt_or_eq_of_le lengths with shorter | same
    · -- The next power of two lies between what the two are rounded to.
      calc nearestUnits first 1 ≤ 2 ^ (first.log2 + 1) := nearestUnits_le_leading first
        _ ≤ 2 ^ second.log2 := Nat.pow_le_pow_right (by decide) shorter
        _ ≤ nearestUnits second 1 := leading_le_nearestUnits positive
    · rw [nearestUnits_one, nearestUnits_one, stepAt_eq, stepAt_eq, same]
      exact Nat.mul_le_mul_right _ (roundHalfEven_mono ordered)

/-! ## The double nearest to an integer -/

def nearestRank (number : Int) : Int :=
  withSign (decide (number < 0)) (nearestUnits (number.natAbs * unitsPerOne) 1)

section

variable {number first second : Int} {double left right : Binary64}

theorem rank?_of_ofInt? (found : ofInt? number = some double) :
    double.rank? = some (nearestRank number) := by
  rw [eq_finite_of_ofInt? found, rank?, nearestRank]

theorem nearestRank_of_nonneg (nonnegative : 0 ≤ number) :
    nearestRank number = nearestUnits (number.natAbs * unitsPerOne) 1 := by
  rw [nearestRank, decide_eq_false (by omega), withSign, if_neg Bool.false_ne_true]

theorem nearestRank_of_neg (negative : number < 0) :
    nearestRank number = -(nearestUnits (number.natAbs * unitsPerOne) 1 : Int) := by
  rw [nearestRank, decide_eq_true negative, withSign, if_pos rfl]

theorem nearestRank_mono (ordered : first ≤ second) :
    nearestRank first ≤ nearestRank second := by
  have sizes {low high : Nat} (ordered : low ≤ high) :
      nearestUnits (low * unitsPerOne) 1 ≤ nearestUnits (high * unitsPerOne) 1 :=
    nearestUnits_mono (Nat.mul_le_mul_right _ ordered)
  rcases Int.lt_or_le second 0 with negative | nonnegative
  · rw [nearestRank_of_neg negative, nearestRank_of_neg (by omega)]
    have rounded := sizes (show second.natAbs ≤ first.natAbs by omega)
    omega
  · rw [nearestRank_of_nonneg nonnegative]
    rcases Int.lt_or_le first 0 with below | above
    · rw [nearestRank_of_neg below]
      omega
    · rw [nearestRank_of_nonneg above]
      exact Int.ofNat_le.mpr (sizes (by omega))

theorem nearestRank_lt_zero_iff : nearestRank number < 0 ↔ number < 0 := by
  constructor
  · intro negative
    by_contra nonnegative
    rw [nearestRank_of_nonneg (by omega)] at negative
    omega
  · intro negative
    have positive : number.natAbs * unitsPerOne ≠ 0 :=
      Nat.mul_ne_zero (by omega) unitsPerOne_pos.ne'
    have rounded := (Nat.pow_pos (show 0 < 2 by decide)).trans_le
      (leading_le_nearestUnits positive)
    rw [nearestRank_of_neg negative]
    omega

theorem double_eq_iff (leftFound : ofInt? first = some left)
    (rightFound : ofInt? second = some right) :
    left = right ↔ nearestRank first = nearestRank second := by
  constructor
  · rintro rfl
    exact Option.some.inj ((rank?_of_ofInt? leftFound).symm.trans (rank?_of_ofInt? rightFound))
  · intro same
    have signs : first < 0 ↔ second < 0 := by
      rw [← nearestRank_lt_zero_iff, same, nearestRank_lt_zero_iff]
    have units := congrArg Int.natAbs same
    rw [nearestRank, nearestRank, natAbs_withSign, natAbs_withSign] at units
    rw [eq_finite_of_ofInt? leftFound, eq_finite_of_ofInt? rightFound, units,
      decide_eq_decide.mpr signs]

theorem nearestRank_of_small (small : number.natAbs ≤ 2 ^ 53) :
    nearestRank number = number * unitsPerOne := by
  have few : FewBits number.natAbs := by
    rcases Nat.lt_or_eq_of_le small with below | same
    · exact fewBits_of_lt below
    · exact ⟨1, 53, by decide, by rw [same, Nat.one_mul]⟩
  have exactly := few.nearestUnits_whole Nat.one_pos
  rw [Nat.mul_one] at exactly
  rw [nearestRank, exactly]
  rcases Int.lt_or_le number 0 with negative | nonnegative
  · rw [decide_eq_true negative, withSign, if_pos rfl, Int.natCast_mul, ← Int.neg_mul]
    congr 1
    omega
  · rw [decide_eq_false (by omega), withSign, if_neg Bool.false_ne_true, Int.natCast_mul]
    congr 1
    omega

theorem eq_of_nearestRank_eq (small : first.natAbs < 2 ^ 53)
    (same : nearestRank first = nearestRank second) : first = second := by
  have apart {low high : Int} (ordered : low < high) (lowSmall : low.natAbs ≤ 2 ^ 53)
      (highSmall : high.natAbs ≤ 2 ^ 53) : nearestRank low < nearestRank high := by
    rw [nearestRank_of_small lowSmall, nearestRank_of_small highSmall]
    exact Int.mul_lt_mul_of_pos_right ordered (Int.natCast_pos.mpr unitsPerOne_pos)
  -- Between the two is a neighbour of the first, which still has its own double.
  rcases Int.lt_trichotomy first second with below | equal | above
  · have step := apart (show first < first + 1 by omega) small.le (by omega)
    have onward := nearestRank_mono (show first + 1 ≤ second from below)
    omega
  · exact equal
  · have step := apart (show first - 1 < first by omega) (by omega) small.le
    have onward := nearestRank_mono (show second ≤ first - 1 by omega)
    omega

theorem lessThan_iff (leftFound : ofInt? first = some left)
    (rightFound : ofInt? second = some right) :
    left.lessThan right = true ↔ first < second ∧ left ≠ right := by
  rw [lessThan, rank?_of_ofInt? leftFound, rank?_of_ofInt? rightFound, ne_eq,
    double_eq_iff leftFound rightFound]
  dsimp only
  rw [decide_eq_true_iff]
  constructor
  · intro below
    refine ⟨?_, below.ne⟩
    by_contra atLeast
    exact absurd (nearestRank_mono (Int.not_lt.mp atLeast)) (Int.not_le.mpr below)
  · rintro ⟨below, different⟩
    exact lt_of_le_of_ne (nearestRank_mono below.le) different

theorem atMost_iff (leftFound : ofInt? first = some left)
    (rightFound : ofInt? second = some right) :
    left.atMost right = true ↔ first ≤ second ∨ left = right := by
  rw [atMost, rank?_of_ofInt? leftFound, rank?_of_ofInt? rightFound,
    double_eq_iff leftFound rightFound]
  dsimp only
  rw [decide_eq_true_iff]
  constructor
  · intro ordered
    rcases Int.lt_or_le second first with above | atMost
    · exact .inr (Int.le_antisymm ordered (nearestRank_mono above.le))
    · exact .inl atMost
  · rintro (ordered | same)
    · exact nearestRank_mono ordered
    · exact same.le

end

end Binary64

/-! ## Values that give integers -/

namespace Value

/-- A value gives an integer: it is the integer, or the text that writes it in decimal digits. -/
inductive Tells (number : Int) : Value → Prop where
  | integer : Tells number (.int number)
  | text : Tells number (.text (toString number))

theorem readNumber?_toString {number : Int} {double : Binary64}
    (found : Binary64.ofInt? number = some double) :
    readNumber? (toString number) = some double := by
  have plain := Numeral.plain_toDigits number.natAbs
  have written : toString number = String.ofList
      ((if decide (number < 0) then ['-'] else []) ++ Nat.toDigits 10 number.natAbs) := by
    rw [← String.toList_inj, Numeral.toList_toString, String.toList_ofList]
    simp only [decide_eq_true_eq]
  have solid : ∀ character ∈ (if decide (number < 0) then ['-'] else []) ++
      Nat.toDigits 10 number.natAbs, Text.isBlank character = false := by
    refine List.forall_mem_append.mpr ⟨?_, Numeral.forall_of_plain plain (by decide)⟩
    split
    · exact List.forall_mem_singleton.mpr (by decide)
    · exact List.forall_mem_nil _
  have finite : double.finite? = some double := by
    rw [Binary64.eq_finite_of_ofInt? found]
    rfl
  rw [readNumber?, written, Text.trim_ofList solid,
    Numeral.readDouble?_of_plain _ plain Nat.toDigits_ne_nil, Numeral.ofDigits_toDigits,
    Binary64.ofDecimal_of_ofInt? found, Option.bind_some, finite]

theorem Tells.operandNumber {number : Int} {value : Value} {double : Binary64}
    (tells : value.Tells number) (found : Binary64.ofInt? number = some double) :
    value.operandNumber = .ok (some double) := by
  cases tells with
  | integer =>
      rw [Value.operandNumber, integerOperand, found]
      rfl
  | text => rw [Value.operandNumber, readNumber?_toString found]

theorem Tells.isNull {number : Int} {value : Value} (tells : value.Tells number) :
    value.isNull = false := by
  cases tells <;> rfl

theorem Tells.expectedValues {number : Int} {value : Value} (tells : value.Tells number) :
    Criterion.expectedValues value = [value] := by
  cases tells <;> rfl

end Value

/-! ## Comparisons -/

namespace Comparison

def operator : Comparison → Operator
  | .greater => .greater
  | .atLeast => .atLeast
  | .less => .less
  | .atMost => .atMost

def Orders (left right : Int) : Comparison → Prop
  | .greater => right < left
  | .atLeast => right ≤ left
  | .less => left < right
  | .atMost => left ≤ right

def allowsEqual : Comparison → Bool
  | .greater | .less => false
  | .atLeast | .atMost => true

/-- What a comparison says of two integers that it may not be able to tell apart. -/
def OrdersUpTo (same : Prop) (left right : Int) (comparison : Comparison) : Prop :=
  if comparison.allowsEqual then comparison.Orders left right ∨ same
  else comparison.Orders left right ∧ ¬same

section

variable {first second : Int} {left right : Binary64}

theorem holds_iff (comparison : Comparison) (leftFound : Binary64.ofInt? first = some left)
    (rightFound : Binary64.ofInt? second = some right) :
    comparison.holds left right = true ↔ comparison.OrdersUpTo (left = right) first second := by
  cases comparison with
  | greater => exact (Binary64.lessThan_iff rightFound leftFound).trans (and_congr_right' ne_comm)
  | atLeast => exact (Binary64.atMost_iff rightFound leftFound).trans (or_congr_right eq_comm)
  | less => exact Binary64.lessThan_iff leftFound rightFound
  | atMost => exact Binary64.atMost_iff leftFound rightFound

theorem ordersUpTo_iff {same : Prop} (apart : same → first = second) (comparison : Comparison) :
    comparison.OrdersUpTo same first second ↔ comparison.Orders first second := by
  cases comparison <;> simp only [OrdersUpTo, Orders, allowsEqual] <;> grind

end

end Comparison

namespace Criterion

variable {field : String} {requireAll : Bool} {rawKey actual expected : Value}

theorem prepare_comparison (comparison : Comparison) (shownKey : String) (expected : Value) :
    prepare comparison.operator shownKey expected = .ok (.number comparison expected) := by
  cases comparison <;> rfl

/-- Two values that give integers near finite doubles are compared as the integers stand, except
that integers with one nearest double count as equal. There are no such integers where one of
the two has less than 53 bits. -/
theorem integers_compare_by_nearest_doubles {comparison : Comparison}
    (key : IsKeyOf field comparison.operator requireAll rawKey)
    {number limit : Int} {double limitDouble : Binary64}
    (tells : actual.Tells number) (limitTells : expected.Tells limit)
    (near : Binary64.ofInt? number = some double)
    (limitNear : Binary64.ofInt? limit = some limitDouble) :
    ∃ criterion answer, compile rawKey expected = .ok criterion ∧ criterion.field = field ∧
      criterion.passes actual = .ok answer ∧
      (answer = true ↔ comparison.OrdersUpTo (double = limitDouble) number limit) ∧
      (number.natAbs < 2 ^ 53 ∨ limit.natAbs < 2 ^ 53 →
        (answer = true ↔ comparison.Orders number limit)) := by
  obtain ⟨criterion, compiled, named, _, tests⟩ :=
    exists_compile_of_tests key fun expected _ shownKey =>
      prepare_comparison comparison shownKey expected
  rw [limitTells.expectedValues, List.map_singleton] at tests
  have tested : ValueTest.passes actual (.number comparison expected) =
      .ok (comparison.holds double limitDouble) := by
    rw [ValueTest.passes, tells.operandNumber near, limitTells.operandNumber limitNear]
    rfl
  have told := comparison.holds_iff near limitNear
  refine ⟨criterion, _, compiled, named, passes_of_single tests tells.isNull tested, told,
    fun small => told.trans (Comparison.ordersUpTo_iff (fun same => ?_) comparison)⟩
  rw [Binary64.double_eq_iff near limitNear] at same
  rcases small with small | limitSmall
  · exact Binary64.eq_of_nearestRank_eq small same
  · exact (Binary64.eq_of_nearestRank_eq limitSmall same.symm).symm

/-- A negative count and the text of a limit with no double of its own, which are compared as
they stand since the count is small. -/
theorem small_count_is_below_large_limit :
    IsKeyOf "size" .less false (.text "size|lt") ∧
      Value.Tells (-7) (.int (-7)) ∧ Value.Tells 9007199254740993 (.text "9007199254740993") ∧
      ∃ criterion, compile (.text "size|lt") (.text "9007199254740993") = .ok criterion ∧
        criterion.passes (.int (-7)) = .ok true := by
  have key : IsKeyOf "size" (Comparison.operator .less) false (.text "size|lt") :=
    ⟨"size|lt", _, rfl, rfl, by decide +kernel, by decide +kernel⟩
  have count : Value.Tells (-7) (.int (-7)) := .integer
  have limit : Value.Tells 9007199254740993 (.text "9007199254740993") := .text
  obtain ⟨double, near⟩ : ∃ double, Binary64.ofInt? (-7) = some double :=
    Option.isSome_iff_exists.mp ((Binary64.isSome_ofInt?_iff _).mpr (by decide +kernel))
  obtain ⟨limitDouble, limitNear⟩ :
      ∃ double, Binary64.ofInt? 9007199254740993 = some double :=
    Option.isSome_iff_exists.mp ((Binary64.isSome_ofInt?_iff _).mpr (by decide +kernel))
  obtain ⟨criterion, answer, compiled, _, passes, _, exactly⟩ :=
    integers_compare_by_nearest_doubles key count limit near limitNear
  have below : Comparison.Orders (-7) 9007199254740993 .less :=
    show (-7 : Int) < 9007199254740993 by decide
  obtain rfl : answer = true := (exactly (.inl (by decide))).mpr below
  exact ⟨key, count, limit, criterion, compiled, passes⟩

/-- The first integers that a comparison cannot tell apart: neither is above the other for it, as
integers or as texts, and each is at least the other. -/
theorem neighbours_are_not_told_apart :
    (9007199254740992 : Int) < 9007199254740993 ∧
    (∃ criterion, compile (.text "size|gt") (.int 9007199254740992) = .ok criterion ∧
      criterion.passes (.int 9007199254740993) = .ok false ∧
      criterion.passes (.text "9007199254740993") = .ok false) ∧
    ∃ criterion, compile (.text "size|gte") (.text "9007199254740993") = .ok criterion ∧
      criterion.passes (.int 9007199254740992) = .ok true :=
  ⟨by decide, ⟨_, rfl, by decide +kernel, by decide +kernel⟩, _, rfl, by decide +kernel⟩

end Criterion

end ThreatWatch
