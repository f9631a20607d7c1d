import Mathlib.Algebra.Order.Group.Nat
import Mathlib.Data.Nat.Log
import Mathlib.Tactic.Ring
import ThreatWatch.Number.Numeral

/-! Integers near a double. Rounding moves an integer by no more than half a step, so an
integer is near a finite double just below the middle between the greatest double and
the power of two after it. -/

namespace ThreatWatch

/-! ## Rounding -/

theorem div_le_roundHalfEven (numerator denominator : Nat) :
    numerator / denominator ≤ roundHalfEven numerator denominator := by
  unfold roundHalfEven
  dsimp only
  split
  · exact Nat.le_refl _
  · split <;> omega

theorem roundHalfEven_le (numerator denominator : Nat) :
    roundHalfEven numerator denominator ≤ numerator / denominator + 1 := by
  unfold roundHalfEven
  dsimp only
  split
  · omega
  · split <;> omega

theorem roundHalfEven_lt_iff {numerator half limit : Nat} (positive : 0 < half)
    (even : limit % 2 = 0) :
    roundHalfEven numerator (2 * half) < limit ↔ numerator + half < 2 * half * limit := by
  have split_ := Nat.div_add_mod numerator (2 * half)
  have small := Nat.mod_lt numerator (show 0 < 2 * half by omega)
  have lower := div_le_roundHalfEven numerator (2 * half)
  have upper := roundHalfEven_le numerator (2 * half)
  generalize quotientEq : numerator / (2 * half) = quotient at *
  rcases Nat.lt_trichotomy (quotient + 1) limit with below | last | beyond
  · have room := Nat.mul_le_mul_left (2 * half) (show quotient + 2 ≤ limit from below)
    rw [Nat.mul_add] at room
    omega
  · have edge : 2 * half * limit = 2 * half * quotient + 2 * half := by rw [← last, Nat.mul_succ]
    unfold roundHalfEven
    rw [quotientEq]
    dsimp only
    split
    · omega
    · split <;> omega
  · have full := Nat.mul_le_mul_left (2 * half)
      (show limit ≤ quotient from Nat.le_of_lt_succ beyond)
    omega

theorem roundHalfEven_mul {divisor : Nat} (positive : 0 < divisor) (quotient : Nat) :
    roundHalfEven (quotient * divisor) divisor = quotient := by
  unfold roundHalfEven
  dsimp only
  rw [Nat.mul_div_cancel _ positive, Nat.mul_mod_left, Nat.mul_zero, if_pos positive]

namespace Binary64

theorem stepAt_eq (units : Nat) : stepAt units = 2 ^ (units.log2 - 52) :=
  rfl

theorem stepAt_pos (units : Nat) : 0 < stepAt units := by
  rw [stepAt_eq]
  exact Nat.pow_pos (by decide)

theorem nearestUnits_one (units : Nat) :
    nearestUnits units 1 = roundHalfEven units (stepAt units) * stepAt units := by
  unfold nearestUnits
  dsimp only
  rw [Nat.div_one, Nat.one_mul]

theorem nearestUnits_le (units : Nat) : nearestUnits units 1 ≤ units + stepAt units := by
  rw [nearestUnits_one]
  have rounded := Nat.mul_le_mul_right (stepAt units) (roundHalfEven_le units (stepAt units))
  have whole := Nat.div_mul_le_self units (stepAt units)
  rw [Nat.add_mul, Nat.one_mul] at rounded
  omega

theorem pow_log2_le_nearestUnits {units : Nat} (large : 52 ≤ units.log2) :
    2 ^ units.log2 ≤ nearestUnits units 1 := by
  have nonzero : units ≠ 0 := by
    intro zero
    simp [zero] at large
  have leading : 2 ^ units.log2 = 2 ^ 52 * stepAt units := by
    rw [stepAt_eq, ← Nat.pow_add, Nat.add_sub_cancel' large]
  have digits : 2 ^ 52 ≤ units / stepAt units := by
    rw [Nat.le_div_iff_mul_le (stepAt_pos units), ← leading]
    exact Nat.log2_self_le nonzero
  rw [nearestUnits_one, leading]
  exact Nat.mul_le_mul_right _ (digits.trans (div_le_roundHalfEven units (stepAt units)))

theorem nearestUnits_lt_iff (units half : Nat) :
    nearestUnits units 1 < 2 ^ (half + 54) ↔ units + 2 ^ half < 2 ^ (half + 54) := by
  have top : 2 ^ (half + 54) = 2 * 2 ^ half * 2 ^ 53 := by ring
  have middle : 2 ^ (half + 53) = 2 ^ half * 2 ^ 53 := by ring
  have positive : 0 < 2 ^ half := Nat.pow_pos (by decide)
  rcases Nat.lt_or_ge units (2 ^ (half + 53)) with small | atLeast
  · -- The step is so small that neither side can fail.
    have step : stepAt units ≤ 2 ^ half := by
      rw [stepAt_eq]
      refine Nat.pow_le_pow_right (by decide) ?_
      have length : units.log2 < half + 53 := by
        by_cases zero : units = 0
        · simp [zero]
        · exact (Nat.log2_lt zero).mpr small
      omega
    have near := nearestUnits_le units
    omega
  · have nonzero : units ≠ 0 := by omega
    have length : half + 53 ≤ units.log2 := (Nat.le_log2 nonzero).mpr atLeast
    rcases Nat.lt_or_ge units (2 ^ (half + 54)) with inside | beyond
    · have exactLength : units.log2 = half + 53 :=
        (Nat.log2_eq_iff nonzero).mpr ⟨atLeast, inside⟩
      have step : stepAt units = 2 * 2 ^ half := by
        rw [stepAt_eq, exactLength, ← Nat.pow_succ']
        rfl
      rw [nearestUnits_one, step, top, Nat.mul_comm, Nat.mul_lt_mul_left (by omega)]
      exact roundHalfEven_lt_iff positive (by decide)
    · have longer : half + 54 ≤ units.log2 := (Nat.le_log2 nonzero).mpr beyond
      have leading := Nat.pow_le_pow_right (show 0 < 2 by decide) longer
      have near := pow_log2_le_nearestUnits (show 52 ≤ units.log2 by omega)
      omega

/-! ## Numbers that are not rounded -/

theorem nearestUnits_mul {units divisor : Nat} (positive : 0 < divisor)
    (onGrid : stepAt units ∣ units) : nearestUnits (units * divisor) divisor = units := by
  rcases onGrid with ⟨count, multiple⟩
  have quotient : units * divisor / divisor = units := Nat.mul_div_cancel _ positive
  have counted : units * divisor = count * (divisor * stepAt units) := by
    conv_lhs => rw [multiple]
    ring
  have rounded : roundHalfEven (units * divisor) (divisor * stepAt units) = count := by
    rw [counted]
    exact roundHalfEven_mul (Nat.mul_pos positive (stepAt_pos units)) count
  unfold nearestUnits
  dsimp only
  rw [quotient, rounded, Nat.mul_comm]
  exact multiple.symm

def FewBits (number : Nat) : Prop :=
  ∃ leading zeros, leading < 2 ^ 53 ∧ number = leading * 2 ^ zeros

theorem fewBits_of_lt {number : Nat} (small : number < 2 ^ 53) : FewBits number :=
  ⟨number, 0, small, by simp⟩

theorem FewBits.mul_two_pow {number : Nat} (few : FewBits number) (more : Nat) :
    FewBits (number * 2 ^ more) := by
  rcases few with ⟨leading, zeros, small, rfl⟩
  exact ⟨leading, zeros + more, small, by rw [Nat.mul_assoc, ← Nat.pow_add]⟩

theorem FewBits.stepAt_dvd {number : Nat} (few : FewBits number) : stepAt number ∣ number := by
  rcases few with ⟨leading, zeros, small, rfl⟩
  rw [stepAt_eq]
  refine Dvd.dvd.mul_left (Nat.pow_dvd_pow 2 ?_) leading
  rcases Nat.eq_zero_or_pos leading with rfl | positive
  · simp
  · have nonzero : leading * 2 ^ zeros ≠ 0 :=
      Nat.ne_of_gt (Nat.mul_pos positive (Nat.pow_pos (by decide)))
    have length : (leading * 2 ^ zeros).log2 < 53 + zeros := by
      rw [Nat.log2_lt nonzero, Nat.pow_add]
      exact Nat.mul_lt_mul_of_pos_right small (Nat.pow_pos (by decide))
    omega

/-! ## Integers -/

def integerLimit : Nat := 2 ^ 1024 - 2 ^ 970

theorem nearestUnits_scaled_lt_iff (magnitude : Nat) {low high exponent total : Nat}
    (highEq : high = low + 54) (totalEq : total = low + exponent + 54) :
    nearestUnits (magnitude * 2 ^ exponent) 1 < 2 ^ total ↔ magnitude < 2 ^ high - 2 ^ low := by
  rw [totalEq, nearestUnits_lt_iff, Nat.add_right_comm, ← highEq, Nat.pow_add, Nat.pow_add,
    ← Nat.add_mul, Nat.mul_lt_mul_right (Nat.pow_pos (by decide)), Nat.lt_sub_iff_add_lt]

theorem unitsPerOne_eq : unitsPerOne = 2 ^ 1074 := by
  unfold unitsPerOne
  generalize 1074 = exponent
  rfl

theorem unitsPerOne_pos : 0 < unitsPerOne := by
  rw [unitsPerOne_eq]
  generalize 1074 = exponent
  exact Nat.pow_pos (by decide)

theorem unitsLimit_eq : unitsLimit = 2 ^ 2098 := by
  unfold unitsLimit
  generalize 2098 = exponent
  rfl

theorem integerLimit_le : integerLimit ≤ unitsLimit := by
  have ordered (low middle high : Nat) (below : middle ≤ high) :
      2 ^ middle - 2 ^ low ≤ 2 ^ high :=
    Nat.le_trans (Nat.sub_le _ _) (Nat.pow_le_pow_right (by decide) below)
  rw [unitsLimit_eq, integerLimit]
  exact ordered 970 1024 2098 (by decide)

theorem FewBits.nearestUnits_whole {number divisor : Nat} (few : FewBits number)
    (positive : 0 < divisor) :
    nearestUnits (number * divisor * unitsPerOne) divisor = number * unitsPerOne := by
  have onGrid : stepAt (number * unitsPerOne) ∣ number * unitsPerOne := by
    rw [unitsPerOne_eq]
    generalize 1074 = exponent
    exact (few.mul_two_pow exponent).stepAt_dvd
  rw [Nat.mul_right_comm]
  exact nearestUnits_mul positive onGrid

theorem nearestUnits_integer_lt_iff (magnitude : Nat) :
    nearestUnits (magnitude * unitsPerOne) 1 < unitsLimit ↔ magnitude < integerLimit := by
  rw [unitsPerOne_eq, unitsLimit_eq, integerLimit]
  exact nearestUnits_scaled_lt_iff magnitude (by decide) (by decide)

theorem isSome_finite?_ofUnits (negative : Bool) (units : Nat) :
    (ofUnits negative units).finite?.isSome = true ↔ units < unitsLimit := by
  unfold ofUnits
  split
  · next fits => simp [finite?, isFinite, fits]
  · next tooLarge => simp [finite?, isFinite, tooLarge]

theorem isSome_ofInt?_iff (number : Int) :
    (ofInt? number).isSome = true ↔ number.natAbs < integerLimit := by
  rw [← nearestUnits_integer_lt_iff]
  unfold ofInt? ofRatio
  exact isSome_finite?_ofUnits _ _

theorem ofInt?_zero : ofInt? 0 = some (.finite false 0) := by
  decide +kernel

theorem eq_finite_of_ofInt? {number : Int} {double : Binary64} (found : ofInt? number = some double) :
    double = .finite (decide (number < 0)) (nearestUnits (number.natAbs * unitsPerOne) 1) := by
  unfold ofInt? ofRatio ofUnits finite? at found
  split at found
  · exact (Option.some.inj found).symm
  · cases found

theorem ofDecimal_of_ofInt? {number : Int} {double : Binary64}
    (found : ofInt? number = some double) :
    ofDecimal (decide (number < 0)) number.natAbs 0 = double := by
  by_cases zero : number = 0
  · cases zero
    cases ofInt?_zero.symm.trans found
    rfl
  · have positive : number.natAbs ≠ 0 := Int.natAbs_ne_zero.mpr zero
    have small : number.natAbs < integerLimit :=
      (isSome_ofInt?_iff number).mp (by rw [found]; rfl)
    have bitsBelow (low high : Nat) (below : number.natAbs < 2 ^ high - 2 ^ low) :
        number.natAbs.log2 < high :=
      (Nat.log2_lt positive).mpr (below.trans_le (Nat.sub_le _ _))
    have bits : number.natAbs.log2 < 1024 := bitsBelow 970 1024 small
    have nearest : ofRatio (decide (number < 0)) number.natAbs 1 = double := by
      unfold ofInt? finite? at found
      split at found
      · exact Option.some.inj found
      · cases found
    rw [← nearest, ofDecimal, if_neg positive, if_neg (by omega), if_neg (by omega),
      if_pos (Int.le_refl 0)]
    simp

end Binary64

end ThreatWatch
