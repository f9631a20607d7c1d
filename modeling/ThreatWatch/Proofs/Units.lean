import ThreatWatch.Proofs.Overruns

/-! Epoch numbers in their three units. A number that is a double of at most 53 significant
bits times a power of two is not rounded, and neither is its quotient by a divisor that leaves
such a number. The seconds of this age, their milliseconds and their nanoseconds are all of
that kind and lie in ranges apart, so that they tell the same moment. -/

namespace ThreatWatch

namespace Binary64

/-! ## Whole numbers -/

def whole (number : Nat) : Binary64 :=
  .finite false (number * unitsPerOne)

theorem mul_unitsPerOne_lt {number : Nat} (small : number < 2 ^ 64) :
    number * unitsPerOne < unitsLimit := by
  have ordered (low middle high : Nat) (same : high = middle + low) (large : 64 ≤ middle) :
      number * 2 ^ low < 2 ^ high := by
    rw [same, Nat.pow_add]
    refine Nat.mul_lt_mul_of_pos_right (small.trans_le ?_) (Nat.pow_pos (by decide))
    exact Nat.pow_le_pow_right (by decide) large
  rw [unitsPerOne_eq, unitsLimit_eq]
  exact ordered 1074 1024 2098 (by decide) (by decide)

theorem FewBits.ofInt?_eq {number : Nat} (few : FewBits number) (small : number < 2 ^ 64) :
    ofInt? number = some (whole number) := by
  have exactly := few.nearestUnits_whole Nat.one_pos
  rw [Nat.mul_one] at exactly
  unfold ofInt? ofRatio ofUnits
  rw [decide_eq_false (by omega : ¬(number : Int) < 0), Int.natAbs_natCast, exactly,
    if_pos (mul_unitsPerOne_lt small)]
  rfl

theorem FewBits.divideBy_whole {number divisor : Nat} (few : FewBits number)
    (small : number < 2 ^ 64) (positive : 0 < divisor) :
    (whole (number * divisor)).divideBy divisor = whole number := by
  unfold whole divideBy ofUnits
  dsimp only
  rw [few.nearestUnits_whole positive, if_pos (mul_unitsPerOne_lt small)]

theorem lessThan_whole (first second : Nat) :
    (whole first).lessThan (whole second) = decide (first < second) := by
  unfold whole lessThan rank? withSign
  dsimp only
  refine decide_eq_decide.mpr ?_
  rw [if_neg Bool.false_ne_true, if_neg Bool.false_ne_true, Int.ofNat_lt]
  exact Nat.mul_lt_mul_right unitsPerOne_pos

end Binary64

/-! ## Epoch numbers -/

namespace Calendar.Moment

theorem epochWall_lt : epochWall < wallLimit := by
  decide

def epoch : Moment :=
  ⟨epochWall, epochWall_lt, some Offset.utc⟩

example : epoch.iso = "1970-01-01T00:00:00+00:00" := by decide +kernel

theorem exists_ofEpochMicros? {seconds : Nat} (small : seconds < 4000000000) :
    ∃ moment, ofEpochMicros? ((seconds : Int) * 1000000) = some moment ∧
      moment.offset = some Offset.utc ∧ moment.wall = epochWall + seconds * microsPerSecond := by
  have wall : (epochWall : Int) + (seconds : Int) * 1000000 =
      ((epochWall + seconds * microsPerSecond : Nat) : Int) := by
    push_cast
    rfl
  have reached : epochWall + seconds * microsPerSecond < wallLimit := by
    unfold epochWall wallLimit dayLimit microsPerDay microsPerHour microsPerMinute microsPerSecond
    omega
  refine ⟨⟨_, reached, some Offset.utc⟩, ?_, rfl, rfl⟩
  rw [ofEpochMicros?, ofWall?, wall, dif_pos ⟨Int.natCast_nonneg _, by rwa [Int.toNat_natCast]⟩]
  simp only [Int.toNat_natCast]

theorem micro_eq_zero {moment : Moment} {seconds : Nat}
    (wall : moment.wall = epochWall + seconds * microsPerSecond) : moment.time.micro = 0 := by
  have days : microsPerDay = 86400 * microsPerSecond := by decide
  have start : epochWall = 719162 * 86400 * microsPerSecond := by decide
  change moment.wall % microsPerDay % microsPerSecond = 0
  rw [wall, days, start, ← Nat.add_mul, Nat.mul_mod_mul_right, Nat.mul_mod_left]

end Calendar.Moment

namespace Timestamp

open Binary64 (whole)
open Calendar (Moment Offset microsPerSecond)

theorem nanosecondsAbove_eq : nanosecondsAbove = whole 100000000000000000 := by
  decide +kernel

theorem millisecondsAbove_eq : millisecondsAbove = whole 100000000000 := by
  decide +kernel

theorem inSeconds_whole (number : Nat) :
    inSeconds (whole number) =
      if 100000000000000000 < number then (whole number).divideBy 1000000000
      else if 100000000000 < number then (whole number).divideBy 1000
      else whole number := by
  rw [inSeconds, nanosecondsAbove_eq, millisecondsAbove_eq, Binary64.lessThan_whole,
    Binary64.lessThan_whole]
  simp only [decide_eq_true_eq]

theorem wholeMicros_whole (seconds : Nat) :
    wholeMicros (whole seconds) = .ok (seconds * 1000000) := by
  have rest : (((whole seconds).fraction).multiply (Binary64.ofInt 1000000)).round? = some 0 := by
    rw [whole, Binary64.fraction, Nat.mul_mod_left]
    decide +kernel
  have integer : (whole seconds).truncate? = some (seconds : Int) := by
    rw [whole, Binary64.truncate?, Nat.mul_div_cancel _ Binary64.unitsPerOne_pos]
    rfl
  rw [wholeMicros, integer, rest]
  simp

theorem ofSeconds_eq_ok {seconds : Binary64} {micros : Int} {moment : Moment}
    (told : wholeMicros seconds = .ok micros)
    (after : firstClockSecond ≤ Int.fdiv micros 1000000)
    (before : Int.fdiv micros 1000000 ≤ lastClockSecond)
    (found : Moment.ofEpochMicros? micros = some moment) : ofSeconds seconds = .ok moment := by
  have clock : -0x8000000000000000 ≤ firstClockSecond ∧ lastClockSecond < 0x8000000000000000 := by
    decide
  simp only [ofSeconds, told, bind, Except.bind]
  rw [if_neg (by omega), if_neg (by omega), found]

theorem exists_ofSeconds_whole {seconds : Nat} (small : seconds < 4000000000) :
    ∃ moment, ofSeconds (whole seconds) = .ok moment ∧ moment.offset = some Offset.utc ∧
      moment.wall = Moment.epochWall + seconds * microsPerSecond := by
  have second : Int.fdiv ((seconds : Int) * 1000000) 1000000 = seconds :=
    Int.mul_fdiv_cancel _ (by decide)
  have clock : firstClockSecond ≤ 0 ∧ (4000000000 : Int) ≤ lastClockSecond := by decide
  rcases Moment.exists_ofEpochMicros? small with ⟨moment, found, utc, wall⟩
  exact ⟨moment, ofSeconds_eq_ok (wholeMicros_whole seconds) (by omega) (by omega) found, utc, wall⟩

theorem ofValue_whole {number : Nat} (few : Binary64.FewBits number) (small : number < 2 ^ 64) :
    ofValue (.int number) = ofSeconds (inSeconds (whole number)) := by
  rw [ofValue, ofInteger, few.ofInt?_eq small, Option.elim_some, ofNumber]

theorem inSeconds_of_age {seconds : Nat} (late : 100000000 < seconds)
    (early : seconds < 4000000000) :
    inSeconds (whole seconds) = whole seconds ∧
      inSeconds (whole (seconds * 1000)) = whole seconds ∧
      inSeconds (whole (seconds * 1000000000)) = whole seconds := by
  have few : Binary64.FewBits seconds := Binary64.fewBits_of_lt (by omega)
  refine ⟨?_, ?_, ?_⟩
  · rw [inSeconds_whole, if_neg (by omega), if_neg (by omega)]
  · rw [inSeconds_whole, if_neg (by omega), if_pos (by omega)]
    exact few.divideBy_whole (by omega) (by decide)
  · rw [inSeconds_whole, if_pos (by omega)]
    exact few.divideBy_whole (by omega) (by decide)

/-- The seconds between 1973 and 2096, their milliseconds and their nanoseconds tell the same
universal moment, which is as many seconds past the epoch. -/
theorem units_tell_one_moment {seconds : Int} (late : 100000000 < seconds)
    (early : seconds < 4000000000) :
    ∃ moment, ofValue (.int seconds) = .ok moment ∧
      ofValue (.int (1000 * seconds)) = .ok moment ∧
      ofValue (.int (1000000000 * seconds)) = .ok moment ∧
      moment.offset = some Offset.utc ∧
      moment.instant = Moment.epoch.instant + seconds * microsPerSecond ∧
      moment.time.micro = 0 := by
  rcases Int.eq_ofNat_of_zero_le (show 0 ≤ seconds by omega) with ⟨count, rfl⟩
  have fewSeconds : Binary64.FewBits count := Binary64.fewBits_of_lt (by omega)
  have fewMillis : Binary64.FewBits (count * 1000) := Binary64.fewBits_of_lt (by omega)
  -- a thousand million is 5 ^ 9 times 2 ^ 9
  have fewNanos : Binary64.FewBits (count * 1000000000) := by
    have odd := Binary64.fewBits_of_lt (show count * 1953125 < 2 ^ 53 by omega)
    have even := odd.mul_two_pow 9
    rwa [Nat.mul_assoc] at even
  have inUnits := inSeconds_of_age (show 100000000 < count by omega) (by omega)
  rcases exists_ofSeconds_whole (show count < 4000000000 by omega) with ⟨moment, told, utc, wall⟩
  have instant : moment.instant = moment.wall := by
    simp [Moment.instant, utc, Offset.utc]
  refine ⟨moment, ?_, ?_, ?_, utc, ?_, ?_⟩
  · rw [ofValue_whole fewSeconds (by omega), inUnits.1, told]
  · have millis : (1000 * (count : Int)) = ((count * 1000 : Nat) : Int) := by push_cast; ring
    rw [millis, ofValue_whole fewMillis (by omega), inUnits.2.1, told]
  · have nanos : (1000000000 * (count : Int)) = ((count * 1000000000 : Nat) : Int) := by
      push_cast
      ring
    rw [nanos, ofValue_whole fewNanos (by omega), inUnits.2.2, told]
  · have start : Moment.epoch.instant = Moment.epochWall := by decide
    rw [instant, wall, start]
    push_cast
    rfl
  · exact Moment.micro_eq_zero wall

theorem first_of_may_in_three_units :
    ∃ moment, ofValue (.int 1714557600) = .ok moment ∧
      ofValue (.int (1000 * 1714557600)) = .ok moment ∧
      ofValue (.int (1000000000 * 1714557600)) = .ok moment ∧
      moment.iso = "2024-05-01T10:00:00+00:00" := by
  rcases @units_tell_one_moment 1714557600 (by decide) (by decide) with
    ⟨moment, seconds, millis, nanos, _⟩
  have told : ofValue (.int 1714557600) =
      .ok ⟨63850154400000000, by decide, some Offset.utc⟩ := by decide +kernel
  cases told.symm.trans seconds
  exact ⟨_, seconds, millis, nanos, by decide +kernel⟩

end Timestamp

end ThreatWatch
