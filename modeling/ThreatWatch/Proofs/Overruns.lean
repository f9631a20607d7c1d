import ThreatWatch.Event.Timestamp
import ThreatWatch.Proofs.Doubles
import ThreatWatch.Proofs.Reading

/-! Values that are no timestamps. A value is understood as a moment or refused for what it is,
except for numbers of seconds that no clock counts up to: with them the reading overruns, whether
they come as numbers or in a text. -/

namespace ThreatWatch

/-! ## Faults -/

namespace Fault

/-- Whether a fault says that a value of the right kind is not one that can be used. -/
def refusesValue : Fault → Bool
  | .unreadableCount | .tooManyDigits | .impossibleDate | .impossibleNumber | .yearOutOfRange
  | .undefinedNumber | .unrecognizedTimestamp _ | .invalidSeverity _ | .invalidSourceType _
  | .invalidCampaignType _ | .invalidStatus _ | .invalidStatusFilter _ | .settingNotPositive _ _
  | .settingsNotMapping _ _ | .incompatibleFlags | .malformedPath | .unknownLevel => true
  | _ => false

def tellsOverrun : Fault → Bool
  | .integerTooLarge | .epochOutOfReach | .yearBeyondClock => true
  | _ => false

theorem refusesValue_of_tellsOverrun {fault : Fault} (overruns : fault.tellsOverrun = true) :
    fault.refusesValue = false := by
  cases fault <;> first | rfl | cases overruns

end Fault

/-! ## Microseconds -/

namespace Binary64

theorem nearestUnits_le_div (numerator denominator : Nat) :
    nearestUnits numerator denominator ≤
      numerator / denominator + stepAt (numerator / denominator) := by
  have rounded := Nat.mul_le_mul_right (stepAt (numerator / denominator))
    (roundHalfEven_le numerator (denominator * stepAt (numerator / denominator)))
  have whole := Nat.div_mul_le_self (numerator / denominator) (stepAt (numerator / denominator))
  rw [Nat.div_div_eq_div_mul] at whole
  rw [Nat.add_mul, Nat.one_mul] at rounded
  unfold nearestUnits
  dsimp only
  omega

theorem stepAt_le (units : Nat) : stepAt units ≤ units + 1 := by
  rcases Nat.eq_zero_or_pos units with rfl | positive
  · decide
  · have leading := Nat.log2_self_le (Nat.ne_of_gt positive)
    have shorter : 2 ^ (units.log2 - 52) ≤ 2 ^ units.log2 :=
      Nat.pow_le_pow_right (by decide) (Nat.sub_le _ _)
    rw [stepAt_eq]
    omega

theorem ofInt_million : ofInt 1000000 = .finite false (1000000 * unitsPerOne) := by
  decide +kernel

theorem millions_le_unitsLimit : 2000001 * unitsPerOne ≤ unitsLimit := by
  have million : 2000001 ≤ 2 ^ 21 := by decide
  have ordered (low high total : Nat) (atLeast : 21 ≤ high) (same : total = low + high) :
      2000001 * 2 ^ low ≤ 2 ^ total := by
    rw [same, Nat.pow_add, Nat.mul_comm]
    exact Nat.mul_le_mul_left _ (million.trans (Nat.pow_le_pow_right (by decide) atLeast))
  rw [unitsPerOne_eq, unitsLimit_eq]
  exact ordered 1074 1024 2098 (by decide) (by decide)

theorem exists_round?_fraction (negative : Bool) (units : Nat) :
    ∃ part, ((fraction (.finite negative units)).multiply (ofInt 1000000)).round? = some part := by
  have positive := unitsPerOne_pos
  have room := millions_le_unitsLimit
  have left := Nat.mod_lt units positive
  rw [ofInt_million, fraction, multiply]
  generalize units % unitsPerOne = rest at left ⊢
  have quotient : rest * (1000000 * unitsPerOne) / unitsPerOne = rest * 1000000 := by
    rw [← Nat.mul_assoc, Nat.mul_div_cancel _ positive]
  have near := nearestUnits_le_div (rest * (1000000 * unitsPerOne)) unitsPerOne
  have step := stepAt_le (rest * 1000000)
  rw [quotient] at near
  have small : nearestUnits (rest * (1000000 * unitsPerOne)) unitsPerOne < unitsLimit := by omega
  rw [ofUnits, if_pos small]
  exact ⟨_, rfl⟩

end Binary64

/-! ## Numbers of seconds -/

namespace Timestamp

open Calendar (Moment)

/-- A number of seconds since 1970 is beyond the clock where it is infinite, or where the second
in which it lies, to the nearest microsecond, is none that the clock counts. -/
inductive IsBeyondClock : Binary64 → Prop where
  | infinite (negative : Bool) : IsBeyondClock (.infinite negative)
  | early {seconds : Binary64} {micros : Int} (told : wholeMicros seconds = .ok micros)
      (before : Int.fdiv micros 1000000 < firstClockSecond) : IsBeyondClock seconds
  | late {seconds : Binary64} {micros : Int} (told : wholeMicros seconds = .ok micros)
      (after : lastClockSecond < Int.fdiv micros 1000000) : IsBeyondClock seconds

/-- How a reading ends: with a moment that has an offset or a fault that refuses the value, and
beyond a bound with a fault that tells of an overrun. -/
inductive Ends (beyond : Prop) : Except Fault Moment → Prop where
  | understood {moment : Moment} (within : ¬beyond) (aware : moment.isAware = true) :
      Ends beyond (.ok moment)
  | refused {fault : Fault} (within : ¬beyond) (refuses : fault.refusesValue = true) :
      Ends beyond (.error fault)
  | overrun {fault : Fault} (outside : beyond) (overruns : fault.tellsOverrun = true) :
      Ends beyond (.error fault)

theorem Ends.of_iff {beyond outside : Prop} {outcome : Except Fault Moment}
    (ends : Ends beyond outcome) (same : outside ↔ beyond) : Ends outside outcome := by
  rwa [propext same]

theorem Ends.within_of_refuses {beyond : Prop} {fault : Fault} (ends : Ends beyond (.error fault))
    (refuses : fault.refusesValue = true) : ¬beyond := by
  cases ends with
  | refused within _ => exact within
  | overrun _ overruns =>
      rw [Fault.refusesValue_of_tellsOverrun overruns] at refuses
      cases refuses

theorem exists_wholeMicros (negative : Bool) (units : Nat) :
    ∃ micros, wholeMicros (.finite negative units) = .ok micros := by
  obtain ⟨part, rounded⟩ := Binary64.exists_round?_fraction negative units
  rw [wholeMicros, Binary64.truncate?, rounded]
  exact ⟨_, rfl⟩

theorem isBeyondClock_iff {seconds : Binary64} {micros : Int}
    (told : wholeMicros seconds = .ok micros) :
    IsBeyondClock seconds ↔
      Int.fdiv micros 1000000 < firstClockSecond ∨ lastClockSecond < Int.fdiv micros 1000000 := by
  constructor
  · intro beyond
    cases beyond with
    | infinite negative => cases told
    | early again before => exact .inl (Except.ok.inj (told.symm.trans again) ▸ before)
    | late again after => exact .inr (Except.ok.inj (told.symm.trans again) ▸ after)
  · rintro (before | after)
    · exact .early told before
    · exact .late told after

theorem isAware_of_ofWall? {wall : Int} {offset : Calendar.Offset} {moment : Moment}
    (told : Moment.ofWall? wall (some offset) = some moment) : moment.isAware = true := by
  rw [Moment.isAware, (Moment.ofWall?_eq_some told).2]
  rfl

theorem ends_ofSeconds (seconds : Binary64) : Ends (IsBeyondClock seconds) (ofSeconds seconds) := by
  cases seconds with
  | undefined =>
      refine .refused (fun beyond => ?_) rfl
      cases beyond with
      | early told | late told => cases told
  | infinite negative => exact .overrun (.infinite negative) rfl
  | finite negative units =>
      obtain ⟨micros, told⟩ := exists_wholeMicros negative units
      have beyond := isBeyondClock_iff told
      have clock : -0x8000000000000000 ≤ firstClockSecond ∧ lastClockSecond < 0x8000000000000000 :=
        by decide
      rw [ofSeconds, told]
      change Ends _ (if _ then _ else if _ then _ else _)
      split
      · next far => exact .overrun (beyond.mpr (by omega)) rfl
      · split
        · next outside => exact .overrun (beyond.mpr (by omega)) rfl
        · next inside =>
            have within : ¬IsBeyondClock (.finite negative units) := by
              rw [beyond]
              omega
            cases found : Moment.ofEpochMicros? micros with
            | some moment => exact .understood within (isAware_of_ofWall? found)
            | none => exact .refused within rfl

/-! ## Values -/

/-- The number in a value counts seconds, milliseconds or nanoseconds beyond the clock. In a text
only what is no date is taken for a number. -/
inductive CountsBeyondClock : Value → Prop where
  | tooLarge {number : Int} (huge : Binary64.integerLimit ≤ number.natAbs) :
      CountsBeyondClock (.int number)
  | integer {number : Int} {double : Binary64} (near : Binary64.ofInt? number = some double)
      (beyond : IsBeyondClock (inSeconds double)) : CountsBeyondClock (.int number)
  | float {double : Binary64} (beyond : IsBeyondClock (inSeconds double)) :
      CountsBeyondClock (.float double)
  | text {content : String} {double : Binary64}
      (noDate : Moment.read? (withOffset (Text.trim content)) = none)
      (numeral : Numeral.readDouble? (withOffset (Text.trim content)) = some double)
      (beyond : IsBeyondClock (inSeconds double)) : CountsBeyondClock (.text content)

variable {value : Value}

theorem ends_unrecognized {beyond : Prop} (within : ¬beyond) (value : Value) :
    Ends beyond (unrecognized value) := by
  unfold unrecognized
  cases shown : value.quoted with
  | ok text => exact .refused within rfl
  | error fault =>
      obtain ⟨_, rfl⟩ := Value.quoted_eq_error value fault shown
      exact .refused within rfl

theorem ends_ofInteger (number : Int) :
    Ends (CountsBeyondClock (.int number)) (ofInteger number) := by
  unfold ofInteger
  cases near : Binary64.ofInt? number with
  | none =>
      have huge : Binary64.integerLimit ≤ number.natAbs := by
        rw [← Nat.not_lt, ← Binary64.isSome_ofInt?_iff, near]
        exact Bool.false_ne_true
      exact .overrun (.tooLarge huge) rfl
  | some double =>
      refine (ends_ofSeconds (inSeconds double)).of_iff ⟨fun beyond => ?_, .integer near⟩
      cases beyond with
      | tooLarge huge =>
          rw [← Nat.not_lt, ← Binary64.isSome_ofInt?_iff, near] at huge
          exact absurd rfl huge
      | integer again beyond => exact Option.some.inj (near.symm.trans again) ▸ beyond

theorem ends_ofNumberText {content text : String} (value : Value)
    (numeral : CountsBeyondClock (.text content) ↔
      ∃ double, Numeral.readDouble? text = some double ∧ IsBeyondClock (inSeconds double)) :
    Ends (CountsBeyondClock (.text content)) (ofNumberText value text) := by
  unfold ofNumberText
  cases read : Numeral.readDouble? text with
  | none => exact ends_unrecognized (by simp [numeral, read]) value
  | some double =>
      have same : CountsBeyondClock (.text content) ↔ IsBeyondClock (inSeconds double) := by
        simp [numeral, read]
      have ends := (ends_ofSeconds (inSeconds double)).of_iff same
      dsimp only
      rw [ofNumber]
      split
      · next told =>
          rw [told] at ends
          exact ends_unrecognized (ends.within_of_refuses rfl) value
      · next told =>
          rw [told] at ends
          exact ends_unrecognized (ends.within_of_refuses rfl) value
      · exact ends

theorem isAware_assumeUtc (moment : Moment) : moment.assumeUtc.isAware = true :=
  rfl

theorem ends_ofText (value : Value) (content : String) :
    Ends (CountsBeyondClock (.text content)) (ofText value content) := by
  have nothing : Numeral.readDouble? (withOffset "") = none := by decide +kernel
  unfold ofText
  dsimp only
  split
  · next blank =>
      apply ends_unrecognized
      rintro (_ | _ | _ | ⟨_, numeral, _⟩)
      rw [blank, nothing] at numeral
      cases numeral
  · cases date : Moment.read? (withOffset (Text.trim content)) with
    | some moment =>
        refine .understood ?_ (isAware_assumeUtc moment)
        rintro (_ | _ | _ | ⟨noDate, _, _⟩)
        rw [date] at noDate
        cases noDate
    | none =>
        refine ends_ofNumberText value ⟨?_, fun ⟨_, numeral, beyond⟩ => .text date numeral beyond⟩
        rintro (_ | _ | _ | ⟨_, numeral, beyond⟩)
        exact ⟨_, numeral, beyond⟩

theorem ends_ofValue (value : Value) : Ends (CountsBeyondClock value) (ofValue value) := by
  cases value with
  | moment time => exact .understood nofun (isAware_assumeUtc time)
  | int number => exact ends_ofInteger number
  | float number =>
      refine (ends_ofSeconds (inSeconds number)).of_iff ⟨?_, .float⟩
      rintro (_ | _ | beyond | _)
      exact beyond
  | text content => exact ends_ofText (.text content) content
  | null | bool _ | bytes _ | date _ | list _ | tuple _ | set _ | map _ | sealed _ =>
      exact ends_unrecognized nofun _

/-- A value is understood as a moment with an offset, or refused for what it is, if and only if
it does not count beyond the clock. The fault of one that does tells of an overrun. -/
theorem understood_or_refused_iff (value : Value) :
    (((∃ moment, ofValue value = .ok moment ∧ moment.isAware = true) ∨
        ∃ fault, ofValue value = .error fault ∧ fault.refusesValue = true) ↔
      ¬CountsBeyondClock value) ∧
    (CountsBeyondClock value →
      ∃ fault, ofValue value = .error fault ∧ fault.tellsOverrun = true) := by
  have ends := ends_ofValue value
  generalize ofValue value = outcome at ends ⊢
  cases ends with
  | @understood moment within aware =>
      exact ⟨iff_of_true (.inl ⟨moment, rfl, aware⟩) within, fun beyond => absurd beyond within⟩
  | @refused fault within refuses =>
      exact ⟨iff_of_true (.inr ⟨fault, rfl, refuses⟩) within, fun beyond => absurd beyond within⟩
  | @overrun fault beyond overruns =>
      refine ⟨iff_of_false ?_ (not_not.mpr beyond), fun _ => ⟨fault, rfl, overruns⟩⟩
      rintro (⟨moment, told, _⟩ | ⟨other, told, refuses⟩)
      · cases told
      · cases told
        rw [Fault.refusesValue_of_tellsOverrun overruns] at refuses
        cases refuses

/-- An infinite number of seconds is beyond the clock, whose fault tells of an overrun. -/
theorem infinite_number_overruns :
    ∃ fault, ofValue (.float (.infinite true)) = .error fault ∧ fault.tellsOverrun = true := by
  have beyond : IsBeyondClock (inSeconds (.infinite true)) := by
    have same : inSeconds (.infinite true) = .infinite true := by decide +kernel
    rw [same]
    exact .infinite true
  exact (understood_or_refused_iff (.float (.infinite true))).2 (.float beyond)

/-- The name of the infinite number is a text that is neither understood nor refused. -/
theorem infinite_text_overruns :
    ∃ fault, ofValue (.text "inf") = .error fault ∧ fault.refusesValue = false := by
  have told : ofValue (.text "inf") = .error .epochOutOfReach := by decide +kernel
  exact ⟨_, told, rfl⟩

end Timestamp

end ThreatWatch
