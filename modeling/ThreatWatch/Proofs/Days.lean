import ThreatWatch.Calendar.Moment

/-! Dates and times of day against the numbers that they count. A day has the number that its
year, month and day of the month tell, and the microseconds of a day are those that its hours,
minutes and seconds tell, so that a reading of a wall clock is rebuilt from its parts. -/

namespace ThreatWatch.Calendar

/-! ## Months of a year -/

theorem daysBeforeMonth_succ (year : Nat) {month : Nat} (first : 1 ≤ month) :
    daysBeforeMonth year (month + 1) = daysBeforeMonth year month + daysInMonth year month := by
  cases month with
  | zero => contradiction
  | succ month => rfl

theorem daysBeforeMonth_thirteen (year : Nat) :
    daysBeforeMonth year 13 = if isLeap year then 366 else 365 := by
  simp only [daysBeforeMonth, daysInMonth]
  split <;> rfl

theorem daysBeforeYear_succ {year : Nat} (first : 1 ≤ year) :
    daysBeforeYear (year + 1) = daysBeforeYear year + daysBeforeMonth year 13 := by
  obtain ⟨before, rfl⟩ := Nat.exists_eq_add_of_le' first
  have leap : isLeap (before + 1) = true ↔
      4 ∣ before + 1 ∧ (¬100 ∣ before + 1 ∨ 400 ∣ before + 1) := by
    simp [isLeap, Nat.dvd_iff_mod_eq_zero]
  have centuries : before / 100 ≤ before / 4 := Nat.div_le_div_left (by decide) (by decide)
  have century : 100 ∣ before + 1 → 4 ∣ before + 1 := Nat.dvd_trans (by decide)
  have cycle : 400 ∣ before + 1 → 100 ∣ before + 1 := Nat.dvd_trans (by decide)
  rw [daysBeforeMonth_thirteen]
  simp only [leap, daysBeforeYear, Nat.add_sub_cancel, Nat.succ_div]
  generalize before / 4 = fourths, before / 100 = hundreds, before / 400 = cycles at centuries ⊢
  by_cases isFourth : 4 ∣ before + 1
  · by_cases isCentury : 100 ∣ before + 1
    · by_cases isCycle : 400 ∣ before + 1
      all_goals simp [isFourth, isCentury, isCycle]
      all_goals omega
    · simp [isFourth, isCentury, mt cycle isCentury]
      omega
  · simp [isFourth, mt century isFourth, mt cycle (mt century isFourth)]
    omega

theorem monthOf_spec (year dayOfYear : Nat) {last : Nat} (first : 1 ≤ last) :
    1 ≤ monthOf year dayOfYear last ∧ monthOf year dayOfYear last ≤ last ∧
      daysBeforeMonth year (monthOf year dayOfYear last) ≤ dayOfYear ∧
      (monthOf year dayOfYear last = last ∨
        dayOfYear < daysBeforeMonth year (monthOf year dayOfYear last + 1)) := by
  -- The search counts the months down, and a month that it passes has not begun.
  induction last with
  | zero => contradiction
  | succ month induction =>
      unfold monthOf
      split
      · next begun => exact ⟨first, Nat.le_refl _, begun, .inl rfl⟩
      · next later =>
          have earlier : 1 ≤ month := by
            cases month with
            | zero => exact absurd (Nat.zero_le _) later
            | succ month => exact Nat.succ_pos _
          obtain ⟨positive, atMost, begun, ends⟩ := induction earlier
          refine ⟨positive, Nat.le_succ_of_le atMost, begun, .inr ?_⟩
          rcases ends with isLast | before
          · rw [isLast]
            exact Nat.lt_of_not_le later
          · exact before

/-! ## Days -/

theorem one_le_yearOf (number : Nat) : 1 ≤ yearOf number :=
  le_yearOf_iff.mpr (Nat.zero_le number)

theorem yearOf_le {number : Nat} (inRange : number < dayLimit) : yearOf number ≤ 9999 := by
  have limit : daysBeforeYear 10000 = dayLimit := by decide
  refine Nat.le_of_not_lt fun beyond => ?_
  have passed := le_yearOf_iff.mp (show 10000 ≤ yearOf number from beyond)
  omega

theorem civilOf_spec (number : Nat) :
    (1 ≤ (civilOf number).month ∧ (civilOf number).month ≤ 12) ∧
      1 ≤ (civilOf number).day ∧
      (civilOf number).day ≤ daysInMonth (civilOf number).year (civilOf number).month ∧
      (civilOf number).dayNumber = number := by
  have begun := daysBeforeYear_yearOf_le number
  have ends := lt_daysBeforeYear_yearOf number
  rw [daysBeforeYear_succ (one_le_yearOf number)] at ends
  unfold Civil.dayNumber civilOf
  dsimp only
  generalize yearOf number = year at begun ends ⊢
  obtain ⟨first, last, monthBegun, monthEnds⟩ :=
    monthOf_spec year (number - daysBeforeYear year) (show 1 ≤ 12 by decide)
  generalize monthOf year (number - daysBeforeYear year) 12 = month at *
  have before : number - daysBeforeYear year < daysBeforeMonth year (month + 1) := by
    rcases monthEnds with rfl | before
    · exact Nat.sub_lt_left_of_lt_add begun ends
    · exact before
  rw [daysBeforeMonth_succ year first] at before
  omega

theorem isValid_civilOf {number : Nat} (inRange : number < dayLimit) :
    (civilOf number).IsValid := by
  obtain ⟨month, first, last, _⟩ := civilOf_spec number
  exact ⟨one_le_yearOf number, yearOf_le inRange, month.1, month.2, first, last⟩

theorem Date.ofCivil?_civil (date : Date) : Date.ofCivil? date.civil = some date := by
  have inRange := date.inRange
  obtain ⟨_, _, _, same⟩ := civilOf_spec date.number
  rw [Date.ofCivil?, Date.civil, if_pos (isValid_civilOf inRange), same, Date.ofNumber?,
    dif_pos ⟨Int.natCast_nonneg _, inRange⟩]
  rfl

/-! ## Times of day -/

namespace TimeOfDay

variable {micros : Nat}

theorem isValid_ofMicros (inDay : micros < microsPerDay) : (ofMicros micros).IsValid := by
  unfold microsPerDay at inDay
  refine ⟨Nat.div_lt_of_lt_mul (by rwa [Nat.mul_comm]), ?_⟩
  refine ⟨Nat.mod_lt _ (by decide), Nat.mod_lt _ (by decide), Nat.mod_lt _ (by decide)⟩

theorem micros_ofMicros (micros : Nat) : (ofMicros micros).micros = micros := by
  unfold TimeOfDay.micros ofMicros microsPerHour microsPerMinute microsPerSecond
  dsimp only
  omega

end TimeOfDay

/-! ## Readings of a wall clock -/

theorem Moment.time_isValid (moment : Moment) : moment.time.IsValid :=
  TimeOfDay.isValid_ofMicros (Nat.mod_lt _ (by decide))

theorem Moment.ofParts?_date_time (moment : Moment) (offset : Option Offset) :
    Moment.ofParts? moment.date moment.time offset = some { moment with offset } := by
  have whole : moment.date.number * microsPerDay + moment.time.micros = moment.wall := by
    rw [Moment.time, TimeOfDay.micros_ofMicros]
    exact Nat.div_add_mod' moment.wall microsPerDay
  rw [Moment.ofParts?, if_pos moment.time_isValid, whole, Moment.ofWall?,
    dif_pos ⟨Int.natCast_nonneg _, moment.inRange⟩]
  rfl

end ThreatWatch.Calendar
