import ThreatWatch.Proofs.Completion
import ThreatWatch.Proofs.Reading

/-! Settings that are accepted, and the scans that are made with them. A setting is
accepted when it is not zero or below, which is true of every number above zero and also
of the undefined one. It is left to the scan to make a length of time out of hours and
minutes, and not every number above zero is one. -/

namespace ThreatWatch

/-! ## Amounts above zero -/

namespace Amount

variable {amount : Amount}

def IsPositive (amount : Amount) : Prop :=
  amount.compareInt? 0 = some .gt

instance (amount : Amount) : Decidable amount.IsPositive :=
  inferInstanceAs (Decidable (_ = _))

theorem compareInt?_eq_none_iff (integer : Int) :
    amount.compareInt? integer = none ↔ amount = .real .undefined := by
  cases amount with
  | whole number => exact iff_of_false (Option.some_ne_none _) (by simp)
  | real number =>
      cases number with
      | finite negative units => exact iff_of_false (Option.some_ne_none _) (by simp)
      | infinite negative => exact iff_of_false (Option.some_ne_none _) (by simp)
      | undefined => exact iff_of_true rfl rfl

theorem atMostZero_eq_false_iff :
    amount.atMostZero = false ↔ amount.IsPositive ∨ amount = .real .undefined := by
  rw [← compareInt?_eq_none_iff 0, IsPositive, atMostZero]
  cases amount.compareInt? 0 with
  | none => simp
  | some order => cases order <;> simp

end Amount

/-! ## Lengths of time -/

namespace Binary64

theorem ofInt_natCast (number : Nat) :
    ofInt number = ofUnits false (nearestUnits (number * unitsPerOne) 1) := by
  rw [ofInt, ofRatio, decide_eq_false (by omega), Int.natAbs_natCast]

theorem signedUnits?_ofUnits_nonneg (units : Nat) :
    0 ≤ (ofUnits false units).signedUnits?.getD 0 := by
  by_cases small : units < unitsLimit
  · rw [ofUnits, if_pos small]
    simp [signedUnits?]
  · rw [ofUnits, if_neg small]
    simp [signedUnits?]

theorem signedUnits?_multiply_nonneg (first second : Nat) :
    0 ≤ ((ofUnits false first).multiply (.finite false second)).signedUnits?.getD 0 := by
  by_cases small : first < unitsLimit
  · rw [ofUnits, if_pos small]
    exact signedUnits?_ofUnits_nonneg _
  · rw [ofUnits, if_neg small, multiply]
    split <;> simp [signedUnits?]

end Binary64

namespace Calendar

theorem nearestWhole_nonneg {units : Int} (nonneg : 0 ≤ units) : 0 ≤ nearestWhole units := by
  rw [nearestWhole, decide_eq_false (by omega)]
  exact Int.natCast_nonneg _

theorem eq_of_boundedSpan {micros span : Int} (told : boundedSpan micros = .ok span) :
    micros = span := by
  unfold boundedSpan at told
  split at told
  · exact Except.ok.inj told
  · cases told

theorem spanOf_nonneg {unit : Nat} {amount : Amount} {span : Int}
    (accepted : amount.atMostZero = false) (told : spanOf unit amount = .ok span) : 0 ≤ span := by
  have defined : amount ≠ .real .undefined := by
    rintro rfl
    cases told
  have positive := (Amount.atMostZero_eq_false_iff.mp accepted).resolve_right defined
  cases amount with
  | whole number =>
      have above : 0 < number := Int.compare_eq_gt.mp (Option.some.inj positive)
      rw [← eq_of_boundedSpan told]
      exact Int.mul_nonneg (by omega) (Int.natCast_nonneg _)
  | real number =>
      cases number with
      | undefined => cases told
      | infinite negative => cases told
      | finite negative units =>
          cases negative with
          | true =>
              have above : 0 * (Binary64.unitsPerOne : Int) < -(units : Int) :=
                Int.compare_eq_gt.mp (Option.some.inj positive)
              omega
          | false =>
              rw [← eq_of_boundedSpan told]
              refine nearestWhole_nonneg (Int.add_nonneg ?_ ?_)
              · exact Int.mul_nonneg (Int.mul_nonneg (Int.natCast_nonneg _) (Int.natCast_nonneg _))
                  (Int.natCast_nonneg _)
              · rw [Binary64.ofInt_natCast]
                exact Binary64.signedUnits?_multiply_nonneg _ _

/-! ## Clock readings -/

namespace Moment

variable {moment : Moment}

theorem le_year_iff {year : Nat} :
    year ≤ moment.civil.year ↔ daysBeforeYear year * microsPerDay ≤ moment.wall :=
  le_yearOf_iff.trans (Nat.le_div_iff_mul_le (by decide))

theorem epochWall_le (from1970 : 1970 ≤ moment.civil.year) : epochWall ≤ moment.wall := by
  have days : daysBeforeYear 1970 = 719162 := by decide
  rwa [le_year_iff, days] at from1970

theorem wall_lt (until2100 : moment.civil.year ≤ 2100) :
    moment.wall < daysBeforeYear 2101 * microsPerDay := by
  rw [← Nat.not_le, ← le_year_iff]
  omega

theorem lt_instant_add (moment : Moment) :
    (moment.wall : Int) < moment.instant + microsPerDay ∧
      moment.instant < moment.wall + microsPerDay := by
  unfold instant
  cases moment.offset with
  | none => simp [microsPerDay, microsPerHour, microsPerMinute, microsPerSecond]
  | some offset =>
      have bounded := offset.bounded
      simp only [Option.map_some, Option.getD_some]
      omega

theorem instant_lt (until2100 : moment.civil.year ≤ 2100) : moment.instant < wallLimit := by
  have early : daysBeforeYear 2101 * microsPerDay + microsPerDay ≤ wallLimit := by decide
  have wall := wall_lt until2100
  have near := moment.lt_instant_add
  omega

theorem exists_add?_neg_iff {span : Int} (nonneg : 0 ≤ span)
    (until2100 : moment.civil.year ≤ 2100) :
    (∃ earlier, moment.add? (-span) = some earlier ∧ earlier.HasUtc) ↔
      span ≤ moment.wall ∧ span ≤ moment.instant := by
  have early : daysBeforeYear 2101 * microsPerDay + microsPerDay ≤ wallLimit := by decide
  have wall := wall_lt until2100
  have below := instant_lt until2100
  constructor
  · rintro ⟨earlier, told, reached⟩
    have notBefore := (ofWall?_eq_some told).1
    rw [HasUtc, add?_eq_some told] at reached
    omega
  · rintro ⟨onClock, onUtc⟩
    have bounds : 0 ≤ (moment.wall : Int) + -span ∧
        ((moment.wall : Int) + -span).toNat < wallLimit := by omega
    have told : moment.add? (-span) = some ⟨_, bounds.2, moment.offset⟩ := dif_pos bounds
    refine ⟨_, told, ?_⟩
    rw [HasUtc, add?_eq_some told]
    omega

end Moment

end Calendar

/-! ## Scans -/

/-- A scan can tell its times: the hours are a length of time that does not lead out of the
calendar, and the minutes are a length of time where an address has enough threats for a
campaign. -/
def CorrelationSettings.IsUsable (settings : CorrelationSettings) (store : Store)
    (now : Calendar.Moment) : Prop :=
  ∃ span, Calendar.spanOf Calendar.microsPerHour settings.scanHours = .ok span ∧
    span ≤ now.wall ∧ span ≤ now.instant ∧
    ((∃ length, Calendar.spanOf Calendar.microsPerMinute settings.windowMinutes = .ok length) ∨
      settings.AreFew (store.awaiting (now.instant - span)))

theorem Correlator.scan_completes_iff {correlator : Correlator} {surroundings : Surroundings}
    {now : Calendar.Moment} (free : correlator.scanning = false)
    (clear : ∀ calls, surroundings.obstacle calls = none)
    (recorded : correlator.store.IsRecorded)
    (accepted : correlator.settings.scanHours.atMostZero = false)
    (until2100 : now.civil.year ≤ 2100) :
    (∃ report, (correlator.scan surroundings now).1 = .ok report) ↔
      correlator.settings.IsUsable correlator.store now := by
  rw [exists_scan_iff free clear recorded, Scan.exists_findings_iff recorded]
  constructor
  · rintro ⟨_, since, horizonTold, reached, measured⟩
    rcases Scan.horizon_eq_ok_iff.mp horizonTold with ⟨span, isSpan, earlier⟩
    have nonneg := Calendar.spanOf_nonneg accepted isSpan
    rcases (Calendar.Moment.exists_add?_neg_iff nonneg until2100).mp ⟨since, earlier, reached⟩ with
      ⟨onClock, onUtc⟩
    have instant := Calendar.Moment.add?_eq_some earlier
    rw [instant, ← Int.sub_eq_add_neg] at measured
    exact ⟨span, isSpan, onClock, onUtc, measured⟩
  · rintro ⟨span, isSpan, onClock, onUtc, measured⟩
    have nonneg := Calendar.spanOf_nonneg accepted isSpan
    rcases (Calendar.Moment.exists_add?_neg_iff nonneg until2100).mpr ⟨onClock, onUtc⟩ with
      ⟨since, earlier, reached⟩
    refine ⟨⟨nonneg.trans onUtc, now.instant_lt until2100⟩, since,
      Scan.horizon_eq_ok_iff.mpr ⟨span, isSpan, earlier⟩, reached, ?_⟩
    rwa [Calendar.Moment.add?_eq_some earlier, ← Int.sub_eq_add_neg]

theorem CorrelationSettings.isUsable_of_le {settings : CorrelationSettings} {span length : Int}
    (isSpan : Calendar.spanOf Calendar.microsPerHour settings.scanHours = .ok span)
    (atMost : span ≤ 719161 * Calendar.microsPerDay)
    (isLength : Calendar.spanOf Calendar.microsPerMinute settings.windowMinutes = .ok length)
    (store : Store) {now : Calendar.Moment} (from1970 : 1970 ≤ now.civil.year) :
    settings.IsUsable store now := by
  have reached := now.epochWall_le from1970
  have near := now.lt_instant_add
  have days : (Calendar.Moment.epochWall : Int) = 719162 * Calendar.microsPerDay := rfl
  exact ⟨span, isSpan, by omega, by omega, .inl ⟨length, isLength⟩⟩

/-! ## Settings -/

/-- The settings of the correlation. -/
inductive Setting where
  | windowMinutes
  | leastEvents
  | leastAddresses
  | scanHours
  deriving DecidableEq, Repr

def Setting.name : Setting → String
  | .windowMinutes => "time_window_minutes"
  | .leastEvents => "min_events_for_campaign"
  | .leastAddresses => "min_ips_for_pattern_campaign"
  | .scanHours => "scan_window_hours"

/-- The value can be given for a setting: nothing, a number above zero or the undefined
number. -/
def Value.IsAcceptable (value : Value) : Prop :=
  value = .null ∨
    ∃ amount, value.amount? = some amount ∧ (amount.IsPositive ∨ amount = .real .undefined)

namespace CorrelationSettings

def amount (settings : CorrelationSettings) : Setting → Amount
  | .windowMinutes => settings.windowMinutes
  | .leastEvents => settings.leastEvents
  | .leastAddresses => settings.leastAddresses
  | .scanHours => settings.scanHours

variable {entries : List (Value × Value)} {settings : CorrelationSettings} {fault : Fault}

/-! ## One setting -/

/-- What is read for a setting from the value that a mapping gives for it. -/
inductive Reads (setting : String) (fallback : Amount) : Value → Except Fault Amount → Prop where
  | missing : Reads setting fallback .null (.ok fallback)
  | taken {value : Value} {amount : Amount} (given : value.amount? = some amount)
      (accepted : amount.atMostZero = false) : Reads setting fallback value (.ok amount)
  | refused {value : Value} {shown : String} (unacceptable : ¬value.IsAcceptable)
      (written : value.quoted = .ok shown) :
      Reads setting fallback value (.error (.settingNotPositive setting shown))
  | unwritable {value : Value} (unacceptable : ¬value.IsAcceptable) (long : value.HoldsLong) :
      Reads setting fallback value (.error .tooManyDigits)

theorem Reads.of_unacceptable {setting : String} {fallback : Amount} {value : Value}
    (unacceptable : ¬value.IsAcceptable) :
    Reads setting fallback value (do .error (.settingNotPositive setting (← value.quoted))) := by
  cases written : value.quoted with
  | ok shown => exact .refused unacceptable written
  | error fault =>
      rcases Value.quoted_eq_error value fault written with ⟨long, rfl⟩
      exact .unwritable unacceptable long

theorem reads_readAmount (entries : List (Value × Value)) (setting : String)
    (fallback : Amount) :
    Reads setting fallback (Value.entry entries setting) (readAmount entries setting fallback) := by
  unfold readAmount
  split
  · next missing =>
      rw [missing]
      exact .missing
  · next given =>
      split
      · next amount told =>
          split
          · next atMost =>
              refine .of_unacceptable ?_
              rintro (missing | ⟨own, isOwn, accepted⟩)
              · exact given missing
              · cases told.symm.trans isOwn
                rw [← Amount.atMostZero_eq_false_iff, atMost] at accepted
                cases accepted
          · next accepted => exact .taken told (Bool.eq_false_iff.mpr accepted)
      · next told =>
          refine .of_unacceptable ?_
          rintro (missing | ⟨own, isOwn, _⟩)
          · exact given missing
          · cases told.symm.trans isOwn

/-! ## All settings -/

theorem ofValue_map (entries : List (Value × Value)) :
    ofValue (.map entries) = ofEntries entries := by
  cases entries <;> rfl

theorem reads_of_ofEntries (told : ofEntries entries = .ok settings) (setting : Setting) :
    Reads setting.name (amount {} setting) (Value.entry entries setting.name)
      (.ok (settings.amount setting)) := by
  rcases bind_eq_ok_iff.mp told with ⟨windowMinutes, minutesTold, afterMinutes⟩
  rcases bind_eq_ok_iff.mp afterMinutes with ⟨leastEvents, eventsTold, afterEvents⟩
  rcases bind_eq_ok_iff.mp afterEvents with ⟨leastAddresses, addressesTold, afterAddresses⟩
  rcases bind_eq_ok_iff.mp afterAddresses with ⟨scanHours, hoursTold, equal⟩
  cases equal
  cases setting with
  | windowMinutes => exact minutesTold ▸ reads_readAmount entries _ _
  | leastEvents => exact eventsTold ▸ reads_readAmount entries _ _
  | leastAddresses => exact addressesTold ▸ reads_readAmount entries _ _
  | scanHours => exact hoursTold ▸ reads_readAmount entries _ _

theorem exists_reads_of_ofEntries (failed : ofEntries entries = .error fault) :
    ∃ setting : Setting, Reads setting.name (amount {} setting)
      (Value.entry entries setting.name) (.error fault) := by
  rcases bind_eq_error_iff.mp failed with stopped | ⟨_, _, afterMinutes⟩
  · exact ⟨.windowMinutes, stopped ▸ reads_readAmount entries _ _⟩
  · rcases bind_eq_error_iff.mp afterMinutes with stopped | ⟨_, _, afterEvents⟩
    · exact ⟨.leastEvents, stopped ▸ reads_readAmount entries _ _⟩
    · rcases bind_eq_error_iff.mp afterEvents with stopped | ⟨_, _, afterAddresses⟩
      · exact ⟨.leastAddresses, stopped ▸ reads_readAmount entries _ _⟩
      · exact ⟨.scanHours, eq_error_of_bind_pure afterAddresses ▸ reads_readAmount entries _ _⟩

theorem isPositive_amount_default (setting : Setting) : (amount {} setting).IsPositive := by
  cases setting <;> decide

section

variable {setting : String} {fallback own : Amount} {value : Value}

theorem Reads.atMostZero_eq_false (positive : fallback.IsPositive)
    (reads : Reads setting fallback value (.ok own)) : own.atMostZero = false := by
  cases reads with
  | missing => exact Amount.atMostZero_eq_false_iff.mpr (.inl positive)
  | taken given accepted => exact accepted

theorem Reads.isPositive_or (positive : fallback.IsPositive)
    (reads : Reads setting fallback value (.ok own)) :
    own.IsPositive ∨ value = .float .undefined := by
  cases reads with
  | missing => exact .inl positive
  | taken given accepted =>
      refine (Amount.atMostZero_eq_false_iff.mp accepted).imp_right ?_
      rintro rfl
      cases value <;> simp_all [Value.amount?]

theorem Reads.isAcceptable
    (reads : Reads setting fallback value (.ok own)) : value.IsAcceptable := by
  cases reads with
  | missing => exact .inl rfl
  | taken given accepted =>
      exact .inr ⟨own, given, Amount.atMostZero_eq_false_iff.mp accepted⟩

theorem Reads.not_isAcceptable
    (reads : Reads setting fallback value (.error fault)) :
    ¬value.IsAcceptable ∧
      ((∃ shown, value.quoted = .ok shown ∧ fault = .settingNotPositive setting shown) ∨
        (value.HoldsLong ∧ fault = .tooManyDigits)) := by
  cases reads with
  | refused unacceptable written => exact ⟨unacceptable, .inl ⟨_, written, rfl⟩⟩
  | unwritable unacceptable long => exact ⟨unacceptable, .inr ⟨long, rfl⟩⟩

end

/-- A mapping of settings is accepted exactly where each setting is missing, a number above
zero or the undefined number, and otherwise refused for one that is none of these. With
accepted settings, which are above zero where none is undefined, a scan in the years from
1970 to 2100 completes exactly where it can tell its times; so it does in every store where
the hours reach back less than the time since year 1 and the minutes are a length of time. -/
theorem accepted_settings_serve (entries : List (Value × Value)) :
    ((∃ settings, ofValue (.map entries) = .ok settings) ↔
      ∀ setting : Setting, (Value.entry entries setting.name).IsAcceptable) ∧
    (∀ fault, ofValue (.map entries) = .error fault →
      ∃ setting : Setting, ¬(Value.entry entries setting.name).IsAcceptable ∧
        ((∃ shown, (Value.entry entries setting.name).quoted = .ok shown ∧
            fault = .settingNotPositive setting.name shown) ∨
          ((Value.entry entries setting.name).HoldsLong ∧ fault = .tooManyDigits))) ∧
    ∀ settings, ofValue (.map entries) = .ok settings →
      (∀ setting : Setting, (settings.amount setting).IsPositive ∨
        Value.entry entries setting.name = .float .undefined) ∧
      ∀ (store : Store) (surroundings : Surroundings) (now : Calendar.Moment),
        store.IsRecorded → (∀ calls, surroundings.obstacle calls = none) →
        1970 ≤ now.civil.year → now.civil.year ≤ 2100 →
          ((∃ report,
              ((History.correlator settings store).scan surroundings now).1 = .ok report) ↔
            settings.IsUsable store now) ∧
          ∀ span length,
            Calendar.spanOf Calendar.microsPerHour settings.scanHours = .ok span →
            span ≤ 719161 * Calendar.microsPerDay →
            Calendar.spanOf Calendar.microsPerMinute settings.windowMinutes = .ok length →
              ∃ report,
                ((History.correlator settings store).scan surroundings now).1 = .ok report := by
  simp only [ofValue_map]
  refine ⟨⟨?_, fun acceptable => ?_⟩, fun fault failed => ?_, fun settings told => ?_⟩
  · rintro ⟨settings, told⟩ setting
    exact (reads_of_ofEntries told setting).isAcceptable
  · cases told : ofEntries entries with
    | ok settings => exact ⟨settings, rfl⟩
    | error fault =>
        rcases exists_reads_of_ofEntries told with ⟨setting, reads⟩
        exact absurd (acceptable setting) reads.not_isAcceptable.1
  · rcases exists_reads_of_ofEntries failed with ⟨setting, reads⟩
    exact ⟨setting, reads.not_isAcceptable⟩
  · refine ⟨fun setting => (reads_of_ofEntries told setting).isPositive_or (isPositive_amount_default setting),
      fun store surroundings now recorded clear from1970 until2100 => ?_⟩
    have accepted : settings.scanHours.atMostZero = false :=
      (reads_of_ofEntries told .scanHours).atMostZero_eq_false (isPositive_amount_default _)
    have completes : (∃ report,
        ((History.correlator settings store).scan surroundings now).1 = .ok report) ↔
          settings.IsUsable store now :=
      Correlator.scan_completes_iff rfl clear recorded accepted until2100
    refine ⟨completes, fun span length isSpan atMost isLength => completes.mpr ?_⟩
    exact isUsable_of_le isSpan atMost isLength store from1970

def startOf1970 : Calendar.Moment :=
  ⟨Calendar.Moment.epochWall, by decide, some .utc⟩

/-- Windows of half an hour are accepted, and with them a scan completes after three
attacks. -/
theorem half_an_hour_serves :
    ∃ settings,
      ofValue (.map [(.text "time_window_minutes", .int 30)]) = .ok settings ∧
      ∃ report, ((History.correlator settings (History.run History.threeAttacks)).scan
        { now := startOf1970 } startOf1970).1 = .ok report := by
  have accepted : ofValue (.map [(.text "time_window_minutes", .int 30)]) =
      .ok { windowMinutes := .whole 30 } := by decide +kernel
  have recorded : (History.run History.threeAttacks).IsRecorded :=
    History.isRecorded_run _ (by decide +kernel)
  refine ⟨_, accepted, ?_⟩
  rcases accepted_settings_serve [(.text "time_window_minutes", .int 30)] with ⟨_, _, serves⟩
  have scans := (serves _ accepted).2 _ { now := startOf1970 } startOf1970 recorded
    (fun _ => rfl) (by decide +kernel) (by decide +kernel)
  exact scans.2 (24 * Calendar.microsPerHour) (30 * Calendar.microsPerMinute) (by decide +kernel)
    (by decide) (by decide +kernel)

/-- Undefined hours are accepted, and a scan with them fails. -/
theorem undefined_hours_are_accepted :
    ∃ settings,
      ofValue (.map [(.text "scan_window_hours", .float .undefined)]) = .ok settings ∧
      ¬settings.scanHours.IsPositive ∧
      ((History.correlator settings {}).scan { now := startOf1970 } startOf1970).1 =
        .error .undefinedNumber :=
  ⟨{ scanHours := .real .undefined }, by decide +kernel, by decide, by decide +kernel⟩

end CorrelationSettings

end ThreatWatch
