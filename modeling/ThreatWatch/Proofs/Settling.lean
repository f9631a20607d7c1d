import ThreatWatch.Proofs.Rescan
import ThreatWatch.Proofs.Summary

/-! Scans that are repeated by one reading of the clock. Each of them takes the threats
that it correlates out of those that wait for a campaign, and one that correlates none
has found nothing. So the scans come to rest before there have been more of them than
threats that waited, and one more. -/

namespace ThreatWatch

namespace Scan

variable {store after : Store} {settings : CorrelationSettings} {now : Calendar.Moment}
  {found : Findings}

def FindsNothing (settings : CorrelationSettings) (now : Calendar.Moment) (store : Store) : Prop :=
  ∃ found, findings settings now store = .ok found ∧ found.all = []

theorem all_eq_nil_of_members_eq_nil (told : findings settings now store = .ok found)
    (none : found.members = []) : found.all = [] := by
  apply List.eq_nil_iff_forall_not_mem.mpr
  intro campaign member
  have some := (summarises_of_findings told member).1.ne_nil
  exact some (List.flatMap_eq_nil_iff.mp none campaign member)

theorem length_awaiting_add_members (sound : store.IsSound)
    (told : findings settings now store = .ok found)
    (tagged : after.threats = store.threats.map (Threat.taggedBy found.all)) :
    ∃ span, Calendar.spanOf Calendar.microsPerHour settings.scanHours = .ok span ∧
      (after.awaiting (now.instant - span)).length + found.members.length =
        (store.awaiting (now.instant - span)).length := by
  rcases awaiting_after sound told tagged with ⟨span, isSpan, remaining⟩
  rcases mem_members_iff sound told with ⟨sameSpan, isSameSpan, called⟩
  cases isSpan.symm.trans isSameSpan
  refine ⟨span, isSpan, ?_⟩
  let threats := store.awaiting (now.instant - span)
  let remains (threat : Threat) : Bool :=
    settings.isSparse threats threat && settings.isRare (settings.sparse threats) threat
  have nodup : threats.Nodup := sound.nodup_threats.sublist List.filter_sublist
  have taken : (threats.filter fun threat => !remains threat).Perm found.members := by
    apply (List.perm_ext_iff_of_nodup (nodup.sublist List.filter_sublist)
      (nodup_members sound told)).mpr
    intro threat
    rw [called, List.mem_filter, Bool.not_eq_true', ← Bool.not_eq_true, Bool.and_eq_true]
  rw [remaining, settings.remaining_eq_filter, ← taken.length_eq]
  exact (List.length_eq_length_filter_add remains).symm

end Scan

namespace History

variable {store : Store} {settings : CorrelationSettings} {surroundings : Surroundings}
  {now : Calendar.Moment} {report : ScanReport}

/-! ## A scan that finds nothing -/

theorem findsNothing_of_uncorrelated (sound : store.IsSound)
    (completes : ((correlator settings store).scan surroundings now).1 = .ok report)
    (none : report.correlated = 0) : Scan.FindsNothing settings now store := by
  rcases keepsAll_of_scan completes with ⟨found, told, kept⟩
  rw [(kept.report_eq sound).1] at none
  exact ⟨found, told, Scan.all_eq_nil_of_members_eq_nil told (List.length_eq_zero_iff.mp none)⟩

theorem report_eq_nothing (nothing : Scan.FindsNothing settings now store)
    (completes : ((correlator settings store).scan surroundings now).1 = .ok report) :
    report = .nothing ∧ apply store (.scan settings surroundings now) = store := by
  rcases nothing with ⟨found, told, none⟩
  rcases keepsAll_of_scan completes with ⟨same, toldAgain, kept⟩
  cases told.symm.trans toldAgain
  rw [none] at kept
  generalize apply store (.scan settings surroundings now) = after at kept ⊢
  cases kept
  exact ⟨rfl, rfl⟩

theorem apply_scan_eq_self (nothing : Scan.FindsNothing settings now store)
    (surroundings : Surroundings) : apply store (.scan settings surroundings now) = store := by
  rcases apply_scan store settings surroundings now with same | ⟨_, _, completes, _, _⟩
  · exact same
  · exact (report_eq_nothing nothing completes).2

theorem scan_eq_nothing (nothing : Scan.FindsNothing settings now store)
    (clear : ∀ calls, surroundings.obstacle calls = none) :
    (correlator settings store).scan surroundings now = (.ok .nothing, correlator settings store) := by
  rcases nothing with ⟨found, told, none⟩
  exact Correlator.scan_of_run rfl (Scan.run_of_nothing_found clear told none)

/-! ## Scan after scan -/

theorem length_awaiting_apply (sound : store.IsSound) {span : Int}
    (isSpan : Calendar.spanOf Calendar.microsPerHour settings.scanHours = .ok span)
    (completes : ((correlator settings store).scan surroundings now).1 = .ok report) :
    ((apply store (.scan settings surroundings now)).awaiting (now.instant - span)).length +
      report.correlated = (store.awaiting (now.instant - span)).length := by
  rcases keepsAll_of_scan completes with ⟨found, told, kept⟩
  rcases Scan.length_awaiting_add_members sound told kept.threats_eq with
    ⟨sameSpan, isSameSpan, lengths⟩
  cases isSpan.symm.trans isSameSpan
  rw [(kept.report_eq sound).1]
  exact lengths

/-- The store after so many scans by one reading of the clock, each of them in
surroundings of its own. -/
def rescanned (settings : CorrelationSettings) (now : Calendar.Moment)
    (surroundings : Nat → Surroundings) (store : Store) : Nat → Store
  | 0 => store
  | count + 1 =>
      apply (rescanned settings now surroundings store count)
        (.scan settings (surroundings count) now)

def rescan (settings : CorrelationSettings) (now : Calendar.Moment)
    (surroundings : Nat → Surroundings) (store : Store) (count : Nat) : Except Fault ScanReport :=
  ((correlator settings (rescanned settings now surroundings store count)).scan
    (surroundings count) now).1

variable {series : Nat → Surroundings}

theorem isSound_rescanned (sound : store.IsSound) (count : Nat) :
    (rescanned settings now series store count).IsSound := by
  induction count with
  | zero => exact sound
  | succ count induction => exact isSound_apply induction _

theorem exists_uncorrelated_or_length_add_le (sound : store.IsSound) {span : Int}
    (isSpan : Calendar.spanOf Calendar.microsPerHour settings.scanHours = .ok span) (count : Nat)
    (completes : ∀ index < count, ∃ report, rescan settings now series store index = .ok report) :
    (∃ index < count, ∃ report, rescan settings now series store index = .ok report ∧
        report.correlated = 0) ∨
      ((rescanned settings now series store count).awaiting (now.instant - span)).length + count ≤
        (store.awaiting (now.instant - span)).length := by
  induction count with
  | zero => exact .inr (Nat.le_refl _)
  | succ count induction =>
      have earlier := induction fun index less => completes index (Nat.lt_succ_of_lt less)
      rcases earlier with ⟨index, less, quiet⟩ | fewer
      · exact .inl ⟨index, Nat.lt_succ_of_lt less, quiet⟩
      · rcases completes count (Nat.lt_succ_self count) with ⟨report, ended⟩
        by_cases quiet : report.correlated = 0
        · exact .inl ⟨count, Nat.lt_succ_self count, report, ended, quiet⟩
        · have accounting := length_awaiting_apply (isSound_rescanned sound count) isSpan ended
          right
          rw [rescanned]
          omega

theorem rescanned_eq_of_findsNothing {count : Nat}
    (nothing : Scan.FindsNothing settings now (rescanned settings now series store count))
    {later : Nat} (after : count ≤ later) :
    rescanned settings now series store later = rescanned settings now series store count := by
  induction later, after using Nat.le_induction with
  | base => rfl
  | succ later _ induction =>
      rw [rescanned, induction]
      exact apply_scan_eq_self nothing _

/-- Repeated scans settle. A completed scan that correlates nothing leaves the store as it
is. Where the scans that are repeated by one reading of the clock complete, one of the
first ones correlates nothing, of which there are one more than threats that waited at
first. After it the store stays as it is: every further scan that completes reports
nothing, and every further scan without obstacles does complete. -/
theorem repeated_scans_settle (series : Nat → Surroundings) (sound : store.IsSound) {span : Int}
    (isSpan : Calendar.spanOf Calendar.microsPerHour settings.scanHours = .ok span)
    (completes : ∀ count ≤ (store.awaiting (now.instant - span)).length,
      ∃ report, rescan settings now series store count = .ok report) :
    (∀ surroundings report, ((correlator settings store).scan surroundings now).1 = .ok report →
        report.correlated = 0 → report = .nothing ∧
          ((correlator settings store).scan surroundings now).2 = correlator settings store) ∧
      ∃ quiet ≤ (store.awaiting (now.instant - span)).length,
        rescan settings now series store quiet = .ok .nothing ∧
        ∀ later ≥ quiet,
          rescanned settings now series store later = rescanned settings now series store quiet ∧
          (∀ report, rescan settings now series store later = .ok report → report = .nothing) ∧
          ((∀ calls, (series later).obstacle calls = none) →
            rescan settings now series store later = .ok .nothing) := by
  constructor
  · intro surroundings report ended none
    have nothing := findsNothing_of_uncorrelated sound ended none
    rcases report_eq_nothing nothing ended with ⟨reported, same⟩
    refine ⟨reported, ?_⟩
    rw [Correlator.scan_snd]
    exact congrArg (correlator settings) same
  · rcases exists_uncorrelated_or_length_add_le sound isSpan _
      fun index less => completes index (Nat.le_of_lt_succ less) with
      ⟨quiet, less, report, ended, none⟩ | tooFew
    · have nothing := findsNothing_of_uncorrelated (isSound_rescanned sound quiet) ended none
      refine ⟨quiet, Nat.le_of_lt_succ less, ?_, fun later after => ?_⟩
      · rw [ended, (report_eq_nothing nothing ended).1]
      · have same := rescanned_eq_of_findsNothing nothing after
        have nothingLater := same ▸ nothing
        refine ⟨same, fun report told => (report_eq_nothing nothingLater told).1, fun clear => ?_⟩
        exact congrArg Prod.fst (scan_eq_nothing nothingLater clear)
    · omega

/-- Of the five attacks the first scan takes two by their pattern, the second one takes the
three logins that are left, and the third one finds nothing. -/
theorem scans_and_logins_settle :
    ∃ quiet ≤ 5,
      rescan triples (reading 720) (fun _ => unhindered 690) (run scansAndLogins) quiet =
          .ok .nothing ∧
        rescanned triples (reading 720) (fun _ => unhindered 690) (run scansAndLogins) 100 =
          rescanned triples (reading 720) (fun _ => unhindered 690) (run scansAndLogins) quiet := by
  have isSpan : Calendar.spanOf Calendar.microsPerHour triples.scanHours = .ok 86400000000 := by
    decide +kernel
  have waiting : ((run scansAndLogins).awaiting ((reading 720).instant - 86400000000)).length = 5 := by
    decide +kernel
  have reports : ∀ count ≤ 5, ∃ report ∈ [⟨1, 0, 2⟩, ⟨1, 0, 3⟩, ScanReport.nothing],
      rescan triples (reading 720) (fun _ => unhindered 690) (run scansAndLogins) count =
        .ok report := by
    decide +kernel
  have settles := repeated_scans_settle (fun _ => unhindered 690) (isSound_run scansAndLogins)
    isSpan fun count few => by
      rcases reports count (waiting ▸ few) with ⟨report, _, ended⟩
      exact ⟨report, ended⟩
  rcases settles.2 with ⟨quiet, few, reported, still⟩
  exact ⟨quiet, waiting ▸ few, reported, (still 100 (by omega)).1⟩

end History

end ThreatWatch
