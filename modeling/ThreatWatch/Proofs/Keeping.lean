import ThreatWatch.Correlation.Scan
import ThreatWatch.Proofs.Transaction

/-! What a scan does to the store: it finds campaigns among the threats that wait
for one and keeps each of these in turn. A scan that completes is known by what
it found and by how the store went from one campaign to the next. -/

namespace ThreatWatch

namespace ScanReport

theorem nothing_join (report : ScanReport) : nothing.join report = report := by
  simp [nothing, join]

theorem join_assoc (first second third : ScanReport) :
    (first.join second).join third = first.join (second.join third) := by
  simp only [join, Nat.add_assoc]

end ScanReport

namespace FoundCampaign

def ids (found : FoundCampaign) : List Int :=
  (found.members.map Threat.id).reduceOption

end FoundCampaign

namespace Scan

/-! ## What is found -/

/-- The campaigns that a scan finds, those of addresses first. -/
structure Findings where
  byAddress : List FoundCampaign
  byPattern : List FoundCampaign

def Findings.all (findings : Findings) : List FoundCampaign :=
  findings.byAddress ++ findings.byPattern

def findings (settings : CorrelationSettings) (now : Calendar.Moment) (store : Store) :
    Except Fault Findings := do
  let since ← horizon settings now
  let day := (← Store.utcOf now).date
  let threats ← store.unclustered since
  let byAddress ← FoundCampaign.byAddress settings day threats
  let byPattern ← FoundCampaign.byPattern settings day (leftOver byAddress threats)
  return ⟨byAddress, byPattern⟩

theorem findings_eq_ok_iff {settings : CorrelationSettings} {now : Calendar.Moment}
    {store : Store} {found : Findings} :
    findings settings now store = .ok found ↔
      ∃ since reading threats, horizon settings now = .ok since ∧
        Store.utcOf now = .ok reading ∧ store.unclustered since = .ok threats ∧
        FoundCampaign.byAddress settings reading.date threats = .ok found.byAddress ∧
        FoundCampaign.byPattern settings reading.date (leftOver found.byAddress threats) =
          .ok found.byPattern := by
  constructor
  · intro told
    rcases bind_eq_ok_iff.mp told with ⟨since, horizonTold, afterHorizon⟩
    rcases bind_eq_ok_iff.mp afterHorizon with ⟨reading, readingTold, afterReading⟩
    rcases bind_eq_ok_iff.mp afterReading with ⟨threats, fetched, afterFetch⟩
    rcases bind_eq_ok_iff.mp afterFetch with ⟨byAddress, addressTold, afterAddress⟩
    rcases bind_eq_ok_iff.mp afterAddress with ⟨byPattern, patternTold, equal⟩
    cases equal
    exact ⟨since, reading, threats, horizonTold, readingTold, fetched, addressTold, patternTold⟩
  · rintro ⟨since, reading, threats, horizonTold, readingTold, fetched, addressTold, patternTold⟩
    unfold findings
    rw [horizonTold, readingTold]
    refine bind_eq_ok_iff.mpr ⟨since, rfl, bind_eq_ok_iff.mpr ⟨reading, rfl, ?_⟩⟩
    rw [bind_eq_ok_iff]
    refine ⟨threats, fetched, bind_eq_ok_iff.mpr ⟨found.byAddress, addressTold, ?_⟩⟩
    rw [patternTold]
    rfl

/-! ## What is kept -/

/-- What keeping one campaign may do to a store: it is saved under an identity that
is new, or merged into the campaign of its identity, and then its members are
tagged. -/
inductive Keeps (saved : Calendar.Moment) (store : Store) (found : FoundCampaign) :
    ScanReport → Store → Prop where
  | created {between after : Store}
      (absent : store.campaign? found.campaign.id = none)
      (save : store.save saved found.campaign = .ok between)
      (tag : between.tag found.campaign.id found.ids = .ok after) :
      Keeps saved store found ⟨1, 0, found.members.length⟩ after
  | updated {existing merged : Campaign} {between after : Store}
      (present : store.campaign? found.campaign.id = some existing)
      (merge : existing.merge found.campaign = .ok merged)
      (save : store.save saved merged = .ok between)
      (tag : between.tag found.campaign.id found.ids = .ok after) :
      Keeps saved store found ⟨0, 1, found.members.length⟩ after

inductive KeepsAll (saved : Calendar.Moment) :
    Store → List FoundCampaign → ScanReport → Store → Prop where
  | nil {store : Store} : KeepsAll saved store [] .nothing store
  | cons {store between after : Store} {found : FoundCampaign} {rest : List FoundCampaign}
      {report others : ScanReport} (first : Keeps saved store found report between)
      (later : KeepsAll saved between rest others after) :
      KeepsAll saved store (found :: rest) (report.join others) after

variable {saved : Calendar.Moment} {store between after : Store}

theorem KeepsAll.append {left right : List FoundCampaign} {leftReport rightReport : ScanReport}
    (first : KeepsAll saved store left leftReport between)
    (second : KeepsAll saved between right rightReport after) :
    KeepsAll saved store (left ++ right) (leftReport.join rightReport) after := by
  induction first with
  | nil =>
      rw [ScanReport.nothing_join]
      exact second
  | cons first _ induction =>
      rw [ScanReport.join_assoc]
      exact .cons first (induction second)

/-! ## The work of a scan -/

variable {surroundings : Surroundings} {report : ScanReport}

theorem keeps_of_reaches {found : FoundCampaign}
    (reaches : Work.Reaches (keep found) surroundings store report after) :
    Keeps surroundings.now store found report after := by
  rcases reaches.bind with ⟨known, _, asks, saving⟩
  rcases asks.campaign? with ⟨equal, rfl⟩
  cases known with
  | none =>
      rcases saving.bind with ⟨_, _, saves, reporting⟩
      rcases reporting.bind with ⟨_, _, reports, tagging⟩
      rcases reports.pure with ⟨rfl, rfl⟩
      rcases tagging.bind with ⟨_, _, tags, returns⟩
      rcases returns.pure with ⟨rfl, rfl⟩
      exact .created equal.symm saves.save tags.tag
  | some existing =>
      rcases saving.bind with ⟨merged, _, merges, savingMerged⟩
      rcases merges.ofExcept with ⟨merge, rfl⟩
      rcases savingMerged.bind with ⟨_, _, saves, reporting⟩
      rcases reporting.bind with ⟨_, _, reports, tagging⟩
      rcases reports.pure with ⟨rfl, rfl⟩
      rcases tagging.bind with ⟨_, _, tags, returns⟩
      rcases returns.pure with ⟨rfl, rfl⟩
      exact .updated equal.symm merge saves.save tags.tag

theorem keepsAll_of_reaches {founds : List FoundCampaign}
    (reaches : Work.Reaches (keepAll founds) surroundings store report after) :
    KeepsAll surroundings.now store founds report after := by
  induction founds generalizing store report with
  | nil =>
      rcases reaches.pure with ⟨rfl, rfl⟩
      exact .nil
  | cons found rest induction =>
      rcases reaches.bind with ⟨_, _, first, others⟩
      rcases others.bind with ⟨_, _, later, returns⟩
      rcases returns.pure with ⟨rfl, rfl⟩
      exact .cons (keeps_of_reaches first) (induction later)

theorem keepsAll_of_run {settings : CorrelationSettings} {now : Calendar.Moment}
    (kept : (work settings now).run surroundings store = .ok (report, after)) :
    ∃ found, findings settings now store = .ok found ∧
      KeepsAll surroundings.now store found.all report after := by
  rcases (Work.reaches_of_run kept).bind with ⟨since, _, looks, afterHorizon⟩
  rcases looks.ofExcept with ⟨horizonTold, rfl⟩
  rcases afterHorizon.bind with ⟨reading, _, reads, afterReading⟩
  rcases reads.ofExcept with ⟨readingTold, rfl⟩
  rcases afterReading.bind with ⟨threats, _, fetches, afterFetch⟩
  rcases fetches.unclustered with ⟨fetched, rfl⟩
  split at afterFetch
  · next none =>
      rcases afterFetch.pure with ⟨rfl, rfl⟩
      rw [List.isEmpty_iff.mp none] at fetched
      exact ⟨⟨[], []⟩, findings_eq_ok_iff.mpr
        ⟨since, reading, [], horizonTold, readingTold, fetched, rfl, rfl⟩, .nil⟩
  · rcases afterFetch.bind with ⟨byAddress, _, finds, keeping⟩
    rcases finds.ofExcept with ⟨addressTold, rfl⟩
    rcases keeping.bind with ⟨_, _, first, afterFirst⟩
    rcases afterFirst.bind with ⟨byPattern, _, findsMore, keepingMore⟩
    rcases findsMore.ofExcept with ⟨patternTold, rfl⟩
    rcases keepingMore.bind with ⟨_, _, second, returns⟩
    rcases returns.pure with ⟨rfl, rfl⟩
    refine ⟨⟨byAddress, byPattern⟩, findings_eq_ok_iff.mpr ?_,
      (keepsAll_of_reaches first).append (keepsAll_of_reaches second)⟩
    exact ⟨since, reading, threats, horizonTold, readingTold, fetched, addressTold, patternTold⟩

/-! ## Without obstacles -/

theorem KeepsAll.exists_of_append {left right : List FoundCampaign}
    (kept : KeepsAll saved store (left ++ right) report after) :
    ∃ between leftReport rightReport, KeepsAll saved store left leftReport between ∧
      KeepsAll saved between right rightReport after ∧ report = leftReport.join rightReport := by
  induction left generalizing store report with
  | nil => exact ⟨store, .nothing, report, .nil, kept, (ScanReport.nothing_join report).symm⟩
  | cons found rest induction =>
      cases kept with
      | cons first later =>
          rcases induction later with ⟨between, leftReport, rightReport, left, right, rfl⟩
          exact ⟨between, _, rightReport, .cons first left, right,
            (ScanReport.join_assoc _ _ _).symm⟩

theorem completes_keep (clear : ∀ calls, surroundings.obstacle calls = none) {found : FoundCampaign}
    (kept : Keeps surroundings.now store found report after) :
    Work.Completes (keep found) surroundings store report after := by
  refine (Work.completes_campaign? clear found.campaign.id).bind ?_
  cases kept with
  | created absent save tag =>
      rw [absent]
      refine (Work.completes_save clear save).bind ?_
      refine (Work.completes_pure _).bind ?_
      exact (Work.completes_tag clear tag).bind (Work.completes_pure _)
  | updated present merge save tag =>
      rw [present]
      refine (Work.completes_ofExcept merge).bind ?_
      refine (Work.completes_save clear save).bind ?_
      refine (Work.completes_pure _).bind ?_
      exact (Work.completes_tag clear tag).bind (Work.completes_pure _)

theorem completes_keepAll (clear : ∀ calls, surroundings.obstacle calls = none)
    {founds : List FoundCampaign} (kept : KeepsAll surroundings.now store founds report after) :
    Work.Completes (keepAll founds) surroundings store report after := by
  induction kept with
  | nil => exact Work.completes_pure _
  | cons first _ induction =>
      refine (completes_keep clear first).bind ?_
      exact induction.bind (Work.completes_pure _)

theorem run_of_keepsAll (clear : ∀ calls, surroundings.obstacle calls = none)
    {settings : CorrelationSettings} {now : Calendar.Moment} {found : Findings}
    (told : findings settings now store = .ok found)
    (kept : KeepsAll surroundings.now store found.all report after) :
    (work settings now).run surroundings store = .ok (report, after) := by
  rcases findings_eq_ok_iff.mp told with
    ⟨since, reading, threats, horizonTold, readingTold, fetched, addressTold, patternTold⟩
  refine Work.run_of_completes clear ?_
  refine (Work.completes_ofExcept horizonTold).bind ?_
  refine (Work.completes_ofExcept readingTold).bind ?_
  refine (Work.completes_unclustered clear fetched).bind ?_
  split
  · next none =>
      -- where no threat waits, nothing is found
      rw [List.isEmpty_iff.mp none] at addressTold patternTold
      obtain ⟨byAddress, byPattern⟩ := found
      cases addressTold
      cases patternTold
      cases kept
      exact Work.completes_pure _
  · rcases kept.exists_of_append with ⟨between, first, second, byAddress, byPattern, rfl⟩
    refine (Work.completes_ofExcept addressTold).bind ?_
    refine (completes_keepAll clear byAddress).bind ?_
    refine (Work.completes_ofExcept patternTold).bind ?_
    exact (completes_keepAll clear byPattern).bind (Work.completes_pure _)

theorem run_of_nothing_found (clear : ∀ calls, surroundings.obstacle calls = none)
    {settings : CorrelationSettings} {now : Calendar.Moment} {found : Findings}
    (told : findings settings now store = .ok found) (none : found.all = []) :
    (work settings now).run surroundings store = .ok (.nothing, store) :=
  run_of_keepsAll clear told (none ▸ .nil)

end Scan

/-! ## The correlator -/

namespace Correlator

variable {correlator : Correlator} {surroundings : Surroundings} {now : Calendar.Moment}

theorem run_of_scan {report : ScanReport}
    (completes : (correlator.scan surroundings now).1 = .ok report) :
    (Scan.work correlator.settings now).run surroundings correlator.store =
      .ok (report, (correlator.scan surroundings now).2.store) := by
  unfold scan beginScan at completes ⊢
  cases busy : correlator.scanning with
  | true => simp [busy] at completes
  | false =>
      simp only [busy, Bool.false_eq_true, if_false] at completes ⊢
      cases kept : (Scan.work correlator.settings now).run surroundings correlator.store with
      | ok result =>
          simp only [kept] at completes ⊢
          rw [← Except.ok.inj completes]
          rfl
      | error fault => simp [kept] at completes

theorem scan_of_run {report : ScanReport} {after : Store} (free : correlator.scanning = false)
    (kept : (Scan.work correlator.settings now).run surroundings correlator.store =
      .ok (report, after)) :
    correlator.scan surroundings now = (.ok report, { correlator with store := after }) := by
  simp [scan, beginScan, endScan, free, kept]

theorem scan_snd (correlator : Correlator) (surroundings : Surroundings) (now : Calendar.Moment) :
    (correlator.scan surroundings now).2 =
      { correlator with store := (correlator.scan surroundings now).2.store } := by
  unfold scan beginScan
  cases busy : correlator.scanning with
  | true => simp [← busy]
  | false =>
      simp only [Bool.false_eq_true, if_false]
      cases (Scan.work correlator.settings now).run surroundings correlator.store with
      | ok result => simp [endScan, ← busy]
      | error fault => simp [endScan, ← busy]

theorem store_of_failed_scan {fault : Fault}
    (failed : (correlator.scan surroundings now).1 = .error fault) :
    (correlator.scan surroundings now).2.store = correlator.store := by
  unfold scan beginScan at failed ⊢
  cases busy : correlator.scanning with
  | true => rfl
  | false =>
      simp only [busy, Bool.false_eq_true, if_false] at failed ⊢
      cases kept : (Scan.work correlator.settings now).run surroundings correlator.store with
      | ok result => simp [kept] at failed
      | error fault => rfl

end Correlator

end ThreatWatch
