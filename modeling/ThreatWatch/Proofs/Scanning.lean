import ThreatWatch.Proofs.History

/-! What a completed scan does: it tags every threat that the settings call for and
no other, and it counts what it has done exactly. -/

namespace ThreatWatch

/-! ## What is tagged -/

namespace Correlator

variable {correlator : Correlator} {surroundings : Surroundings} {now : Calendar.Moment}
  {report : ScanReport}

theorem threats_of_scan (completes : (correlator.scan surroundings now).1 = .ok report) :
    ∃ found, Scan.findings correlator.settings now correlator.store = .ok found ∧
      (correlator.scan surroundings now).2.store.threats =
        correlator.store.threats.map (Threat.taggedBy found.all) := by
  rcases Scan.keepsAll_of_run (run_of_scan completes) with ⟨found, told, kept⟩
  exact ⟨found, told, kept.threats_eq⟩

theorem untagged_iff_not_mem_members (sound : correlator.store.IsSound) {found : Scan.Findings}
    (told : Scan.findings correlator.settings now correlator.store = .ok found) {threat : Threat}
    (member : threat ∈ correlator.store.threats) (untagged : threat.campaign = none) :
    (∃ later ∈ correlator.store.threats.map (Threat.taggedBy found.all),
      later.id = threat.id ∧ later.campaign = none) ↔ threat ∉ found.members := by
  rw [← Scan.isSome_taggedBy_iff sound told member untagged, Option.not_isSome_iff_eq_none]
  constructor
  · rintro ⟨later, laterMember, sameId, stillUntagged⟩
    rwa [← Scan.eq_taggedBy_of_id_eq sound member laterMember sameId]
  · intro stillUntagged
    exact ⟨_, List.mem_map_of_mem member, Threat.taggedBy_id _ _, stillUntagged⟩

/-- A scan tags exactly what the settings call for. A threat that waits for a
campaign still waits after the scan where its window of time at its address is too
small and, among the threats for which this holds, its pattern comes from too few
addresses. All other threats stay as they are. -/
theorem untagged_after_scan_iff (sound : correlator.store.IsSound)
    (completes : (correlator.scan surroundings now).1 = .ok report) :
    ∃ span, Calendar.spanOf Calendar.microsPerHour correlator.settings.scanHours = .ok span ∧
      (∀ threat ∈ correlator.store.awaiting (now.instant - span),
        (∃ later ∈ (correlator.scan surroundings now).2.store.threats,
          later.id = threat.id ∧ later.campaign = none) ↔
        correlator.settings.isSparse (correlator.store.awaiting (now.instant - span)) threat =
            true ∧
          correlator.settings.isRare
            (correlator.settings.sparse (correlator.store.awaiting (now.instant - span))) threat =
              true) ∧
      (correlator.scan surroundings now).2.store.threats.map Threat.id =
        correlator.store.threats.map Threat.id ∧
      ∀ threat ∈ correlator.store.threats,
        threat ∉ correlator.store.awaiting (now.instant - span) →
          threat ∈ (correlator.scan surroundings now).2.store.threats := by
  rcases threats_of_scan completes with ⟨found, told, after⟩
  rcases Scan.mem_members_iff sound told with ⟨span, isSpan, called⟩
  rw [after]
  refine ⟨span, isSpan, fun threat awaits => ?_, ?_, fun threat member passed => ?_⟩
  · rcases Store.mem_of_mem_awaiting awaits with ⟨member, untagged⟩
    rw [untagged_iff_not_mem_members sound told member untagged, called]
    simp [awaits]
  · simp [Function.comp_def]
  · have notTaken : threat ∉ found.members := fun taken => passed ((called threat).mp taken).1
    exact List.mem_map.mpr
      ⟨threat, member, Scan.taggedBy_of_not_mem_members sound told member notTaken⟩

/-- A correlator that calls two attacks within the hour a campaign, after three
attacks of which the last one came too late for it. -/
def afterThreeAttacks : Correlator :=
  History.correlator History.pairs (History.run History.threeAttacks)

theorem third_attack_untagged_after_scan :
    ∃ later ∈ (afterThreeAttacks.scan (History.unhindered 200) (History.reading 200)).2.store.threats,
      later.id = some 3 ∧ later.campaign = none := by
  have completes : (afterThreeAttacks.scan (History.unhindered 200) (History.reading 200)).1 =
      .ok ⟨1, 0, 2⟩ := by decide +kernel
  rcases untagged_after_scan_iff (History.isSound_run _) completes with ⟨span, isSpan, exactly, _⟩
  cases History.span_of_pairs.symm.trans isSpan
  have third := exactly (afterThreeAttacks.store.threats.getLast (by decide +kernel))
    (by decide +kernel)
  exact third.mpr (by decide +kernel)

end Correlator

/-! ## What is counted -/

namespace History

/-- The threats that belong to no campaign in one store and to one in another. -/
def newlyTagged (before after : Store) : List Threat :=
  before.threats.filter fun threat => threat.campaign.isNone &&
    after.threats.any fun later => later.id == threat.id && later.campaign.isSome

theorem mem_newlyTagged {before after : Store} {threat : Threat} :
    threat ∈ newlyTagged before after ↔ threat ∈ before.threats ∧ threat.campaign = none ∧
      ∃ later ∈ after.threats, later.id = threat.id ∧ later.campaign.isSome = true := by
  simp [newlyTagged]

theorem newlyTagged_perm_members {store after : Store} {settings : CorrelationSettings}
    {now : Calendar.Moment} {found : Scan.Findings} (sound : store.IsSound)
    (told : Scan.findings settings now store = .ok found)
    (tagged : after.threats = store.threats.map (Threat.taggedBy found.all)) :
    (newlyTagged store after).Perm found.members := by
  have nodup : (newlyTagged store after).Nodup := sound.nodup_threats.sublist List.filter_sublist
  refine (List.perm_ext_iff_of_nodup nodup (Scan.nodup_members sound told)).mpr fun threat => ?_
  rw [mem_newlyTagged, tagged]
  constructor
  · rintro ⟨member, untagged, later, laterMember, sameId, isTagged⟩
    rw [Scan.eq_taggedBy_of_id_eq sound member laterMember sameId] at isTagged
    exact (Scan.isSome_taggedBy_iff sound told member untagged).mp isTagged
  · intro taken
    rcases Scan.stored_of_mem_members sound told taken with ⟨member, untagged⟩
    exact ⟨member, untagged, _, List.mem_map_of_mem member, Threat.taggedBy_id _ _,
      Scan.isSome_of_mem_members sound told taken⟩

/-- In every history tags are final, and every completed scan counts exactly: no
threat is a member of two campaigns that it finds, it counts as correlated the
threats that it puts into campaigns and as created the campaigns that are new in
the table, and it creates or updates one campaign for each that it finds. -/
theorem tags_final_and_counted (steps : List Step) :
    ((run steps).threats.map Threat.id).Nodup ∧
      (∀ more, ∀ threat ∈ (run steps).threats, threat.campaign.isSome = true →
        threat ∈ (run (steps ++ more)).threats) ∧
      ∀ settings surroundings now report,
        ((correlator settings (run steps)).scan surroundings now).1 = .ok report →
          ∃ found, Scan.findings settings now (run steps) = .ok found ∧
            Scan.KeepsAll surroundings.now (run steps) found.all report
              (run (steps ++ [.scan settings surroundings now])) ∧
            (found.members.map Threat.id).Nodup ∧
            report.correlated = (newlyTagged (run steps)
              (run (steps ++ [.scan settings surroundings now]))).length ∧
            (run (steps ++ [.scan settings surroundings now])).campaigns.length =
              (run steps).campaigns.length + report.created ∧
            report.created + report.updated =
              found.byAddress.length + found.byPattern.length := by
  have sound := isSound_run steps
  refine ⟨sound.nodup_ids, fun more threat member tagged => ?_, ?_⟩
  · rw [run_append]
    exact mem_runFrom_of_tagged sound member tagged more
  · intro settings surroundings now report completes
    rcases keepsAll_of_scan completes with ⟨found, told, kept⟩
    rcases kept.report_eq sound with ⟨correlated, count, growth⟩
    have members := newlyTagged_perm_members sound told kept.threats_eq
    rw [run_append]
    refine ⟨found, told, kept, Scan.nodup_member_ids sound told, ?_, growth, ?_⟩
    · exact correlated.trans members.length_eq.symm
    · rw [count, Scan.Findings.all, List.length_append]

/-- Two of three attacks make a campaign and are counted, and the first one belongs
to it after a fourth one has arrived. -/
theorem three_attacks_final_and_counted :
    2 = (newlyTagged (run threeAttacks)
        (run (threeAttacks ++ [.scan pairs (unhindered 200) (reading 200)]))).length ∧
      ∃ threat ∈ (run ((threeAttacks ++ [.scan pairs (unhindered 200) (reading 200)]) ++
        [observed "10.0.0.1" "scan" 210])).threats, threat.campaign.isSome = true := by
  constructor
  · rcases (tags_final_and_counted threeAttacks).2.2 pairs (unhindered 200) (reading 200)
      ⟨1, 0, 2⟩ (by decide +kernel) with ⟨found, told, _, _, correlated, _⟩
    exact correlated
  · have first := (tags_final_and_counted
      (threeAttacks ++ [.scan pairs (unhindered 200) (reading 200)])).2.1
      [observed "10.0.0.1" "scan" 210]
    refine ⟨_, first ((run (threeAttacks ++
      [.scan pairs (unhindered 200) (reading 200)])).threats.head ?_) ?_ ?_, ?_⟩ <;> decide +kernel

end History

end ThreatWatch
