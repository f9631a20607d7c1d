import ThreatWatch.Proofs.History

/-! A second scan at the same reading of the clock. The windows of one address start
anew when a pattern has taken threats out of them, and so the threats that remain
may fall into a large window that was not there before. Where this does not happen,
a second scan finds nothing. -/

namespace ThreatWatch

/-! ## Threats that remain -/

namespace CorrelationSettings

variable (settings : CorrelationSettings)

/-- Whether a large window appears among the threats that remain at an address from
which a pattern has taken threats. -/
def Unsettled (threats : List Threat) : Prop :=
  ∃ threat ∈ threats, settings.isSparse threats threat = true ∧
    settings.isRare (settings.sparse threats) threat = false ∧
    ∃ window ∈ Threat.windows settings.windowMinutes (threat.peers (settings.remaining threats)),
      settings.isLarge window = true

instance (threats : List Threat) : Decidable (settings.Unsettled threats) :=
  inferInstanceAs (Decidable (∃ threat ∈ threats, _ ∧ _ ∧ ∃ window ∈ _, _))

theorem peers_remaining {threats : List Threat} {threat : Threat}
    (untouched : ∀ other ∈ threat.peers threats, settings.isSparse threats other = true →
      settings.isRare (settings.sparse threats) other = true) :
    threat.peers (settings.remaining threats) =
      (threat.peers threats).filter (settings.isSparse threats) := by
  unfold Threat.peers remaining sparse at *
  rw [List.filter_filter, List.filter_filter, List.filter_filter]
  refine List.filter_congr fun other member => ?_
  cases same : other.address == threat.address with
  | false => simp
  | true =>
      cases sparse : settings.isSparse threats other with
      | false => simp
      | true => simp [untouched other (List.mem_filter.mpr ⟨member, same⟩) sparse]

theorem windows_remaining_small {threats : List Threat} (nodup : threats.Nodup) {threat : Threat}
    (untouched : ∀ other ∈ threat.peers threats, settings.isSparse threats other = true →
      settings.isRare (settings.sparse threats) other = true)
    {window : List Threat} (member : window ∈
      Threat.windows settings.windowMinutes (threat.peers (settings.remaining threats))) :
    settings.isLarge window = false := by
  rw [settings.peers_remaining untouched] at member
  cases isSpan : Calendar.spanOf Calendar.microsPerMinute settings.windowMinutes with
  | ok span =>
      rw [Threat.windows_filter_of_nodup isSpan fun window windowMember other inWindow =>
        settings.isSparse_of_mem_window nodup isSpan windowMember inWindow] at member
      simpa using (List.mem_filter.mp member).2
  | error fault => simp [Threat.windows, isSpan] at member

theorem sparse_remaining_iff {threats : List Threat} (nodup : threats.Nodup) :
    (∀ threat ∈ settings.remaining threats,
      settings.isSparse (settings.remaining threats) threat = true) ↔
      ¬settings.Unsettled threats := by
  constructor
  · rintro sparse ⟨threat, _, _, _, window, windowMember, large⟩
    rcases List.exists_mem_of_ne_nil _ (Threat.ne_nil_of_mem_windows windowMember) with
      ⟨other, inWindow⟩
    have otherPeer := Threat.mem_of_mem_windows windowMember inWindow
    have samePeers := Threat.peers_eq_of_mem otherPeer (settings.remaining threats)
    have notSparse := settings.isSparse_eq_false_iff.mpr
      ⟨window, samePeers ▸ windowMember, inWindow, large⟩
    rw [sparse other (List.mem_filter.mp otherPeer).1] at notSparse
    cases notSparse
  · intro settled threat remains
    by_contra notSparse
    rcases settings.isSparse_eq_false_iff.mp (Bool.eq_false_iff.mpr notSparse) with
      ⟨window, windowMember, inWindow, large⟩
    have untouched : ∀ other ∈ threat.peers threats, settings.isSparse threats other = true →
        settings.isRare (settings.sparse threats) other = true := by
      intro other otherPeer otherSparse
      by_contra notRare
      have samePeers := Threat.peers_eq_of_mem otherPeer (settings.remaining threats)
      exact settled ⟨other, (List.mem_filter.mp otherPeer).1, otherSparse,
        Bool.eq_false_iff.mpr notRare, window, samePeers ▸ windowMember, large⟩
    have small := settings.windows_remaining_small nodup untouched windowMember
    rw [large] at small
    cases small

end CorrelationSettings

/-! ## Finding nothing -/

namespace FoundCampaign

variable {settings : CorrelationSettings} {day : Calendar.Date}

/-- Some of the threats in which campaigns were found make no campaign of an address
where all their windows are too small. -/
theorem byAddress_eq_nil {threats fewer : List Threat} {found : List FoundCampaign}
    (told : byAddress settings day threats = .ok found) (sublist : fewer.Sublist threats)
    (sparse : settings.crowds fewer = []) : byAddress settings day fewer = .ok [] := by
  have small : ∀ address ∈ fewer.map Threat.address, (Threat.windows settings.windowMinutes
      (Threat.sentFrom address fewer)).filter settings.isLarge = [] := fun address named =>
    List.flatMap_eq_nil_iff.mp sparse (address, Threat.sentFrom address fewer)
      (mem_groupsBy.mpr ⟨named, rfl⟩)
  have before : ∀ address ∈ fewer.map Threat.address, (Threat.windows settings.windowMinutes
      (Threat.sentFrom address fewer)).filter settings.isLarge ⊆
        (Threat.windows settings.windowMinutes
          (Threat.sentFrom address threats)).filter settings.isLarge := by
    intro address named
    rw [small address named]
    exact List.nil_subset _
  rcases exists_byAddress_of_sublist told sublist before with ⟨rest, again⟩
  have none : rest.map members = [] := (members_of_byAddress again).trans sparse
  rwa [List.map_eq_nil_iff.mp none] at again

theorem byPattern_eq_nil {threats : List Threat} (rare : settings.spreads threats = []) :
    byPattern settings day threats = .ok [] := by
  unfold byPattern
  rw [List.map_eq_nil_iff.mp rare]
  rfl

end FoundCampaign

/-! ## What a second scan sees -/

namespace Scan

variable {store after : Store} {settings : CorrelationSettings} {now : Calendar.Moment}
  {found : Findings}

theorem awaiting_after (sound : store.IsSound) (told : findings settings now store = .ok found)
    (tagged : after.threats = store.threats.map (Threat.taggedBy found.all)) :
    ∃ span, Calendar.spanOf Calendar.microsPerHour settings.scanHours = .ok span ∧
      after.awaiting (now.instant - span) =
        settings.remaining (store.awaiting (now.instant - span)) := by
  rcases mem_members_iff sound told with ⟨span, isSpan, called⟩
  refine ⟨span, isSpan, ?_⟩
  let threats := store.awaiting (now.instant - span)
  -- a threat that is taken waits no longer, and any other one stays as it is
  have takenPassed : ∀ threat ∈ found.members,
      Store.isAwaiting (now.instant - span) (threat.taggedBy found.all) = false := by
    intro threat taken
    rcases Option.isSome_iff_exists.mp (isSome_of_mem_members sound told taken) with
      ⟨campaign, belongs⟩
    simp [Store.isAwaiting, belongs]
  rw [settings.remaining_eq_filter, Store.awaiting, tagged]
  conv_rhs => arg 2; rw [Store.awaiting]
  rw [List.filter_filter]
  refine filter_map_of_fixed (fun threat member => ?_) fun threat member remains => ?_
  · by_cases taken : threat ∈ found.members
    · rw [takenPassed threat taken, eq_comm, Bool.eq_false_iff]
      intro remains
      simp only [Bool.and_eq_true] at remains
      exact ((called threat).mp taken).2 remains.1
    · rw [taggedBy_of_not_mem_members sound told member taken]
      cases waits : Store.isAwaiting (now.instant - span) threat with
      | false => simp
      | true =>
          have waitsNow : threat ∈ threats := List.mem_filter.mpr ⟨member, waits⟩
          have both := not_not.mp fun notBoth => taken ((called threat).mpr ⟨waitsNow, notBoth⟩)
          rw [both.1, both.2]
          rfl
  · refine taggedBy_of_not_mem_members sound told member fun taken => ?_
    simp only [Bool.and_eq_true] at remains
    exact ((called threat).mp taken).2 remains.1

theorem crowds_sorted_eq_nil_iff {threats : List Threat} :
    settings.crowds (Threat.sorted threats) = [] ↔
      ∀ threat ∈ threats, settings.isSparse threats threat = true := by
  rw [settings.crowds_eq_nil_iff, settings.isSparse_sorted]
  simp [(Threat.sorted_perm threats).mem_iff]

theorem findings_after (sound : store.IsSound)
    (told : findings settings now store = .ok found) {span : Int}
    (isSpan : Calendar.spanOf Calendar.microsPerHour settings.scanHours = .ok span)
    (remaining : after.awaiting (now.instant - span) =
      settings.remaining (store.awaiting (now.instant - span)))
    (settled : ¬settings.Unsettled (store.awaiting (now.instant - span))) :
    findings settings now after = .ok ⟨[], []⟩ := by
  rcases findings_eq_ok_iff.mp told with
    ⟨since, reading, threats, horizonTold, readingTold, fetched, addressTold, _⟩
  rcases Store.unclustered_eq_ok_iff.mp fetched with ⟨utc, rfl⟩
  rcases instant_of_horizon horizonTold with ⟨sameSpan, isSameSpan, instant⟩
  rw [isSpan] at isSameSpan
  cases isSameSpan
  rw [instant] at addressTold
  let left := settings.remaining (store.awaiting (now.instant - span))
  have nodup : (store.awaiting (now.instant - span)).Nodup :=
    sound.nodup_threats.sublist List.filter_sublist
  have sublist : (Threat.sorted left).Sublist
      (Threat.sorted (store.awaiting (now.instant - span))) := by
    rw [← settings.remaining_sorted, settings.remaining_eq_filter]
    exact List.filter_sublist
  have noCrowds : settings.crowds (Threat.sorted left) = [] :=
    crowds_sorted_eq_nil_iff.mpr ((settings.sparse_remaining_iff nodup).mpr settled)
  have noSpreads : settings.spreads (Threat.sorted left) = [] := by
    refine settings.spreads_eq_nil fun threat member => ?_
    rw [settings.isRare_sorted]
    exact settings.isRare_remaining ((Threat.sorted_perm left).mem_iff.mp member)
  have allLeft : leftOver [] (Threat.sorted left) = Threat.sorted left := by simp [leftOver]
  refine findings_eq_ok_iff.mpr ⟨since, reading, Threat.sorted left, horizonTold, readingTold,
    Store.unclustered_eq_ok_iff.mpr ⟨utc, by rw [instant, remaining]⟩,
    FoundCampaign.byAddress_eq_nil addressTold sublist noCrowds, ?_⟩
  rw [allLeft]
  exact FoundCampaign.byPattern_eq_nil noSpreads

end Scan

namespace History

/-- A second scan by the same reading of the clock finds nothing, writes nothing and
reports nothing exactly where no large window appears among the threats that remain
at an address from which a pattern has taken threats. -/
theorem second_scan_eq_nothing_iff (steps : List Step) {settings : CorrelationSettings}
    {surroundings again : Surroundings} {now : Calendar.Moment} {report : ScanReport}
    (completes : ((correlator settings (run steps)).scan surroundings now).1 = .ok report)
    (clear : ∀ calls, again.obstacle calls = none) :
    ∃ span, Calendar.spanOf Calendar.microsPerHour settings.scanHours = .ok span ∧
      (((correlator settings (run steps)).scan surroundings now).2.scan again now =
          (.ok .nothing, ((correlator settings (run steps)).scan surroundings now).2) ↔
        ¬settings.Unsettled ((run steps).awaiting (now.instant - span))) := by
  have sound := isSound_run steps
  rcases keepsAll_of_scan completes with ⟨found, told, kept⟩
  rw [Correlator.scan_snd (correlator settings (run steps)) surroundings now]
  let after := apply (run steps) (.scan settings surroundings now)
  have soundAfter : after.IsSound := sound.keepsAll kept
  rcases Scan.awaiting_after sound told kept.threats_eq with ⟨span, isSpan, remaining⟩
  refine ⟨span, isSpan, fun nothing => ?_, fun settled => ?_⟩
  · have second : ((correlator settings after).scan again now).1 = .ok .nothing :=
      congrArg Prod.fst nothing
    rcases keepsAll_of_scan second with ⟨foundAgain, toldAgain, keptAgain⟩
    have count := (keptAgain.report_eq soundAfter).2.1
    have none : foundAgain.all = [] := List.length_eq_zero_iff.mp count.symm
    rcases Scan.members_of_findings soundAfter toldAgain with ⟨sameSpan, isSameSpan, ofAddress, _⟩
    rw [isSpan] at isSameSpan
    cases isSameSpan
    rw [(List.append_eq_nil_iff.mp none).1] at ofAddress
    have noCrowds : settings.crowds
        (Threat.sorted (settings.remaining ((run steps).awaiting (now.instant - span)))) = [] := by
      rw [← remaining]
      exact ofAddress.symm
    exact (settings.sparse_remaining_iff (sound.nodup_threats.sublist List.filter_sublist)).mp
      (Scan.crowds_sorted_eq_nil_iff.mp noCrowds)
  · have toldAgain := Scan.findings_after sound told isSpan remaining settled
    exact Correlator.scan_of_run rfl (Scan.run_of_nothing_found clear toldAgain rfl)

/-- A second scan after a campaign of one address finds nothing. -/
theorem second_scan_after_three_attacks :
    ((correlator pairs (run threeAttacks)).scan (unhindered 200) (reading 200)).2.scan
        (unhindered 200) (reading 200) =
      (.ok .nothing,
        ((correlator pairs (run threeAttacks)).scan (unhindered 200) (reading 200)).2) := by
  have completes : ((correlator pairs (run threeAttacks)).scan (unhindered 200)
      (reading 200)).1 = .ok ⟨1, 0, 2⟩ := by decide +kernel
  have clear : ∀ calls, (unhindered 200).obstacle calls = none := fun _ => rfl
  rcases second_scan_eq_nothing_iff threeAttacks completes clear with ⟨span, isSpan, exactly⟩
  cases span_of_pairs.symm.trans isSpan
  exact exactly.mpr (by decide +kernel)

/-- One address scans once and then tries three passwords; another one scans at the
same time. -/
def scansAndLogins : List Step :=
  [observed "10.0.0.1" "scan" 480, observed "10.0.0.1" "ssh" 530, observed "10.0.0.1" "ssh" 550,
    observed "10.0.0.1" "ssh" 580, observed "10.0.0.2" "scan" 480]

/-- Three attacks within the hour make a campaign, and so does one pattern from two
addresses. -/
def triples : CorrelationSettings := { leastEvents := .whole 3, leastAddresses := .whole 2 }

/-- The first scan takes the two scans by their pattern. This leaves three logins
within an hour of the first of them, and a second scan makes a campaign of these. -/
theorem second_scan_finds_logins :
    ((correlator triples (run scansAndLogins)).scan (unhindered 690) (reading 720)).1 =
        .ok ⟨1, 0, 2⟩ ∧
      (((correlator triples (run scansAndLogins)).scan (unhindered 690) (reading 720)).2.scan
        (unhindered 690) (reading 720)).1 = .ok ⟨1, 0, 3⟩ := by
  decide +kernel

end History

end ThreatWatch
