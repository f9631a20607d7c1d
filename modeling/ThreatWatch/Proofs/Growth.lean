import ThreatWatch.Proofs.Arrivals

/-! Campaigns that stay as they are. A scan adds the campaigns that it finds after those
that the store already has, and what happens to the store later changes neither the
entry of a campaign nor which threats belong to it. An attack that goes on therefore
makes another campaign, or none. -/

namespace ThreatWatch

namespace Store

/-- A later store has the campaigns of an earlier one, each in its place, as it was and
with the same threats. -/
structure Grows (before after : Store) : Prop where
  entries : before.campaigns <+: after.campaigns
  members : ∀ key ∈ Table.keys before.campaigns, after.threatsOf key = before.threatsOf key

namespace Grows

theorem refl (store : Store) : store.Grows store where
  entries := List.prefix_rfl
  members _ _ := rfl

theorem trans {before between after : Store} (first : before.Grows between)
    (second : between.Grows after) : before.Grows after where
  entries := first.entries.trans second.entries
  members key present := by
    have kept : key ∈ Table.keys between.campaigns := (first.entries.map Prod.fst).mem present
    rw [second.members key kept, first.members key present]

end Grows

variable {store after : Store} {founds occurring : List FoundCampaign}
  {saved : Calendar.Moment} {report : ScanReport}

theorem Agrees.updated_eq_zero (agrees : store.Agrees occurring)
    (distinguished : FoundCampaign.Distinguished occurring) (pending : store.Pending founds)
    (occur : ∀ found ∈ founds, found ∈ occurring)
    (kept : Scan.KeepsAll saved store founds report after) : report.updated = 0 := by
  induction kept with
  | nil => rfl
  | @cons store between after found rest report others first later induction =>
      have occurs := occur found List.mem_cons_self
      have created := (agrees.keeps_created distinguished pending List.mem_cons_self occurs first).1
      have none := induction (agrees.keeps distinguished pending occurs first)
        (pending.keeps agrees.sound first)
        fun other inRest => occur other (List.mem_cons_of_mem found inRest)
      simp [ScanReport.join, created, none]

theorem Agrees.grows_keepsAll (agrees : store.Agrees occurring)
    (distinguished : FoundCampaign.Distinguished occurring) (pending : store.Pending founds)
    (occur : ∀ found ∈ founds, found ∈ occurring)
    (kept : Scan.KeepsAll saved store founds report after) : store.Grows after := by
  rcases agrees.keepsAll_entries distinguished pending occur kept with ⟨entries, _, unchanged⟩
  exact ⟨⟨_, entries.symm⟩, unchanged⟩

theorem grows_insert {now : Calendar.Moment} {threat : Threat} (untagged : threat.campaign = none)
    {id : Option Nat} (inserted : store.insert now threat = .ok (id, after)) :
    store.Grows after := by
  rcases insert_eq_ok inserted with rfl | ⟨record, recorded, _, rfl⟩
  · exact .refl after
  · have recordUntagged : record.campaign = none :=
      (storedThreat_eq_ok recorded).2.1.trans untagged
    exact ⟨List.prefix_rfl, fun key _ => threatsOf_append_untagged recordUntagged key⟩

end Store

namespace History

variable {store : Store} {occurring : List FoundCampaign}

/-! ## One step and whole histories -/

theorem grows_apply (agrees : store.Agrees occurring)
    (distinguished : FoundCampaign.Distinguished occurring) {step : Step}
    (untagged : step.IsUntagged) (occur : ∀ found ∈ keptBy store step, found ∈ occurring) :
    store.Grows (apply store step) := by
  cases step with
  | arrival now threat =>
      rcases apply_arrival store now threat with same | ⟨id, inserted⟩
      · rw [same]
        exact .refl store
      · exact Store.grows_insert untagged inserted
  | scan settings surroundings now =>
      rcases apply_scan store settings surroundings now with same | ⟨_, found, ended, told, kept⟩
      · rw [same]
        exact .refl store
      · rw [keptBy, ended, told] at occur
        have pending := Store.pending_of_findings agrees.sound told
        exact agrees.grows_keepsAll distinguished pending occur kept

theorem grows_runFrom (agrees : store.Agrees occurring)
    (distinguished : FoundCampaign.Distinguished occurring) {steps : List Step}
    (untagged : ∀ step ∈ steps, step.IsUntagged)
    (occur : ∀ found ∈ occurringFrom store steps, found ∈ occurring) :
    store.Grows (runFrom store steps) := by
  induction steps generalizing store with
  | nil => exact .refl store
  | cons step rest induction =>
      have stepUntagged := untagged step List.mem_cons_self
      have stepOccurs : ∀ found ∈ keptBy store step, found ∈ occurring :=
        fun found member => occur found (List.mem_append_left _ member)
      apply (grows_apply agrees distinguished stepUntagged stepOccurs).trans
      apply induction (agrees_apply agrees distinguished stepUntagged stepOccurs)
      · exact fun other member => untagged other (List.mem_cons_of_mem step member)
      · exact fun found member => occur found (List.mem_append_right _ member)

/-- In every history of arrivals that belong to no campaign and of scans, where
identities tell members apart, no scan updates a campaign. It counts none as updated,
and it leaves all campaigns that it meets in their places, with their records and their
threats, where they stay as long as the history goes on. -/
theorem scans_only_add_campaigns (before after : List Step) (settings : CorrelationSettings)
    (surroundings : Surroundings) (now : Calendar.Moment)
    (untagged : ∀ step ∈ before ++ .scan settings surroundings now :: after, step.IsUntagged)
    (distinguished : FoundCampaign.Distinguished
      (occurringFrom {} (before ++ .scan settings surroundings now :: after))) :
    (∀ report, ((correlator settings (run before)).scan surroundings now).1 = .ok report →
        report.updated = 0 ∧ (run (before ++ [.scan settings surroundings now])).campaigns.length =
          (run before).campaigns.length + report.created) ∧
      (run before).Grows (run (before ++ [.scan settings surroundings now])) ∧
      (run (before ++ [.scan settings surroundings now])).Grows
        (run (before ++ .scan settings surroundings now :: after)) := by
  let scan : Step := .scan settings surroundings now
  let occurring := occurringFrom {} (before ++ scan :: after)
  have parts : ∀ found, found ∈ occurring ↔ found ∈ occurringFrom {} before ∨
      found ∈ keptBy (run before) scan ∨ found ∈ occurringFrom (apply (run before) scan) after := by
    intro found
    rw [← List.mem_append, ← List.mem_append]
    exact iff_of_eq (congrArg (found ∈ ·) (occurringFrom_append {} before (scan :: after)))
  have scanned : run (before ++ [scan]) = apply (run before) scan := run_append before _
  have ended : run (before ++ scan :: after) = runFrom (apply (run before) scan) after :=
    run_append before _
  have agrees : (run before).Agrees occurring := by
    apply agrees_runFrom agrees_empty distinguished
    · exact fun step member => untagged step (List.mem_append_left _ member)
    · exact fun found member => (parts found).mpr (.inl member)
  have occurs : ∀ found ∈ keptBy (run before) scan, found ∈ occurring :=
    fun found member => (parts found).mpr (.inr (.inl member))
  have agreesAfter : (apply (run before) scan).Agrees occurring :=
    agrees_apply agrees distinguished trivial occurs
  rw [scanned, ended]
  constructor
  · intro report completes
    rcases keepsAll_of_scan completes with ⟨found, told, kept⟩
    have pending := Store.pending_of_findings agrees.sound told
    rw [keptBy, completes, told] at occurs
    exact ⟨agrees.updated_eq_zero distinguished pending occurs kept,
      (kept.report_eq agrees.sound).2.2⟩
  constructor
  · exact grows_apply agrees distinguished trivial occurs
  · apply grows_runFrom agreesAfter distinguished
    · exact fun step member =>
        untagged step (List.mem_append_right _ (List.mem_cons_of_mem _ member))
    · exact fun found member => (parts found).mpr (.inr (.inr member))

/-- Three attacks, a scan that makes a campaign of the first two, and a fourth attack from
the same address. -/
def ongoingAttack : List Step :=
  threeAttacks ++ [.scan pairs (unhindered 100) (reading 100), observed "10.0.0.1" "scan" 110]

/-- The attack goes on within the hour of its third part, and a second scan makes a second
campaign and leaves the first one as it is. -/
theorem ongoing_attack_makes_second_campaign :
    ((correlator pairs (run ongoingAttack)).scan (unhindered 200) (reading 200)).1 =
        .ok ⟨1, 0, 2⟩ ∧
      (run ongoingAttack).Grows
        (run (ongoingAttack ++ [.scan pairs (unhindered 200) (reading 200)])) ∧
      (run ongoingAttack).campaigns.length = 1 := by
  have adds := scans_only_add_campaigns ongoingAttack [] pairs (unhindered 200) (reading 200)
    (by decide +kernel) (by decide +kernel)
  exact ⟨by decide +kernel, adds.2.1, by decide +kernel⟩

end History

end ThreatWatch
