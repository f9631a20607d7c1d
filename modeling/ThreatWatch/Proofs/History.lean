import ThreatWatch.Proofs.Tagging

/-! Histories of a store: arrivals and scans in any order, begun on an empty store.
A scan may fail or be stopped by an obstacle; the store then stays as it was. What
one step keeps, a whole history keeps. -/

namespace ThreatWatch.History

/-- One step of a history: a threat arrives, or a scan is made with some settings
by some clock reading. -/
inductive Step where
  | arrival (now : Calendar.Moment) (threat : Threat)
  | scan (settings : CorrelationSettings) (surroundings : Surroundings) (now : Calendar.Moment)

def correlator (settings : CorrelationSettings) (store : Store) : Correlator :=
  { store := store, settings := settings }

def apply (store : Store) : Step → Store
  | .arrival now threat =>
      match store.insert now threat with
      | .ok (_, after) => after
      | .error _ => store
  | .scan settings surroundings now =>
      ((correlator settings store).scan surroundings now).2.store

def runFrom (store : Store) (steps : List Step) : Store :=
  steps.foldl apply store

def run (steps : List Step) : Store :=
  runFrom {} steps

theorem run_append (steps more : List Step) : run (steps ++ more) = runFrom (run steps) more :=
  List.foldl_append

/-! ## One step -/

variable {store : Store}

theorem apply_arrival (store : Store) (now : Calendar.Moment) (threat : Threat) :
    apply store (.arrival now threat) = store ∨
      ∃ id, store.insert now threat = .ok (id, apply store (.arrival now threat)) := by
  cases inserted : store.insert now threat with
  | ok result => exact .inr ⟨result.1, by simp [apply, inserted]⟩
  | error fault => exact .inl (by simp [apply, inserted])

theorem keepsAll_of_scan {settings : CorrelationSettings} {surroundings : Surroundings}
    {now : Calendar.Moment} {report : ScanReport}
    (completes : ((correlator settings store).scan surroundings now).1 = .ok report) :
    ∃ found, Scan.findings settings now store = .ok found ∧
      Scan.KeepsAll surroundings.now store found.all report
        (apply store (.scan settings surroundings now)) :=
  Scan.keepsAll_of_run (Correlator.run_of_scan completes)

theorem apply_scan (store : Store) (settings : CorrelationSettings) (surroundings : Surroundings)
    (now : Calendar.Moment) :
    apply store (.scan settings surroundings now) = store ∨
      ∃ report found, ((correlator settings store).scan surroundings now).1 = .ok report ∧
        Scan.findings settings now store = .ok found ∧
        Scan.KeepsAll surroundings.now store found.all report
          (apply store (.scan settings surroundings now)) := by
  cases ended : ((correlator settings store).scan surroundings now).1 with
  | error fault => exact .inl (Correlator.store_of_failed_scan ended)
  | ok report =>
      rcases keepsAll_of_scan ended with ⟨found, told, kept⟩
      exact .inr ⟨report, found, rfl, told, kept⟩

theorem isSound_apply (sound : store.IsSound) (step : Step) : (apply store step).IsSound := by
  cases step with
  | arrival now threat =>
      rcases apply_arrival store now threat with same | ⟨id, inserted⟩
      · rw [same]
        exact sound
      · exact sound.insert inserted
  | scan settings surroundings now =>
      rcases apply_scan store settings surroundings now with same | ⟨_, found, _, _, kept⟩
      · rw [same]
        exact sound
      · exact sound.keepsAll kept

theorem mem_apply_of_tagged (sound : store.IsSound) {threat : Threat}
    (member : threat ∈ store.threats) (tagged : threat.campaign.isSome = true) (step : Step) :
    threat ∈ (apply store step).threats := by
  cases step with
  | arrival now new =>
      rcases apply_arrival store now new with same | ⟨id, inserted⟩
      · rwa [same]
      · rcases Store.insert_eq_ok inserted with same | ⟨record, _, _, grown⟩
        · rwa [same]
        · rw [grown]
          exact List.mem_append_left _ member
  | scan settings surroundings now =>
      rcases apply_scan store settings surroundings now with same | ⟨_, found, _, told, kept⟩
      · rwa [same]
      · rw [kept.threats_eq]
        refine List.mem_map.mpr ⟨threat, member, ?_⟩
        refine Scan.taggedBy_of_not_mem_members sound told member fun taken => ?_
        have untagged := (Scan.stored_of_mem_members sound told taken).2
        rw [untagged] at tagged
        cases tagged

/-! ## Whole histories -/

theorem runFrom_induction (keeps : Store → Prop)
    (step : ∀ store, store.IsSound → keeps store → ∀ next, keeps (apply store next))
    (steps : List Step) (sound : store.IsSound) (initially : keeps store) :
    keeps (runFrom store steps) := by
  induction steps generalizing store with
  | nil => exact initially
  | cons next rest induction =>
      exact induction (isSound_apply sound next) (step store sound initially next)

theorem isSound_runFrom (sound : store.IsSound) (steps : List Step) :
    (runFrom store steps).IsSound :=
  runFrom_induction Store.IsSound (fun _ sound _ => isSound_apply sound) steps sound sound

theorem isSound_run (steps : List Step) : (run steps).IsSound :=
  isSound_runFrom Store.isSound_empty steps

theorem mem_runFrom_of_tagged (sound : store.IsSound) {threat : Threat}
    (member : threat ∈ store.threats) (tagged : threat.campaign.isSome = true)
    (steps : List Step) : threat ∈ (runFrom store steps).threats :=
  runFrom_induction (fun later => threat ∈ later.threats)
    (fun _ sound member => mem_apply_of_tagged sound member tagged) steps sound member

/-! ## Readings and threats for small histories -/

def reading (minute : Nat) : Calendar.Moment :=
  ⟨(1440 + minute % 1440) * Calendar.microsPerMinute, by
    simp only [Calendar.wallLimit, Calendar.dayLimit, Calendar.microsPerDay,
      Calendar.microsPerHour, Calendar.microsPerMinute, Calendar.microsPerSecond]
    omega, some .utc⟩

def observed (address attack : String) (minute : Nat) : Step :=
  .arrival (reading minute) {
    source := .guard
    address := some address
    attack := some attack
    time := some (reading minute)
    hash := some (address ++ attack ++ toString minute) }

def unhindered (minute : Nat) : Surroundings where
  now := reading minute

def pairs : CorrelationSettings := { leastEvents := .whole 2 }

theorem span_of_pairs :
    Calendar.spanOf Calendar.microsPerHour pairs.scanHours = .ok 86400000000 := by
  decide +kernel

def threeAttacks : List Step :=
  [observed "10.0.0.1" "scan" 10, observed "10.0.0.1" "scan" 20, observed "10.0.0.1" "scan" 90]

end ThreatWatch.History
