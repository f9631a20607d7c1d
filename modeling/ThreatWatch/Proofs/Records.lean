import Mathlib.Data.List.Infix
import ThreatWatch.Proofs.Doubles
import ThreatWatch.Proofs.Scanning

/-! Records of threats. A threat that arrives is recorded once under the next number,
unless it is known by its hash or does not tell what it must, and its record tells what
the threat told for as long as the history goes on. Only the campaign that it belongs to
is written into it later. -/

namespace ThreatWatch

namespace Calendar.Moment

def HasUtc (moment : Moment) : Prop :=
  0 ≤ moment.instant ∧ moment.instant < wallLimit

/-- A reading of the universal clock at the instant of another reading. -/
structure IsUtcOf (utc moment : Moment) : Prop where
  offset : utc.offset = some Offset.utc
  instant : utc.instant = moment.instant

theorem exists_toUtc?_iff {moment : Moment} :
    (∃ utc, moment.toUtc? = some utc) ↔ moment.HasUtc := by
  unfold toUtc? ofWall? HasUtc
  constructor
  · rintro ⟨utc, told⟩
    split at told
    · next bounds => omega
    · cases told
  · intro reached
    rw [dif_pos (by omega)]
    exact ⟨_, rfl⟩

end Calendar.Moment

namespace Threat

/-- A store can express what the threat tells: its times on the universal clock, and its
confidence as a double. -/
structure IsStorable (threat : Threat) (now : Calendar.Moment) : Prop where
  time : ∀ time, threat.time = some time → time.HasUtc
  receivedAt : (threat.receivedAt.getD now).HasUtc
  confidence : ∀ number, threat.confidence = some (.whole number) →
    number.natAbs < Binary64.integerLimit

def TellsConfidence (threat : Threat) : Prop :=
  ∃ negative units, threat.confidence = some (.real (.finite negative units)) ∧
    (negative = true → units ≠ 0)

/-- A record tells what a threat told, its times on the universal clock. Where the threat
was silent on its techniques, its rule, its region or its severity, the record has the
values that stand for this. -/
structure Recalls (record threat : Threat) : Prop where
  source : record.source = threat.source
  address : record.address = threat.address
  attack : record.attack = threat.attack
  time : ∃ told utc, threat.time = some told ∧ record.time = some utc ∧ utc.IsUtcOf told
  hash : record.hash = threat.hash
  techniques : record.techniques = some (threat.techniques.getD [])
  sigmaRule : record.sigmaRule = some (threat.sigmaRule.getD "")
  region : record.region = some (threat.region.getD "")
  confidence : record.confidence = threat.confidence
  severity : record.severity = some (threat.severity.getD "medium")
  industry : record.industry = threat.industry
  service : record.service = threat.service
  skill : record.skill = threat.skill
  intent : record.intent = threat.intent
  tools : record.tools = threat.tools
  receivedAt : ∀ received, threat.receivedAt = some received →
    ∃ utc, record.receivedAt = some utc ∧ utc.IsUtcOf received

def unassigned (threat : Threat) : Threat :=
  { threat with campaign := none }

@[simp] theorem unassigned_tagged (campaign : String) (ids : List Int) (threat : Threat) :
    (threat.tagged campaign ids).unassigned = threat.unassigned := by
  unfold tagged
  split <;> rfl

@[simp] theorem unassigned_taggedBy (founds : List FoundCampaign) (threat : Threat) :
    (threat.taggedBy founds).unassigned = threat.unassigned := by
  induction founds generalizing threat with
  | nil => rfl
  | cons found rest induction => rw [taggedBy_cons, induction, unassigned_tagged]

theorem Recalls.of_unassigned {record later threat : Threat} (recalls : record.Recalls threat)
    (same : later.unassigned = record.unassigned) : later.Recalls threat := by
  have recorded : record.unassigned.Recalls threat := { recalls with }
  have told : later.unassigned.Recalls threat := same ▸ recorded
  exact { told with }

end Threat

namespace Store

variable {store after : Store} {now : Calendar.Moment} {threat record : Threat}

/-! ## What is recorded -/

theorem exists_utcOf_iff {time : Calendar.Moment} :
    (∃ utc, utcOf time = .ok utc) ↔ time.HasUtc := by
  rw [← Calendar.Moment.exists_toUtc?_iff, utcOf]
  cases time.toUtc? <;> simp

theorem isUtcOf_of_utcOf {time utc : Calendar.Moment} (told : utcOf time = .ok utc) :
    utc.IsUtcOf time where
  offset := (utcOf_eq_ok told).2
  instant := (utcOf_eq_ok told).1

theorem exists_utcIfAny_iff {time : Option Calendar.Moment} :
    (∃ utc, utcIfAny time = .ok utc) ↔ ∀ told, time = some told → told.HasUtc := by
  cases time with
  | none => simp [utcIfAny]
  | some told =>
      have stored : (∃ utc, utcIfAny (some told) = .ok utc) ↔ ∃ utc, utcOf told = .ok utc := by
        rw [utcIfAny]
        cases utcOf told <;> simp [Functor.map, Except.map]
      rw [stored, exists_utcOf_iff]
      simp

theorem exists_storedConfidence_iff {confidence : Option Amount} :
    (∃ stored, storedConfidence confidence = .ok stored) ↔
      ∀ number, confidence = some (.whole number) → number.natAbs < Binary64.integerLimit := by
  match confidence with
  | none => exact ⟨fun _ _ silent => (nomatch silent), fun _ => ⟨.zero, rfl⟩⟩
  | some (.whole number) =>
      rw [storedConfidence]
      have limit := Binary64.isSome_ofInt?_iff number
      cases near : Binary64.ofInt? number <;> simp [← limit, near]
  | some (.real (.finite _ 0)) | some (.real (.finite _ (_ + 1))) | some (.real (.infinite _))
  | some (.real .undefined) =>
      exact ⟨fun _ _ real => (nomatch real), fun _ => ⟨_, rfl⟩⟩

theorem storedConfidence_of_finite {negative : Bool} {units : Nat}
    (notNegativeZero : negative = true → units ≠ 0) :
    storedConfidence (some (.real (.finite negative units))) = .ok (.finite negative units) := by
  cases units with
  | zero =>
      have positive : negative = false := by simpa using notNegativeZero
      rw [positive]
      rfl
  | succ units => rfl

theorem exists_storedThreat_iff (number : Nat) :
    (∃ record, storedThreat number now threat = .ok record) ↔ threat.IsStorable now := by
  constructor
  · rintro ⟨record, recorded⟩
    rcases bind_eq_ok_iff.mp recorded with ⟨time, timeTold, afterTime⟩
    rcases bind_eq_ok_iff.mp afterTime with ⟨confidence, confidenceTold, afterConfidence⟩
    rcases bind_eq_ok_iff.mp afterConfidence with ⟨received, receivedTold, _⟩
    exact ⟨exists_utcIfAny_iff.mp ⟨time, timeTold⟩, exists_utcOf_iff.mp ⟨received, receivedTold⟩,
      exists_storedConfidence_iff.mp ⟨confidence, confidenceTold⟩⟩
  · rintro ⟨timeReached, receivedReached, confidenceFits⟩
    rcases exists_utcIfAny_iff.mpr timeReached with ⟨time, timeTold⟩
    rcases exists_storedConfidence_iff.mpr confidenceFits with ⟨confidence, confidenceTold⟩
    rcases exists_utcOf_iff.mpr receivedReached with ⟨received, receivedTold⟩
    unfold storedThreat
    rw [timeTold, confidenceTold, receivedTold]
    exact ⟨_, rfl⟩

theorem recalls_of_storedThreat {number : Nat}
    (recorded : storedThreat number now threat = .ok record) (complete : isComplete threat = true)
    (tells : threat.TellsConfidence) : record.Recalls threat := by
  rcases tells with ⟨negative, units, told, notNegativeZero⟩
  rcases bind_eq_ok_iff.mp recorded with ⟨time, timeTold, afterTime⟩
  rcases bind_eq_ok_iff.mp afterTime with ⟨confidence, confidenceTold, afterConfidence⟩
  rcases bind_eq_ok_iff.mp afterConfidence with ⟨received, receivedTold, equal⟩
  rw [told, storedConfidence_of_finite notNegativeZero] at confidenceTold
  simp only [isComplete, Bool.and_eq_true] at complete
  rcases Option.isSome_iff_exists.mp complete.1.2 with ⟨moment, isMoment⟩
  rw [isMoment] at timeTold
  rcases map_eq_ok_iff.mp timeTold with ⟨utc, utcTold, isTime⟩
  cases confidenceTold
  cases equal
  refine ⟨rfl, rfl, rfl, ?_, rfl, rfl, rfl, rfl, told.symm, rfl, rfl, rfl, rfl, rfl, rfl, ?_⟩
  · exact ⟨moment, utc, isMoment, isTime.symm, isUtcOf_of_utcOf utcTold⟩
  · intro moment isReceived
    rw [isReceived, Option.getD_some] at receivedTold
    exact ⟨received, rfl, isUtcOf_of_utcOf receivedTold⟩

/-! ## What is refused -/

/-- A store has no use for a threat that it knows by its hash, or that does not tell where
it came from, what it was, when it was or by which hash it is known. -/
def Refuses (store : Store) (threat : Threat) : Prop :=
  (∃ stored ∈ store.threats, stored.hash = threat.hash) ∨ threat.address = none ∨
    threat.attack = none ∨ threat.time = none ∨ threat.hash = none

theorem not_refuses_iff :
    ¬store.Refuses threat ↔ (isComplete threat && !store.holdsHash threat) = true := by
  simp only [Refuses, isComplete, holdsHash, Bool.and_eq_true, Bool.not_eq_true',
    List.any_eq_false, beq_iff_eq, not_or, not_exists, not_and, Option.isSome_iff_ne_none]
  tauto

/-- What can come of a threat that arrives: the store cannot express it, has no use for it,
or records it after all others under the next number. -/
inductive Insertion (store : Store) (now : Calendar.Moment) (threat : Threat) :
    Except Fault (Option Nat × Store) → Prop where
  | unstorable {fault : Fault} (cannot : ¬threat.IsStorable now) :
      Insertion store now threat (.error fault)
  | refused (storable : threat.IsStorable now) (refuses : store.Refuses threat) :
      Insertion store now threat (.ok (none, store))
  | recorded {record : Threat} (accepts : ¬store.Refuses threat)
      (stores : storedThreat (store.threats.length + 1) now threat = .ok record) :
      Insertion store now threat
        (.ok (some (store.threats.length + 1), { store with threats := store.threats ++ [record] }))

theorem insertion_insert (store : Store) (now : Calendar.Moment) (threat : Threat) :
    store.Insertion now threat (store.insert now threat) := by
  cases stores : storedThreat (store.threats.length + 1) now threat with
  | error fault =>
      have cannot : ¬threat.IsStorable now := by
        rw [← exists_storedThreat_iff (store.threats.length + 1), stores]
        simp
      have failed : store.insert now threat = .error fault := by
        simp [insert, stores, bind, Except.bind]
      rw [failed]
      exact .unstorable cannot
  | ok record =>
      have storable : threat.IsStorable now := (exists_storedThreat_iff _).mp ⟨record, stores⟩
      by_cases refuses : store.Refuses threat
      · have unaccepted := mt not_refuses_iff.mpr (not_not.mpr refuses)
        have kept : store.insert now threat = .ok (none, store) := by
          simp only [insert, stores, bind, Except.bind, if_neg unaccepted]
          rfl
        rw [kept]
        exact .refused storable refuses
      · have grown : store.insert now threat = .ok (some (store.threats.length + 1),
            { store with threats := store.threats ++ [record] }) := by
          simp only [insert, stores, bind, Except.bind, if_pos (not_refuses_iff.mp refuses)]
          rfl
        rw [grown]
        exact .recorded refuses stores

theorem exists_insert_eq_error_iff :
    (∃ fault, store.insert now threat = .error fault) ↔ ¬threat.IsStorable now := by
  have outcome := insertion_insert store now threat
  generalize store.insert now threat = inserted at outcome ⊢
  cases outcome with
  | unstorable cannot => simp [cannot]
  | refused storable => simp [storable]
  | recorded _ stores => simp [(exists_storedThreat_iff _).mp ⟨_, stores⟩]

theorem insert_eq_none_iff :
    store.insert now threat = .ok (none, after) ↔
      threat.IsStorable now ∧ store.Refuses threat ∧ after = store := by
  have outcome := insertion_insert store now threat
  generalize store.insert now threat = inserted at outcome ⊢
  cases outcome with
  | unstorable cannot => simp [cannot]
  | refused storable refuses => simp [storable, refuses, eq_comm]
  | recorded accepts => simp [accepts]

theorem insert_eq_some {number : Nat}
    (inserted : store.insert now threat = .ok (some number, after)) :
    number = store.threats.length + 1 ∧ ¬store.Refuses threat ∧
      ∃ record, storedThreat number now threat = .ok record ∧
        after = { store with threats := store.threats ++ [record] } := by
  have outcome := insertion_insert store now threat
  rw [inserted] at outcome
  cases outcome with
  | recorded accepts stores => exact ⟨rfl, accepts, _, stores, rfl⟩

/-! ## What is read -/

/-- A record stands in a store and is the only one of its number, and those who read the
threats of its campaign, or of those that wait for one, get it. -/
structure GivesBack (store : Store) (record : Threat) : Prop where
  stored : record ∈ store.threats
  unique : ∀ other ∈ store.threats, other.id = record.id → other = record
  ofCampaign : ∀ campaign, record ∈ store.threatsOf campaign ↔ record.campaign = some campaign
  waiting : ∀ since threats, store.unclustered since = .ok threats →
    (record ∈ threats ↔ record.campaign = none ∧
      ∃ received, record.receivedAt = some received ∧ since.instant < received.instant)

theorem givesBack_of_mem (sound : store.IsSound) (stored : record ∈ store.threats) :
    store.GivesBack record where
  stored := stored
  unique other member same := sound.eq_of_id_eq member stored same
  ofCampaign campaign := by
    rw [threatsOf, (Threat.sorted_perm _).mem_iff, List.mem_filter]
    simp [stored]
  waiting since threats told := by
    rw [(unclustered_eq_ok_iff.mp told).2, (Threat.sorted_perm _).mem_iff, awaiting,
      List.mem_filter]
    simp [stored, isAwaiting, Option.any_eq_true]

end Store

namespace History

variable {store : Store}

/-! ## Whole histories -/

theorem unassigned_prefix_apply (store : Store) (step : Step) :
    store.threats.map Threat.unassigned <+: (apply store step).threats.map Threat.unassigned := by
  cases step with
  | arrival now threat =>
      rcases apply_arrival store now threat with same | ⟨id, inserted⟩
      · rw [same]
      · rcases Store.insert_eq_ok inserted with same | ⟨record, _, _, grown⟩
        · rw [same]
        · rw [grown, List.map_append]
          exact List.prefix_append _ _
  | scan settings surroundings now =>
      rcases apply_scan store settings surroundings now with same | ⟨_, found, _, _, kept⟩
      · rw [same]
      · rw [kept.threats_eq, List.map_map]
        simp [Function.comp_def]

theorem unassigned_prefix_runFrom (store : Store) (steps : List Step) :
    store.threats.map Threat.unassigned <+:
      (runFrom store steps).threats.map Threat.unassigned := by
  induction steps generalizing store with
  | nil => exact List.prefix_rfl
  | cons step rest induction =>
      exact (unassigned_prefix_apply store step).trans (induction (apply store step))

theorem exists_record_of_mem {record : Threat} (member : record ∈ store.threats)
    (steps : List Step) :
    ∃ later ∈ (runFrom store steps).threats, later.unassigned = record.unassigned :=
  List.mem_map.mp ((unassigned_prefix_runFrom store steps).mem (List.mem_map_of_mem member))

theorem apply_eq_self {now : Calendar.Moment} {threat : Threat}
    (unrecorded : ¬threat.IsStorable now ∨ store.Refuses threat) :
    apply store (.arrival now threat) = store := by
  have outcome := Store.insertion_insert store now threat
  rw [apply]
  generalize store.insert now threat = inserted at outcome ⊢
  cases outcome with
  | unstorable => rfl
  | refused => rfl
  | recorded accepts stores =>
      exact absurd ((Store.exists_storedThreat_iff _).mp ⟨_, stores⟩)
        (unrecorded.resolve_right accepts)

theorem nodup_hashes_apply (distinct : (store.threats.map Threat.hash).Nodup) (step : Step) :
    ((apply store step).threats.map Threat.hash).Nodup := by
  cases step with
  | arrival now threat =>
      have outcome := Store.insertion_insert store now threat
      rw [apply]
      generalize store.insert now threat = inserted at outcome ⊢
      cases outcome with
      | unstorable => exact distinct
      | refused => exact distinct
      | @recorded record accepts stores =>
          have new : threat.hash ∉ store.threats.map Threat.hash := fun known =>
            accepts (.inl (List.mem_map.mp known))
          rw [List.map_append, List.map_singleton, Store.hash_of_storedThreat stores]
          exact List.nodup_append.mpr ⟨distinct, by simp, by grind⟩
  | scan settings surroundings now =>
      rcases apply_scan store settings surroundings now with same | ⟨_, found, _, _, kept⟩
      · rwa [same]
      · have hashes : (Threat.hash ∘ Threat.taggedBy found.all) = Threat.hash := by
          funext threat
          have same : (threat.taggedBy found.all).unassigned.hash = threat.unassigned.hash := by
            rw [Threat.unassigned_taggedBy]
          exact same
        rwa [kept.threats_eq, List.map_map, hashes]

theorem nodup_hashes_run (steps : List Step) : ((run steps).threats.map Threat.hash).Nodup :=
  runFrom_induction (fun store => (store.threats.map Threat.hash).Nodup)
    (fun _ _ distinct step => nodup_hashes_apply distinct step) steps Store.isSound_empty
    List.nodup_nil

/-- In every history no two records have one hash or one number, and the numbers count the
threats in the order of their arrival. A threat that arrives next ends in a fault exactly
where the store cannot express it; of the other ones those are refused whose hash is
known or that do not tell what they must, and in both cases the store stays as it is. A
threat that is recorded has the next number. However the history goes on, a record of this
number is given back, the only one, and it recalls the threat, provided that this told its
confidence as a finite double other than the negative zero. -/
theorem records_kept (steps : List Step) :
    ((run steps).threats.map Threat.hash).Nodup ∧ ((run steps).threats.map Threat.id).Nodup ∧
      (run steps).threats.map Threat.id = (List.range (run steps).threats.length).map
        (fun (index : Nat) => some (index + 1 : Int)) ∧
      ∀ now threat,
        ((∃ fault, (run steps).insert now threat = .error fault) ↔ ¬threat.IsStorable now) ∧
        (∀ after, (run steps).insert now threat = .ok (none, after) ↔
          threat.IsStorable now ∧ (run steps).Refuses threat ∧ after = run steps) ∧
        (¬threat.IsStorable now ∨ (run steps).Refuses threat →
          run (steps ++ [.arrival now threat]) = run steps) ∧
        ∀ number after, (run steps).insert now threat = .ok (some number, after) →
          number = (run steps).threats.length + 1 ∧
            (threat.TellsConfidence → ∀ more, ∃ record,
              (run (steps ++ .arrival now threat :: more)).GivesBack record ∧
                record.id = some (number : Int) ∧ record.Recalls threat) := by
  have sound := isSound_run steps
  refine ⟨nodup_hashes_run steps, sound.nodup_ids, sound.numbered, fun now threat =>
    ⟨Store.exists_insert_eq_error_iff, fun after => Store.insert_eq_none_iff, ?_, ?_⟩⟩
  · intro unrecorded
    rw [run_append]
    exact apply_eq_self unrecorded
  · intro number after inserted
    rcases Store.insert_eq_some inserted with ⟨isNext, accepts, record, stores, grown⟩
    refine ⟨isNext, fun tells more => ?_⟩
    have complete := (Bool.and_eq_true_iff.mp (Store.not_refuses_iff.mp accepts)).1
    have recorded : record ∈ after.threats := by simp [grown]
    have history : run (steps ++ .arrival now threat :: more) = runFrom after more := by
      rw [run_append]
      simp [runFrom, apply, inserted]
    rcases exists_record_of_mem recorded more with ⟨later, member, same⟩
    have sameId : later.unassigned.id = record.unassigned.id := by rw [same]
    have soundLater : (runFrom after more).IsSound :=
      history ▸ isSound_run (steps ++ .arrival now threat :: more)
    rw [history]
    refine ⟨later, ?_, ?_, ?_⟩
    · exact Store.givesBack_of_mem soundLater member
    · exact sameId.trans (Store.storedThreat_eq_ok stores).1
    · exact (Store.recalls_of_storedThreat stores complete tells).of_unassigned same

def login : Threat where
  source := .guard
  address := some "10.0.0.1"
  attack := some "ssh"
  time := some (reading 10)
  hash := some "login"
  severity := none
  receivedAt := some (reading 10)

/-- The login by a clock that is an hour ahead, before the calendar of the universal clock
begins. -/
def earlyLogin : Threat :=
  { login with time := some ⟨Calendar.microsPerMinute, by decide,
    some ⟨Calendar.microsPerHour, by decide⟩⟩ }

/-- A login of a known hash ends in a fault and is not refused where its time is before all
that the universal clock shows, and the record of a login that is silent on its severity
has another one. -/
theorem early_login_is_not_refused_and_severity_is_filled_in :
    (run [.arrival (reading 10) login]).Refuses earlyLogin ∧
      (run [.arrival (reading 10) login]).insert (reading 10) earlyLogin =
        .error .dateOutOfRange ∧
      login.severity = none ∧
      (run [.arrival (reading 10) login]).threats.map Threat.severity = [some "medium"] := by
  refine ⟨.inl ?_, ?_, rfl, ?_⟩
  · decide +kernel
  · rfl
  · decide +kernel

/-- A login to a trap by a clock two hours ahead of the universal one, which tells the least
confidence above zero and leaves its techniques out. -/
def fullLogin : Threat where
  source := .trap
  address := some "10.0.0.1"
  attack := some "scan"
  time := some ⟨(1440 + 215) * Calendar.microsPerMinute, by decide,
    some ⟨2 * Calendar.microsPerHour, by decide⟩⟩
  hash := some "full"
  techniques := none
  confidence := some (.real (.finite false 1))
  severity := some ""
  tools := some ["nmap"]

/-- The fourth threat of a day is recorded under the next number, taken into a campaign, and
given back as it was. -/
theorem full_login_is_given_back :
    ∃ record, (run (threeAttacks ++ .arrival (reading 100) fullLogin ::
        [.scan pairs (unhindered 200) (reading 200)])).GivesBack record ∧
      record.id = some 4 ∧ record.Recalls fullLogin ∧ record.campaign.isSome = true := by
  have tells : fullLogin.TellsConfidence := ⟨false, 1, rfl, by simp⟩
  have kept := (records_kept threeAttacks).2.2.2 (reading 100) fullLogin
  rcases (kept.2.2.2 4 _ rfl).2 tells [.scan pairs (unhindered 200) (reading 200)] with
    ⟨record, given, isFourth, recalls⟩
  refine ⟨record, given, isFourth, recalls, ?_⟩
  have assigned : ∀ other ∈ (run (threeAttacks ++ .arrival (reading 100) fullLogin ::
      [.scan pairs (unhindered 200) (reading 200)])).threats,
      other.id = some 4 → other.campaign.isSome = true := by decide +kernel
  exact assigned record given.stored isFourth

end History

end ThreatWatch
