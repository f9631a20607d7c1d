import Mathlib.Data.List.Range
import ThreatWatch.Proofs.Keeping
import ThreatWatch.Proofs.Windows

/-! Stores as their writes leave them. Threats are numbered without gaps and tell
their times on the clock of universal time, and every campaign stands once, under
its own identity. Each write is known here by all that it changes. -/

namespace ThreatWatch

namespace Threat

def tagged (campaign : String) (ids : List Int) (threat : Threat) : Threat :=
  if threat.id.any ids.contains then { threat with campaign := some campaign } else threat

variable {campaign : String} {ids : List Int} {threat : Threat}

theorem tagged_of_mem {number : Int} (numbered : threat.id = some number) (member : number ∈ ids) :
    threat.tagged campaign ids = { threat with campaign := some campaign } := by
  rw [tagged, if_pos (by simp [numbered, member])]

theorem tagged_of_not_mem (absent : ∀ number, threat.id = some number → number ∉ ids) :
    threat.tagged campaign ids = threat := by
  rw [tagged, if_neg]
  cases numbered : threat.id with
  | none => simp
  | some number => simpa using absent number numbered

@[simp] theorem tagged_id : (threat.tagged campaign ids).id = threat.id := by
  unfold tagged
  split <;> rfl

@[simp] theorem tagged_time : (threat.tagged campaign ids).time = threat.time := by
  unfold tagged
  split <;> rfl

@[simp] theorem tagged_instant : (threat.tagged campaign ids).instant = threat.instant := by
  rw [instant, tagged_time, instant]

end Threat

namespace Store

/-- What every store that is filled by its own writes keeps to. -/
structure IsSound (store : Store) : Prop where
  /-- Threats have the numbers from one on, in order. -/
  numbered : store.threats.map Threat.id =
    (List.range store.threats.length).map fun (index : Nat) => some (index + 1 : Int)
  timed : ∀ threat ∈ store.threats, threat.IsTimed
  /-- A campaign stands under its identity. -/
  keyed : ∀ entry ∈ store.campaigns, entry.2.id = entry.1
  nodupKeys : (Table.keys store.campaigns).Nodup

theorem isSound_empty : IsSound {} where
  numbered := rfl
  timed _ member := by cases member
  keyed _ member := by cases member
  nodupKeys := List.nodup_nil

variable {store after : Store}

namespace IsSound

theorem nodup_ids (sound : store.IsSound) : (store.threats.map Threat.id).Nodup := by
  rw [sound.numbered]
  refine List.Nodup.map ?_ List.nodup_range
  intro left right equal
  have same := Option.some.inj equal
  omega

theorem nodup_threats (sound : store.IsSound) : store.threats.Nodup :=
  sound.nodup_ids.of_map

theorem eq_of_id_eq (sound : store.IsSound) {left right : Threat} (leftMember : left ∈ store.threats)
    (rightMember : right ∈ store.threats) (equal : left.id = right.id) : left = right :=
  List.inj_on_of_nodup_map sound.nodup_ids leftMember rightMember equal

theorem exists_id (sound : store.IsSound) {threat : Threat} (member : threat ∈ store.threats) :
    ∃ number, threat.id = some number := by
  have named : threat.id ∈ store.threats.map Threat.id := List.mem_map_of_mem member
  rw [sound.numbered] at named
  rcases List.mem_map.mp named with ⟨index, _, equal⟩
  exact ⟨_, equal.symm⟩

theorem pairwise_ids (sound : store.IsSound) :
    store.threats.Pairwise fun earlier later =>
      ∃ left right, earlier.id = some left ∧ later.id = some right ∧ left < right := by
  have growing : ((List.range store.threats.length).map fun (index : Nat) =>
      some (index + 1 : Int)).Pairwise fun earlier later =>
        ∃ left right, earlier = some left ∧ later = some right ∧ left < right := by
    rw [List.pairwise_map]
    refine List.pairwise_lt_range.imp fun {earlier later} less => ?_
    exact ⟨_, _, rfl, rfl, by omega⟩
  rwa [← sound.numbered, List.pairwise_map] at growing

end IsSound

/-! ## Writes -/

theorem utcOf_eq_ok {time result : Calendar.Moment} (told : utcOf time = .ok result) :
    result.instant = time.instant ∧ result.offset = some Calendar.Offset.utc := by
  unfold utcOf at told
  cases read : time.toUtc? with
  | some utc =>
      rw [read] at told
      cases told
      exact Calendar.Moment.toUtc?_eq_some read
  | none => rw [read] at told; cases told

theorem utcOf_of_utc {time : Calendar.Moment} (utc : time.offset = some Calendar.Offset.utc) :
    utcOf time = .ok time := by
  rw [utcOf, Calendar.Moment.toUtc?_of_utc utc]

theorem utcIfAny_of_utc {time : Option Calendar.Moment}
    (utc : time.bind Calendar.Moment.offset = some Calendar.Offset.utc) :
    utcIfAny time = .ok time := by
  rcases Option.bind_eq_some_iff.mp utc with ⟨moment, rfl, ofMoment⟩
  rw [utcIfAny, utcOf_of_utc ofMoment]
  rfl

theorem insert_eq_ok {now : Calendar.Moment} {threat : Threat} {id : Option Nat}
    (inserted : store.insert now threat = .ok (id, after)) :
    after = store ∨ ∃ record, storedThreat (store.threats.length + 1) now threat = .ok record ∧
      isComplete threat = true ∧ after = { store with threats := store.threats ++ [record] } := by
  rcases bind_eq_ok_iff.mp inserted with ⟨record, recorded, rest⟩
  split at rest
  · next accepted =>
      cases rest
      exact .inr ⟨record, recorded, (Bool.and_eq_true_iff.mp accepted).1, rfl⟩
  · cases rest
    exact .inl rfl

theorem storedThreat_eq_ok {number : Nat} {now : Calendar.Moment} {threat record : Threat}
    (recorded : storedThreat number now threat = .ok record) :
    record.id = some (number : Int) ∧ record.campaign = threat.campaign ∧
      utcIfAny threat.time = .ok record.time := by
  rcases bind_eq_ok_iff.mp recorded with ⟨time, timeStored, afterTime⟩
  rcases bind_eq_ok_iff.mp afterTime with ⟨confidence, _, afterConfidence⟩
  rcases bind_eq_ok_iff.mp afterConfidence with ⟨received, _, equal⟩
  cases equal
  exact ⟨rfl, rfl, timeStored⟩

theorem hash_of_storedThreat {number : Nat} {now : Calendar.Moment} {threat record : Threat}
    (recorded : storedThreat number now threat = .ok record) : record.hash = threat.hash := by
  rcases bind_eq_ok_iff.mp recorded with ⟨time, _, afterTime⟩
  rcases bind_eq_ok_iff.mp afterTime with ⟨confidence, _, afterConfidence⟩
  rcases bind_eq_ok_iff.mp afterConfidence with ⟨received, _, equal⟩
  cases equal
  rfl

theorem tag_eq_ok {campaign : String} {ids : List Int}
    (tagged : store.tag campaign ids = .ok after) :
    after = { store with threats := store.threats.map (Threat.tagged campaign ids) } := by
  unfold tag at tagged
  split at tagged
  · exact (Except.ok.inj tagged).symm
  · cases tagged

theorem save_eq_ok {now : Calendar.Moment} {campaign : Campaign}
    (saved : store.save now campaign = .ok after) :
    ∃ created record, storedCampaign created now campaign = .ok record ∧
      after = { store with campaigns := store.campaigns.put campaign.id record } := by
  rcases bind_eq_ok_iff.mp saved with ⟨record, recorded, equal⟩
  exact ⟨_, record, recorded, (pure_eq_ok_iff.mp equal).symm⟩

theorem storedInt_eq_ok {number result : Int} (stored : storedInt number = .ok result) :
    number = result := by
  unfold storedInt at stored
  split at stored
  · exact Except.ok.inj stored
  · cases stored

theorem storedCampaign_eq_ok {created updated : Calendar.Moment} {campaign record : Campaign}
    (recorded : storedCampaign created updated campaign = .ok record) :
    ∃ first last, utcIfAny campaign.firstSeen = .ok first ∧ utcIfAny campaign.lastSeen = .ok last ∧
      record = { campaign with
        firstSeen := first, lastSeen := last, createdAt := some created,
        updatedAt := some updated } := by
  rcases bind_eq_ok_iff.mp recorded with ⟨first, firstStored, afterFirst⟩
  rcases bind_eq_ok_iff.mp afterFirst with ⟨last, lastStored, afterLast⟩
  rcases bind_eq_ok_iff.mp afterLast with ⟨count, countStored, afterCount⟩
  rcases bind_eq_ok_iff.mp afterCount with ⟨addresses, addressesStored, equal⟩
  cases equal
  refine ⟨first, last, firstStored, lastStored, ?_⟩
  rw [storedInt_eq_ok countStored, storedInt_eq_ok addressesStored]

theorem id_of_merge {existing incoming merged : Campaign}
    (merges : existing.merge incoming = .ok merged) : merged.id = existing.id := by
  rcases bind_eq_ok_iff.mp merges with ⟨first, _, afterFirst⟩
  rcases bind_eq_ok_iff.mp afterFirst with ⟨last, _, equal⟩
  rw [← pure_eq_ok_iff.mp equal]

/-! ## What every write keeps -/

theorem isTimed_of_stored {time : Option Calendar.Moment} {record : Threat}
    (told : time.isSome = true) (stored : utcIfAny time = .ok record.time) : record.IsTimed := by
  rcases Option.isSome_iff_exists.mp told with ⟨moment, rfl⟩
  rcases map_eq_ok_iff.mp stored with ⟨utc, utcTold, equal⟩
  rw [Threat.IsTimed, ← equal]
  exact (utcOf_eq_ok utcTold).2

namespace IsSound

theorem insert (sound : store.IsSound) {now : Calendar.Moment} {threat : Threat} {id : Option Nat}
    (inserted : store.insert now threat = .ok (id, after)) : after.IsSound := by
  rcases insert_eq_ok inserted with rfl | ⟨record, recorded, complete, rfl⟩
  · exact sound
  · rcases storedThreat_eq_ok recorded with ⟨number, _, time⟩
    refine ⟨?_, ?_, sound.keyed, sound.nodupKeys⟩
    · simp [List.range_succ, sound.numbered, number]
    · intro threat member
      rcases List.mem_append.mp member with earlier | new
      · exact sound.timed threat earlier
      · rw [List.mem_singleton.mp new]
        refine isTimed_of_stored ?_ time
        simp only [isComplete, Bool.and_eq_true] at complete
        exact complete.1.2

theorem tag (sound : store.IsSound) {campaign : String} {ids : List Int}
    (tagged : store.tag campaign ids = .ok after) : after.IsSound := by
  rw [tag_eq_ok tagged]
  refine ⟨?_, ?_, sound.keyed, sound.nodupKeys⟩
  · simpa [Function.comp_def] using sound.numbered
  · intro threat member
    rcases List.mem_map.mp member with ⟨before, beforeMember, rfl⟩
    rw [Threat.IsTimed, Threat.tagged_time]
    exact sound.timed before beforeMember

theorem save (sound : store.IsSound) {now : Calendar.Moment} {campaign : Campaign}
    (saved : store.save now campaign = .ok after) : after.IsSound := by
  rcases save_eq_ok saved with ⟨created, record, recorded, rfl⟩
  rcases storedCampaign_eq_ok recorded with ⟨first, last, _, _, rfl⟩
  refine ⟨sound.numbered, sound.timed, ?_, Table.nodup_keys_put sound.nodupKeys _ _⟩
  intro entry member
  rcases (Table.mem_put sound.nodupKeys).mp member with rfl | ⟨earlier, _⟩
  · rfl
  · exact sound.keyed entry earlier

theorem keeps (sound : store.IsSound) {saved : Calendar.Moment} {found : FoundCampaign}
    {report : ScanReport} (kept : Scan.Keeps saved store found report after) : after.IsSound := by
  cases kept with
  | created _ save tag => exact (sound.save save).tag tag
  | updated _ _ save tag => exact (sound.save save).tag tag

theorem keepsAll {saved : Calendar.Moment} {founds : List FoundCampaign} {report : ScanReport}
    (sound : store.IsSound) (kept : Scan.KeepsAll saved store founds report after) :
    after.IsSound := by
  induction kept with
  | nil => exact sound
  | cons first _ induction => exact induction (sound.keeps first)

end IsSound

end Store

end ThreatWatch
