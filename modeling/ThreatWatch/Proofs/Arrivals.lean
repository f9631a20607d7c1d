import ThreatWatch.Proofs.Agreement
import ThreatWatch.Proofs.Resemblance

/-! Attacks that arrive in another order. The store numbers attacks as they arrive, and
so the numbers, the order among attacks of one time, the order of the campaigns and
their identities all depend on the order of arrival. Which attacks make a campaign, and
what the campaign says of them, do not. -/

namespace ThreatWatch

/-! ## The entries of a scan -/

def FoundCampaign.entry (saved : Calendar.Moment) (found : FoundCampaign) : String × Campaign :=
  (found.campaign.id, { found.campaign with createdAt := some saved, updatedAt := some saved })

namespace Store

variable {store after : Store} {found : FoundCampaign} {founds occurring : List FoundCampaign}
  {saved : Calendar.Moment} {report : ScanReport}

theorem save_eq_ok_of_absent {campaign : Campaign} (absent : store.campaign? campaign.id = none)
    (saves : store.save saved campaign = .ok after) :
    ∃ record, storedCampaign saved saved campaign = .ok record ∧
      after = { store with campaigns := store.campaigns ++ [(campaign.id, record)] } := by
  rcases bind_eq_ok_iff.mp saves with ⟨record, recorded, equal⟩
  rw [absent] at recorded
  refine ⟨record, recorded, ?_⟩
  rw [← pure_eq_ok_iff.mp equal, Table.put_of_not_mem_keys (Table.get?_eq_none_iff.mp absent)]

theorem Agrees.keeps_entry (agrees : store.Agrees occurring)
    (distinguished : FoundCampaign.Distinguished occurring) (pending : store.Pending founds)
    (member : found ∈ founds) (occurs : found ∈ occurring)
    (kept : Scan.Keeps saved store found report after) :
    after = { store.withTags found with campaigns := store.campaigns ++ [found.entry saved] } := by
  have absent := agrees.campaign?_eq_none distinguished pending member occurs
  cases kept with
  | created _ save tag =>
      rcases save_eq_ok_of_absent absent save with ⟨record, recorded, rfl⟩
      have timed : ∀ threat ∈ found.members, threat.IsTimed := fun threat inMembers =>
        agrees.sound.timed threat (pending.stored member threat inMembers)
      rw [tag_eq_ok tag, (pending.summarised found member).storedCampaign_eq timed recorded]
      rfl
  | updated present => rw [absent] at present; cases present

theorem Agrees.keepsAll_entries (agrees : store.Agrees occurring)
    (distinguished : FoundCampaign.Distinguished occurring) (pending : store.Pending founds)
    (occur : ∀ found ∈ founds, found ∈ occurring)
    (kept : Scan.KeepsAll saved store founds report after) :
    after.campaigns = store.campaigns ++ founds.map (FoundCampaign.entry saved) ∧
      (∀ found ∈ founds, after.threatsOf found.campaign.id =
        found.members.map fun threat => { threat with campaign := some found.campaign.id }) ∧
      ∀ key ∈ Table.keys store.campaigns, after.threatsOf key = store.threatsOf key := by
  induction kept with
  | nil => exact ⟨by simp, by simp, fun _ _ => rfl⟩
  | @cons store between after found rest report others first later induction =>
      have member : found ∈ found :: rest := List.mem_cons_self
      have occurs := occur found member
      have sound := agrees.sound
      have stored := pending.stored member
      have absent := Table.get?_eq_none_iff.mp
        (agrees.campaign?_eq_none distinguished pending member occurs)
      have fresh : ∀ threat ∈ store.threats, threat.campaign ≠ some found.campaign.id :=
        fun threat inStore belongs => absent (agrees.rowOfTag threat inStore _ belongs)
      rcases induction (agrees.keeps distinguished pending occurs first)
          (pending.keeps sound first) (fun other inRest => occur other (List.mem_cons_of_mem _ inRest))
        with ⟨entries, ofRest, unchanged⟩
      have isBetween := agrees.keeps_entry distinguished pending member occurs first
      subst isBetween
      have keys : Table.keys (store.campaigns ++ [found.entry saved]) =
          Table.keys store.campaigns ++ [found.campaign.id] := by
        rw [Table.keys, List.map_append]
        rfl
      refine ⟨by simp [entries], fun other inAll => ?_, fun key present => ?_⟩
      · rcases List.mem_cons.mp inAll with rfl | inRest
        · rw [unchanged _ (by simp [keys])]
          exact threatsOf_withTags_self sound stored (pending.ordered _ member) fresh
        · exact ofRest other inRest
      · have different : key ≠ found.campaign.id := fun equal => absent (equal ▸ present)
        rw [unchanged key (by simp [keys, present])]
        exact threatsOf_withTags_of_ne sound stored (pending.untagged found member) different

end Store

/-! ## What arrives -/

namespace Store

/-- What a store remembers of a threat beside its number, where the threat tells when it
was received: nothing where it is incomplete or cannot be told on the universal clock. -/
def remembered? (threat : Threat) : Option Threat :=
  threat.receivedAt.bind fun received =>
    if isComplete threat then ((storedThreat 0 received threat).map Threat.bare).toOption else none

theorem map_bare_storedThreat {received : Calendar.Moment} {threat : Threat}
    (tells : threat.receivedAt = some received) (number : Nat) (now : Calendar.Moment) :
    (storedThreat number now threat).map Threat.bare =
      (storedThreat 0 received threat).map Threat.bare := by
  unfold storedThreat
  rw [tells, Option.getD_some, Option.getD_some]
  cases utcIfAny threat.time with
  | error => rfl
  | ok time =>
      cases storedConfidence threat.confidence with
      | error => rfl
      | ok confidence => cases utcOf received <;> rfl

/-- Threats that wait in a store, none of which belongs to a campaign. -/
structure Waits (store : Store) (remembered : List Threat) : Prop where
  threats : store.threats.map Threat.bare = remembered
  campaigns : store.campaigns = []
  untagged : ∀ threat ∈ store.threats, threat.campaign = none

variable {store one other : Store}

theorem Waits.gist_awaiting {remembered others : List Threat} (oneWaits : one.Waits remembered)
    (otherWaits : other.Waits others) (perm : remembered.Perm others) (since : Int) :
    Threat.gist (one.awaiting since) = Threat.gist (other.awaiting since) := by
  let arrived (threat : Threat) : Bool :=
    threat.receivedAt.any fun received => decide (since < received.instant)
  have awaits {store : Store} (untagged : ∀ threat ∈ store.threats, threat.campaign = none) :
      store.awaiting since = store.threats.filter arrived :=
    List.filter_congr fun threat member => by simp [isAwaiting, arrived, untagged threat member]
  have same : Threat.gist one.threats = Threat.gist other.threats := by
    rw [Threat.gist_eq_iff, oneWaits.threats, otherWaits.threats]
    exact perm
  rw [awaits oneWaits.untagged, awaits otherWaits.untagged]
  exact Threat.gist_filter (fun _ => rfl) same

end Store

namespace History

def arriving (arrivals : List (Calendar.Moment × Threat)) : List Step :=
  arrivals.map fun arrival => .arrival arrival.1 arrival.2

variable {store : Store} {remembered : List Threat}

theorem apply_arrival_of_error {now : Calendar.Moment} {threat : Threat} {fault : Fault}
    (failed : Store.storedThreat (store.threats.length + 1) now threat = .error fault) :
    apply store (.arrival now threat) = store := by
  simp [apply, Store.insert, failed, bind, Except.bind]

theorem apply_arrival_of_ok {now : Calendar.Moment} {threat record : Threat}
    (recorded : Store.storedThreat (store.threats.length + 1) now threat = .ok record)
    (unknown : store.holdsHash threat = false) :
    apply store (.arrival now threat) = if Store.isComplete threat then
      { store with threats := store.threats ++ [record] } else store := by
  cases complete : Store.isComplete threat <;>
    simp [apply, Store.insert, recorded, unknown, complete, bind, Except.bind, pure, Except.pure]

theorem waits_arrival (waits : store.Waits remembered) {threat : Threat}
    (received : threat.receivedAt.isSome = true) (untagged : threat.campaign = none)
    (new : ∀ record ∈ remembered, record.hash ≠ threat.hash) (now : Calendar.Moment) :
    (apply store (.arrival now threat)).Waits (remembered ++ (Store.remembered? threat).toList) := by
  rcases Option.isSome_iff_exists.mp received with ⟨moment, tells⟩
  have unknown : store.holdsHash threat = false := by
    rw [Store.holdsHash, List.any_eq_false]
    intro stored member
    have inRemembered : stored.bare ∈ remembered := by
      rw [← waits.threats]
      exact List.mem_map_of_mem member
    exact fun same => new stored.bare inRemembered (eq_of_beq same)
  have remembers : Store.remembered? threat = if Store.isComplete threat then
      ((Store.storedThreat (store.threats.length + 1) now threat).map Threat.bare).toOption
      else none := by
    rw [Store.remembered?, tells, Option.bind_some, Store.map_bare_storedThreat tells _ now]
  rw [remembers]
  cases recorded : Store.storedThreat (store.threats.length + 1) now threat with
  | error fault =>
      rw [apply_arrival_of_error recorded]
      simpa [Except.map, Except.toOption] using waits
  | ok record =>
      rw [apply_arrival_of_ok recorded unknown]
      cases Store.isComplete threat with
      | false => simpa using waits
      | true =>
          have recordUntagged : record.campaign = none :=
            (Store.storedThreat_eq_ok recorded).2.1.trans untagged
          refine ⟨?_, waits.campaigns, fun stored member => ?_⟩
          · simp [Except.map, Except.toOption, waits.threats]
          · rcases List.mem_append.mp member with earlier | isNew
            · exact waits.untagged stored earlier
            · rw [List.mem_singleton.mp isNew, recordUntagged]

theorem hash_of_remembered? {threat record : Threat}
    (remembers : Store.remembered? threat = some record) : record.hash = threat.hash := by
  rcases Option.bind_eq_some_iff.mp remembers with ⟨received, _, rest⟩
  split at rest
  · cases recorded : Store.storedThreat 0 received threat with
    | error fault =>
        rw [recorded] at rest
        cases rest
    | ok stored =>
        rw [recorded] at rest
        cases rest
        have sameHash : stored.hash = threat.hash := Store.hash_of_storedThreat recorded
        exact sameHash
  · cases rest

/-- Threats of different hashes that belong to no campaign and tell when they were
received all wait when they have arrived, as they are remembered. -/
theorem waits_runFrom_arriving {arrivals : List (Calendar.Moment × Threat)}
    (waits : store.Waits remembered)
    (received : ∀ arrival ∈ arrivals, arrival.2.receivedAt.isSome = true)
    (untagged : ∀ arrival ∈ arrivals, arrival.2.campaign = none)
    (distinct : (arrivals.map fun arrival => arrival.2.hash).Nodup)
    (new : ∀ arrival ∈ arrivals, ∀ record ∈ remembered, record.hash ≠ arrival.2.hash) :
    (runFrom store (arriving arrivals)).Waits
      (remembered ++ arrivals.flatMap fun arrival => (Store.remembered? arrival.2).toList) := by
  induction arrivals generalizing store remembered with
  | nil =>
      rw [List.flatMap_nil, List.append_nil]
      exact waits
  | cons arrival rest induction =>
      rcases List.nodup_cons.mp distinct with ⟨apart, restDistinct⟩
      have next := waits_arrival waits (received arrival (by simp)) (untagged arrival (by simp))
        (new arrival (by simp)) arrival.1
      rw [List.flatMap_cons, ← List.append_assoc]
      refine induction next (fun other member => received other (List.mem_cons_of_mem _ member))
        (fun other member => untagged other (List.mem_cons_of_mem _ member)) restDistinct
        fun other member record known => ?_
      rcases List.mem_append.mp known with earlier | isNew
      · exact new other (List.mem_cons_of_mem _ member) record earlier
      · rw [hash_of_remembered? (Option.mem_toList.mp isNew)]
        exact fun same => apart (List.mem_map.mpr ⟨other, member, same.symm⟩)

end History

/-! ## Two orders of arrival -/

/-- Entries in two stores for campaigns of the same attacks, known by their hashes, that
say the same of them. -/
structure Store.Matches (one other : Store) (left right : String × Campaign) : Prop where
  hashes : ((one.threatsOf left.1).map Threat.hash).Perm ((other.threatsOf right.1).map Threat.hash)
  record : left.2.Resembles right.2

namespace Store

variable {one other : Store} {left right : FoundCampaign} {occurring others : List FoundCampaign}

theorem matches_entry (resembles : left.Resembles right) {saved savedLater : Calendar.Moment}
    (ofLeft : one.threatsOf left.campaign.id =
      left.members.map fun threat => { threat with campaign := some left.campaign.id })
    (ofRight : other.threatsOf right.campaign.id =
      right.members.map fun threat => { threat with campaign := some right.campaign.id }) :
    one.Matches other (left.entry saved) (right.entry savedLater) where
  hashes := by
    have same : Threat.gist (one.threatsOf left.campaign.id) =
        Threat.gist (other.threatsOf right.campaign.id) := by
      rw [ofLeft, ofRight, Threat.gist_map_campaign, Threat.gist_map_campaign, resembles.members]
    exact Threat.map_perm_of_gist (fun _ => rfl) same
  record := { resembles.campaign with }

theorem correlated_perm_of_rel (oneAgrees : one.Agrees occurring) (otherAgrees : other.Agrees others)
    (rel : Multiset.Rel (one.Matches other) one.campaigns other.campaigns) :
    (one.correlated.map Threat.hash).Perm (other.correlated.map Threat.hash) := by
  have ofCampaigns {store : Store} {occurring : List FoundCampaign} (agrees : store.Agrees occurring) :
      (store.correlated.map Threat.hash : Multiset (Option String)) =
        Multiset.bind (store.campaigns : Multiset (String × Campaign)) fun entry =>
          ((store.threatsOf entry.1).map Threat.hash : Multiset (Option String)) := by
    rw [Multiset.coe_bind, Multiset.coe_eq_coe, ← List.map_flatMap]
    exact agrees.correlated_perm.symm.map Threat.hash
  rw [← Multiset.coe_eq_coe, ofCampaigns oneAgrees, ofCampaigns otherAgrees, ← Multiset.rel_eq]
  refine Multiset.rel_bind (fun first second same => ?_) rel
  rw [Multiset.rel_eq, Multiset.coe_eq_coe]
  exact same.hashes

end Store

namespace History

def arrivingThenScan (arrivals : List (Calendar.Moment × Threat)) (settings : CorrelationSettings)
    (surroundings : Surroundings) (now : Calendar.Moment) : List Step :=
  arriving arrivals ++ [.scan settings surroundings now]

theorem occurringFrom_append (store : Store) (steps more : List Step) :
    occurringFrom store (steps ++ more) =
      occurringFrom store steps ++ occurringFrom (runFrom store steps) more := by
  induction steps generalizing store with
  | nil => rfl
  | cons step rest induction =>
      rw [List.cons_append, occurringFrom, occurringFrom, induction, List.append_assoc]
      rfl

variable {arrivals : List (Calendar.Moment × Threat)} {settings : CorrelationSettings}
  {surroundings : Surroundings} {now : Calendar.Moment} {report : ScanReport}

/-- A completed scan after arrivals leaves an entry for each campaign that it finds, and
the entries agree with the tags. -/
theorem entries_of_arrivingThenScan {remembered : List Threat}
    (waits : (run (arriving arrivals)).Waits remembered)
    (untagged : ∀ arrival ∈ arrivals, arrival.2.campaign = none)
    (completes :
      ((correlator settings (run (arriving arrivals))).scan surroundings now).1 = .ok report)
    (distinguished : FoundCampaign.Distinguished
      (occurringFrom {} (arrivingThenScan arrivals settings surroundings now))) :
    (run (arrivingThenScan arrivals settings surroundings now)).Agrees
        (occurringFrom {} (arrivingThenScan arrivals settings surroundings now)) ∧
      ∃ found, Scan.findings settings now (run (arriving arrivals)) = .ok found ∧
        (run (arrivingThenScan arrivals settings surroundings now)).campaigns =
          found.all.map (FoundCampaign.entry surroundings.now) ∧
        ∀ campaign ∈ found.all,
          (run (arrivingThenScan arrivals settings surroundings now)).threatsOf campaign.campaign.id =
            campaign.members.map fun threat =>
              { threat with campaign := some campaign.campaign.id } := by
  rcases keepsAll_of_scan completes with ⟨found, told, kept⟩
  have begun : ∀ step ∈ arriving arrivals, step.IsUntagged := by
    intro step member
    rcases List.mem_map.mp member with ⟨arrival, arrivalMember, rfl⟩
    exact untagged arrival arrivalMember
  have occurs : ∀ campaign ∈ found.all,
      campaign ∈ occurringFrom {} (arrivingThenScan arrivals settings surroundings now) := by
    intro campaign member
    rw [arrivingThenScan, occurringFrom_append]
    refine List.mem_append_right _ (List.mem_append_left _ ?_)
    rw [← run, keptBy, completes, told]
    exact member
  have agrees : (run (arriving arrivals)).Agrees
      (occurringFrom {} (arrivingThenScan arrivals settings surroundings now)) := by
    refine agrees_runFrom agrees_empty distinguished begun fun campaign member => ?_
    rw [arrivingThenScan, occurringFrom_append]
    exact List.mem_append_left _ member
  have pending := Store.pending_of_findings agrees.sound told
  rcases agrees.keepsAll_entries distinguished pending occurs kept with ⟨entries, ofFound, _⟩
  have after : run (arrivingThenScan arrivals settings surroundings now) =
      apply (run (arriving arrivals)) (.scan settings surroundings now) := run_append _ _
  rw [after]
  rw [waits.campaigns, List.nil_append] at entries
  exact ⟨agrees.keepsAll distinguished pending occurs kept, found, told, entries, ofFound⟩

/-- The order of arrival does not matter to a scan. Of the same threats, which have
different hashes, belong to no campaign and tell when they were received, two stores
that took them in in any two orders are left by a completed scan, with the same settings
and the same reading of the clock, with campaigns that match one for one: campaigns of
the same attacks, known by their hashes, that say the same of them. So the same attacks
belong to campaigns. -/
theorem campaigns_ignore_order_of_arrival {first second : List (Calendar.Moment × Threat)}
    (same : (first.map Prod.snd).Perm (second.map Prod.snd))
    (distinct : (first.map fun arrival => arrival.2.hash).Nodup)
    (untagged : ∀ arrival ∈ first, arrival.2.campaign = none)
    (received : ∀ arrival ∈ first, arrival.2.receivedAt.isSome = true)
    {settings : CorrelationSettings} {one other : Surroundings} {now : Calendar.Moment}
    {firstReport secondReport : ScanReport}
    (firstCompletes :
      ((correlator settings (run (arriving first))).scan one now).1 = .ok firstReport)
    (secondCompletes :
      ((correlator settings (run (arriving second))).scan other now).1 = .ok secondReport)
    (firstDistinguished : FoundCampaign.Distinguished
      (occurringFrom {} (arrivingThenScan first settings one now)))
    (secondDistinguished : FoundCampaign.Distinguished
      (occurringFrom {} (arrivingThenScan second settings other now))) :
    Multiset.Rel
        (Store.Matches (run (arrivingThenScan first settings one now))
          (run (arrivingThenScan second settings other now)))
        (run (arrivingThenScan first settings one now)).campaigns
        (run (arrivingThenScan second settings other now)).campaigns ∧
      ((run (arrivingThenScan first settings one now)).correlated.map Threat.hash).Perm
        ((run (arrivingThenScan second settings other now)).correlated.map Threat.hash) := by
  have inFirst : ∀ arrival ∈ second, ∃ other ∈ first, other.2 = arrival.2 := fun arrival member =>
    List.mem_map.mp (same.mem_iff.mpr (List.mem_map_of_mem member))
  have secondUntagged : ∀ arrival ∈ second, arrival.2.campaign = none := by
    intro arrival member
    rcases inFirst arrival member with ⟨other, otherMember, equal⟩
    exact equal ▸ untagged other otherMember
  have secondReceived : ∀ arrival ∈ second, arrival.2.receivedAt.isSome = true := by
    intro arrival member
    rcases inFirst arrival member with ⟨other, otherMember, equal⟩
    exact equal ▸ received other otherMember
  have secondDistinct : (second.map fun arrival => arrival.2.hash).Nodup := by
    have hashes := same.map Threat.hash
    rw [List.map_map, List.map_map] at hashes
    exact hashes.nodup_iff.mp distinct
  have empty : Store.Waits {} [] := ⟨rfl, rfl, by simp⟩
  have firstWaits := waits_runFrom_arriving empty received untagged distinct (by simp)
  have secondWaits :=
    waits_runFrom_arriving empty secondReceived secondUntagged secondDistinct (by simp)
  have remembered := same.flatMap_right fun threat => (Store.remembered? threat).toList
  rw [List.flatMap_map, List.flatMap_map] at remembered
  rcases entries_of_arrivingThenScan firstWaits untagged firstCompletes firstDistinguished with
    ⟨firstAgrees, firstFound, firstTold, firstEntries, ofFirst⟩
  rcases entries_of_arrivingThenScan secondWaits secondUntagged secondCompletes
    secondDistinguished with ⟨secondAgrees, secondFound, secondTold, secondEntries, ofSecond⟩
  have found := Scan.rel_findings (isSound_run _) (isSound_run _)
    (firstWaits.gist_awaiting secondWaits remembered) firstTold secondTold
  have matching : Multiset.Rel
      (Store.Matches (run (arrivingThenScan first settings one now))
        (run (arrivingThenScan second settings other now)))
      (run (arrivingThenScan first settings one now)).campaigns
      (run (arrivingThenScan second settings other now)).campaigns := by
    rw [firstEntries, secondEntries, ← Multiset.map_coe, ← Multiset.map_coe]
    refine Multiset.rel_map.mpr (found.mono fun left leftMember right rightMember resembles => ?_)
    exact Store.matches_entry resembles (ofFirst left leftMember) (ofSecond right rightMember)
  exact ⟨matching, Store.correlated_perm_of_rel firstAgrees secondAgrees matching⟩

def relayed (address attack : String) (minute : Nat) : Calendar.Moment × Threat :=
  (reading minute, {
    source := .guard
    address := some address
    attack := some attack
    time := some (reading minute)
    hash := some (address ++ attack ++ toString minute)
    receivedAt := some (reading minute) })

def scansThenLogins : List (Calendar.Moment × Threat) :=
  [relayed "10.0.0.1" "scan" 10, relayed "10.0.0.1" "scan" 20, relayed "10.0.0.2" "login" 30,
    relayed "10.0.0.3" "login" 30]

def pairsAnywhere : CorrelationSettings := { leastEvents := .whole 2, leastAddresses := .whole 2 }

/-- The scans and the logins make two campaigns in either order. -/
theorem logins_then_scans_match :
    Multiset.Rel
        (Store.Matches
          (run (arrivingThenScan scansThenLogins pairsAnywhere (unhindered 200) (reading 200)))
          (run (arrivingThenScan scansThenLogins.reverse pairsAnywhere (unhindered 300)
            (reading 200))))
        (run (arrivingThenScan scansThenLogins pairsAnywhere (unhindered 200) (reading 200))).campaigns
        (run (arrivingThenScan scansThenLogins.reverse pairsAnywhere (unhindered 300)
          (reading 200))).campaigns ∧
      (run (arrivingThenScan scansThenLogins pairsAnywhere (unhindered 200)
        (reading 200))).campaigns.length = 2 := by
  have same : (scansThenLogins.map Prod.snd).Perm (scansThenLogins.reverse.map Prod.snd) :=
    (List.reverse_perm _).symm.map Prod.snd
  have firstCompletes : ((correlator pairsAnywhere (run (arriving scansThenLogins))).scan
      (unhindered 200) (reading 200)).1 = .ok ⟨2, 0, 4⟩ := by
    decide +kernel
  have secondCompletes : ((correlator pairsAnywhere (run (arriving scansThenLogins.reverse))).scan
      (unhindered 300) (reading 200)).1 = .ok ⟨2, 0, 4⟩ := by
    decide +kernel
  refine ⟨(campaigns_ignore_order_of_arrival same (by decide +kernel) (by decide +kernel)
    (by decide +kernel) firstCompletes secondCompletes (by decide +kernel)
    (by decide +kernel)).1, ?_⟩
  decide +kernel

end History

end ThreatWatch
