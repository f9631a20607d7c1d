import ThreatWatch.Proofs.Records

/-! The table of campaigns as an account of what was saved. Whatever transactions there
were, a campaign is found as it was last saved in one that was committed, together with the
times of its first and its last save. Work in a transaction finds what it has saved itself
besides, and what it saves under one identity changes nothing under another one. -/

namespace ThreatWatch

/-- A campaign that is saved, and the time at which it is. -/
structure CampaignSave where
  time : Calendar.Moment
  campaign : Campaign

namespace Campaign

/-- A store can express what the campaign tells: its times on the universal clock, and its
counts in 64 bits. -/
structure IsStorable (campaign : Campaign) : Prop where
  firstSeen : ∀ time, campaign.firstSeen = some time → time.HasUtc
  lastSeen : ∀ time, campaign.lastSeen = some time → time.HasUtc
  eventCount : Store.fits campaign.eventCount = true
  uniqueAddresses : Store.fits campaign.uniqueAddresses = true

/-- A record tells what a campaign told, its times on the universal clock, and when it was
saved for the first and for the last time; what the campaign told of this is lost. -/
structure Recalls (record campaign : Campaign) (created updated : Calendar.Moment) : Prop where
  id : record.id = campaign.id
  name : record.name = campaign.name
  kind : record.kind = campaign.kind
  firstSeen : Option.Rel Calendar.Moment.IsUtcOf record.firstSeen campaign.firstSeen
  lastSeen : Option.Rel Calendar.Moment.IsUtcOf record.lastSeen campaign.lastSeen
  eventCount : record.eventCount = campaign.eventCount
  uniqueAddresses : record.uniqueAddresses = campaign.uniqueAddresses
  attacks : record.attacks = campaign.attacks
  techniques : record.techniques = campaign.techniques
  regions : record.regions = campaign.regions
  severity : record.severity = campaign.severity
  status : record.status = campaign.status
  createdAt : record.createdAt = some created
  updatedAt : record.updatedAt = some updated

end Campaign

namespace Store

variable {store after : Store} {campaign record : Campaign} {created updated : Calendar.Moment}

theorem exists_storedInt_iff {number : Int} :
    (∃ stored, storedInt number = .ok stored) ↔ fits number = true := by
  unfold storedInt
  split <;> simp_all

theorem exists_storedCampaign_iff :
    (∃ record, storedCampaign created updated campaign = .ok record) ↔ campaign.IsStorable := by
  constructor
  · rintro ⟨record, recorded⟩
    rcases bind_eq_ok_iff.mp recorded with ⟨first, firstTold, afterFirst⟩
    rcases bind_eq_ok_iff.mp afterFirst with ⟨last, lastTold, afterLast⟩
    rcases bind_eq_ok_iff.mp afterLast with ⟨count, countTold, afterCount⟩
    rcases bind_eq_ok_iff.mp afterCount with ⟨addresses, addressesTold, _⟩
    exact ⟨exists_utcIfAny_iff.mp ⟨first, firstTold⟩, exists_utcIfAny_iff.mp ⟨last, lastTold⟩,
      exists_storedInt_iff.mp ⟨count, countTold⟩,
      exists_storedInt_iff.mp ⟨addresses, addressesTold⟩⟩
  · rintro ⟨firstReached, lastReached, countFits, addressesFit⟩
    rcases exists_utcIfAny_iff.mpr firstReached with ⟨first, firstTold⟩
    rcases exists_utcIfAny_iff.mpr lastReached with ⟨last, lastTold⟩
    rcases exists_storedInt_iff.mpr countFits with ⟨count, countTold⟩
    rcases exists_storedInt_iff.mpr addressesFit with ⟨addresses, addressesTold⟩
    unfold storedCampaign
    rw [firstTold, lastTold, countTold, addressesTold]
    exact ⟨_, rfl⟩

theorem rel_of_utcIfAny {time utc : Option Calendar.Moment} (told : utcIfAny time = .ok utc) :
    Option.Rel Calendar.Moment.IsUtcOf utc time := by
  cases time with
  | none =>
      cases told
      exact .none
  | some time =>
      rcases map_eq_ok_iff.mp told with ⟨utc, utcTold, rfl⟩
      exact .some (isUtcOf_of_utcOf utcTold)

theorem recalls_of_storedCampaign
    (recorded : storedCampaign created updated campaign = .ok record) :
    record.Recalls campaign created updated := by
  rcases storedCampaign_eq_ok recorded with ⟨first, last, firstTold, lastTold, rfl⟩
  exact ⟨rfl, rfl, rfl, rel_of_utcIfAny firstTold, rel_of_utcIfAny lastTold, rfl, rfl, rfl, rfl,
    rfl, rfl, rfl, rfl, rfl⟩

theorem exists_save_iff {now : Calendar.Moment} :
    (∃ after, store.save now campaign = .ok after) ↔ campaign.IsStorable := by
  rw [← exists_storedCampaign_iff]
  constructor
  · rintro ⟨after, saved⟩
    rcases bind_eq_ok_iff.mp saved with ⟨record, recorded, _⟩
    exact ⟨record, recorded⟩
  · rintro ⟨record, recorded⟩
    exact ⟨_, bind_eq_ok_iff.mpr ⟨record, recorded, rfl⟩⟩

end Store

/-! ## What saves tell -/

namespace CampaignSave

def under (id : String) (saves : List CampaignSave) : List CampaignSave :=
  saves.filter fun made => made.campaign.id = id

/-- What is found under an identity after saves that have been made in their order. -/
inductive Tells (saves : List CampaignSave) (id : String) : Option Campaign → Prop where
  | unsaved (never : under id saves = []) : Tells saves id none
  | saved {first last : CampaignSave} {record : Campaign}
      (isFirst : (under id saves).head? = some first)
      (isLast : (under id saves).getLast? = some last)
      (recalls : record.Recalls last.campaign first.time last.time) : Tells saves id (some record)

def TellAll (saves : List CampaignSave) (store : Store) : Prop :=
  ∀ id, Tells saves id (store.campaign? id)

variable {saves : List CampaignSave} {made : CampaignSave} {store after : Store} {id : String}

theorem under_append_of_ne (different : made.campaign.id ≠ id) :
    under id (saves ++ [made]) = under id saves := by
  simp [under, different]

theorem under_append_self :
    under made.campaign.id (saves ++ [made]) = under made.campaign.id saves ++ [made] := by
  simp [under]

theorem campaign?_of_save_of_ne (saved : store.save made.time made.campaign = .ok after)
    (different : made.campaign.id ≠ id) : after.campaign? id = store.campaign? id := by
  rcases Store.save_eq_ok saved with ⟨_, record, _, rfl⟩
  exact Table.get?_put_of_ne _ _ different.symm

theorem TellAll.save (tell : TellAll saves store)
    (saved : store.save made.time made.campaign = .ok after) :
    TellAll (saves ++ [made]) after := by
  intro id
  by_cases same : made.campaign.id = id
  · subst same
    rcases bind_eq_ok_iff.mp saved with ⟨record, recorded, equal⟩
    cases equal
    have recalls := Store.recalls_of_storedCampaign recorded
    have found : ({ store with campaigns := store.campaigns.put made.campaign.id record } :
        Store).campaign? made.campaign.id = some record := Table.get?_put_self _ _ _
    rw [found]
    have isLast : (under made.campaign.id (saves ++ [made])).getLast? = some made := by
      rw [under_append_self]
      simp
    have before := tell made.campaign.id
    generalize store.campaign? made.campaign.id = existing at before recalls
    cases before with
    | unsaved never =>
        exact .saved (by rw [under_append_self, never]; rfl) isLast recalls
    | @saved first last _ isFirst _ earlier =>
        rw [Option.bind_some, earlier.createdAt, Option.getD_some] at recalls
        exact .saved (by rw [under_append_self, List.head?_append, isFirst]; rfl) isLast recalls
  · rw [campaign?_of_save_of_ne saved same]
    have before := tell id
    generalize store.campaign? id = found at before
    cases before with
    | unsaved never => exact .unsaved ((under_append_of_ne same).trans never)
    | saved isFirst isLast recalls =>
        rw [← under_append_of_ne same] at isFirst isLast
        exact .saved isFirst isLast recalls

end CampaignSave

/-! ## Transactions -/

/-- A call about campaigns in a transaction. -/
inductive CampaignCall where
  | save (made : CampaignSave)
  | find (id : String)

namespace CampaignCall

def saveAt (made : CampaignSave) : Work Unit := fun surroundings =>
  Work.save made.campaign { surroundings with now := made.time }

def work : List CampaignCall → Work (List (Option Campaign))
  | [] => pure []
  | .save made :: rest => do
      saveAt made
      work rest
  | .find id :: rest => do
      let found ← Work.campaign? id
      let others ← work rest
      return found :: others

def saves : List CampaignCall → List CampaignSave
  | [] => []
  | .save made :: rest => made :: saves rest
  | .find _ :: rest => saves rest

/-- What calls find where other saves have been made before them: each what these tell
together with the saves among the calls that come before it. -/
inductive Finds : List CampaignSave → List CampaignCall → List (Option Campaign) → Prop where
  | nil {before : List CampaignSave} : Finds before [] []
  | save {before : List CampaignSave} {made : CampaignSave} {rest : List CampaignCall}
      {found : List (Option Campaign)} (later : Finds (before ++ [made]) rest found) :
      Finds before (.save made :: rest) found
  | find {before : List CampaignSave} {id : String} {rest : List CampaignCall}
      {first : Option Campaign} {found : List (Option Campaign)}
      (tells : CampaignSave.Tells before id first) (later : Finds before rest found) :
      Finds before (.find id :: rest) (first :: found)

variable {calls : List CampaignCall} {surroundings : Surroundings} {store after : Store}
  {found : List (Option Campaign)} {before : List CampaignSave}

theorem save_of_reaches {made : CampaignSave} {value : Unit}
    (reaches : Work.Reaches (saveAt made) surroundings store value after) :
    store.save made.time made.campaign = .ok after :=
  @Work.Reaches.save { surroundings with now := made.time } store after made.campaign value reaches

theorem finds_of_reaches (tell : CampaignSave.TellAll before store)
    (reaches : Work.Reaches (work calls) surroundings store found after) :
    Finds before calls found ∧ CampaignSave.TellAll (before ++ saves calls) after := by
  induction calls generalizing store found before with
  | nil =>
      rcases reaches.pure with ⟨rfl, rfl⟩
      exact ⟨.nil, by rwa [saves, List.append_nil]⟩
  | cons call rest induction =>
      cases call with
      | save made =>
          rcases reaches.bind with ⟨_, between, saved, others⟩
          rcases induction (tell.save (save_of_reaches saved)) others with ⟨later, told⟩
          exact ⟨.save later, by rwa [List.append_assoc] at told⟩
      | find id =>
          rcases reaches.bind with ⟨first, between, asked, others⟩
          rcases asked.campaign? with ⟨rfl, rfl⟩
          rcases others.bind with ⟨remaining, last, made, returned⟩
          rcases returned.pure with ⟨rfl, rfl⟩
          rcases induction tell made with ⟨later, told⟩
          exact ⟨.find (tell id) later, told⟩

theorem campaign?_of_reaches {id : String}
    (reaches : Work.Reaches (work calls) surroundings store found after)
    (unsaved : CampaignSave.under id (saves calls) = []) :
    after.campaign? id = store.campaign? id := by
  induction calls generalizing store found with
  | nil =>
      rcases reaches.pure with ⟨_, rfl⟩
      rfl
  | cons call rest induction =>
      cases call with
      | save made =>
          rcases reaches.bind with ⟨_, between, saved, others⟩
          have different : made.campaign.id ≠ id := by
            rintro rfl
            simp [saves, CampaignSave.under] at unsaved
          have restUnsaved : CampaignSave.under id (saves rest) = [] := by
            simpa [saves, CampaignSave.under, different] using unsaved
          rw [induction others restUnsaved,
            CampaignSave.campaign?_of_save_of_ne (save_of_reaches saved) different]
      | find other =>
          rcases reaches.bind with ⟨first, between, asked, others⟩
          rcases asked.campaign? with ⟨_, rfl⟩
          rcases others.bind with ⟨remaining, last, made, returned⟩
          rcases returned.pure with ⟨_, rfl⟩
          exact induction made unsaved

theorem exists_completes (clear : ∀ made, surroundings.obstacle made = none)
    (storable : ∀ made ∈ saves calls, made.campaign.IsStorable) (store : Store) :
    ∃ found after, Work.Completes (work calls) surroundings store found after := by
  induction calls generalizing store with
  | nil => exact ⟨[], store, Work.completes_pure []⟩
  | cons call rest induction =>
      cases call with
      | save made =>
          rcases List.forall_mem_cons.mp storable with ⟨here, others⟩
          rcases Store.exists_save_iff.mpr here with ⟨between, saved⟩
          rcases induction others between with ⟨found, after, completes⟩
          have first : Work.Completes (saveAt made) surroundings store () between :=
            @Work.completes_save { surroundings with now := made.time } store between clear _ saved
          exact ⟨found, after, first.bind completes⟩
      | find id =>
          rcases induction storable store with ⟨found, after, completes⟩
          exact ⟨_, after, (Work.completes_campaign? clear id).bind
            (completes.bind (Work.completes_pure _))⟩

theorem isStorable_of_reaches (reaches : Work.Reaches (work calls) surroundings store found after) :
    ∀ made ∈ saves calls, made.campaign.IsStorable := by
  induction calls generalizing store found after with
  | nil => simp [saves]
  | cons call rest induction =>
      cases call with
      | save made =>
          rcases reaches.bind with ⟨_, between, saved, others⟩
          exact List.forall_mem_cons.mpr
            ⟨Store.exists_save_iff.mp ⟨between, save_of_reaches saved⟩, induction others⟩
      | find id =>
          rcases reaches.bind with ⟨first, between, _, others⟩
          rcases others.bind with ⟨remaining, last, made, _⟩
          exact induction made

end CampaignCall

/-- A transaction about campaigns: its calls, the fault that is raised behind them where
there is one, and what the transaction meets. -/
structure CampaignTransaction where
  calls : List CampaignCall
  failure : Option Fault := none
  surroundings : Surroundings

namespace CampaignTransaction

def work (transaction : CampaignTransaction) : Work (List (Option Campaign)) := do
  let found ← CampaignCall.work transaction.calls
  match transaction.failure with
  | some fault => throw fault
  | none => return found

def result (correlator : Correlator) (transaction : CampaignTransaction) :
    Except Fault (List (Option Campaign)) × Correlator :=
  correlator.transact transaction.surroundings transaction.work

def committed (correlator : Correlator) (transaction : CampaignTransaction) : List CampaignSave :=
  match (transaction.result correlator).1 with
  | .ok _ => CampaignCall.saves transaction.calls
  | .error _ => []

def runFrom (correlator : Correlator) (transactions : List CampaignTransaction) : Correlator :=
  transactions.foldl (fun correlator transaction => (transaction.result correlator).2) correlator

def committedFrom (correlator : Correlator) : List CampaignTransaction → List CampaignSave
  | [] => []
  | transaction :: rest =>
      transaction.committed correlator ++ committedFrom (transaction.result correlator).2 rest

variable {correlator : Correlator} {transaction : CampaignTransaction}

theorem result_cases (correlator : Correlator) (transaction : CampaignTransaction) :
    (∃ fault, transaction.result correlator = (.error fault, correlator)) ∨
      ∃ found after,
        transaction.result correlator = (.ok found, { correlator with store := after }) ∧
        transaction.failure = none ∧ Work.Reaches (CampaignCall.work transaction.calls)
          transaction.surroundings correlator.store found after := by
  unfold result Correlator.transact
  cases ran : transaction.work.run transaction.surroundings correlator.store with
  | error fault => exact .inl ⟨fault, rfl⟩
  | ok ended =>
      rcases (Work.reaches_of_run ran).bind with ⟨found, between, calls, rest⟩
      cases fails : transaction.failure with
      | some fault =>
          rw [fails] at rest
          rcases rest with ⟨_, _, impossible⟩
          cases impossible
      | none =>
          rw [fails] at rest
          rcases rest.pure with ⟨equal, same⟩
          exact .inr ⟨ended.1, ended.2, rfl, rfl, by rwa [equal, same]⟩

theorem tellAll_result {saves : List CampaignSave}
    (tell : CampaignSave.TellAll saves correlator.store) (transaction : CampaignTransaction) :
    CampaignSave.TellAll (saves ++ transaction.committed correlator)
      (transaction.result correlator).2.store := by
  rcases result_cases correlator transaction with
    ⟨fault, failed⟩ | ⟨found, after, succeeded, _, reaches⟩
  · rwa [committed, failed, List.append_nil]
  · rw [committed, succeeded]
    exact (CampaignCall.finds_of_reaches tell reaches).2

theorem tellAll_runFrom {saves : List CampaignSave}
    (tell : CampaignSave.TellAll saves correlator.store)
    (transactions : List CampaignTransaction) :
    CampaignSave.TellAll (saves ++ committedFrom correlator transactions)
      (runFrom correlator transactions).store := by
  induction transactions generalizing correlator saves with
  | nil => rwa [committedFrom, List.append_nil]
  | cons transaction rest induction =>
      rw [committedFrom, ← List.append_assoc]
      exact induction (tellAll_result tell transaction)

/-- Without obstacles a transaction is committed where no fault is raised in it and the store
can express what it saves. -/
theorem exists_ok_iff (clear : ∀ calls, transaction.surroundings.obstacle calls = none) :
    (∃ found, (transaction.result correlator).1 = .ok found) ↔
      transaction.failure = none ∧
        ∀ made ∈ CampaignCall.saves transaction.calls, made.campaign.IsStorable := by
  constructor
  · rintro ⟨found, committed⟩
    rcases result_cases correlator transaction with
      ⟨fault, failed⟩ | ⟨_, after, _, unfailing, reaches⟩
    · rw [failed] at committed
      cases committed
    · exact ⟨unfailing, CampaignCall.isStorable_of_reaches reaches⟩
  · rintro ⟨unfailing, storable⟩
    rcases CampaignCall.exists_completes clear storable correlator.store with
      ⟨found, after, completes⟩
    have whole : Work.Completes transaction.work transaction.surroundings correlator.store found
        after := by
      refine completes.bind ?_
      rw [unfailing]
      exact Work.completes_pure found
    rw [result, Correlator.transact, Work.run_of_completes clear whole]
    exact ⟨found, rfl⟩

/-- After any sequence of transactions on a table without campaigns, a campaign is found
under each identity as the last committed save of it told it, with the times of the first and
the last one, and none where no save of it was committed. Calls in a transaction that is
under way, however it ends, find this together with what they have saved themselves, and
change nothing under an identity that they do not save. A transaction that ends in a fault
changes nothing at all; one that meets no obstacle is committed exactly where no fault is
raised in it and the store can express what it saves. -/
theorem campaigns_tell_committed_saves (correlator : Correlator)
    (empty : correlator.store.campaigns = []) (transactions : List CampaignTransaction) :
    let reached := runFrom correlator transactions
    let saves := committedFrom correlator transactions
    (∀ id, CampaignSave.Tells saves id (reached.store.campaign? id)) ∧
    (∀ calls surroundings found between,
      Work.Reaches (CampaignCall.work calls) surroundings reached.store found between →
        CampaignCall.Finds saves calls found ∧
          ∀ id, CampaignSave.under id (CampaignCall.saves calls) = [] →
            between.campaign? id = reached.store.campaign? id) ∧
    ∀ transaction,
      ((∃ fault, (result reached transaction).1 = .error fault) →
        (result reached transaction).2 = reached) ∧
      ((∀ calls, transaction.surroundings.obstacle calls = none) →
        ((∃ found, (result reached transaction).1 = .ok found) ↔
          transaction.failure = none ∧
            ∀ made ∈ CampaignCall.saves transaction.calls, made.campaign.IsStorable)) := by
  intro reached saves
  have none : CampaignSave.TellAll [] correlator.store := by
    intro id
    have missing : correlator.store.campaign? id = .none := by
      rw [Store.campaign?, empty]
      rfl
    rw [missing]
    exact .unsaved rfl
  have tell : CampaignSave.TellAll saves reached.store := tellAll_runFrom none transactions
  refine ⟨tell, fun calls surroundings found between reaches => ?_, fun transaction =>
    ⟨?_, exists_ok_iff⟩⟩
  · exact ⟨(CampaignCall.finds_of_reaches tell reaches).1,
      fun id unsaved => CampaignCall.campaign?_of_reaches reaches unsaved⟩
  · rintro ⟨fault, failed⟩
    rcases result_cases reached transaction with ⟨_, unchanged⟩ | ⟨_, _, succeeded, _⟩
    · rw [unchanged]
    · rw [succeeded] at failed
      cases failed

def watched (id : String) (events : Int) : Campaign where
  id := id
  name := "Watched"
  kind := .manual
  firstSeen := some (History.reading 10)
  lastSeen := some (History.reading 20)
  eventCount := events
  uniqueAddresses := 1

/-- One campaign is saved, then saved again beside another one without a commit, then saved
once more. -/
def threeTransactions : List CampaignTransaction := [
  ⟨[.save ⟨History.reading 30, watched "C-1" 2⟩], none, History.unhindered 0⟩,
  ⟨[.save ⟨History.reading 40, watched "C-1" 3⟩, .save ⟨History.reading 41, watched "C-2" 3⟩],
    some (.storeFailure "injected"), History.unhindered 0⟩,
  ⟨[.find "C-1", .save ⟨History.reading 50, watched "C-1" 4⟩], none, History.unhindered 0⟩]

theorem committed_threeTransactions : committedFrom {} threeTransactions =
    [⟨History.reading 30, watched "C-1" 2⟩, ⟨History.reading 50, watched "C-1" 4⟩] := by
  rfl

theorem third_transaction_is_told :
    ({} : Correlator).store.campaigns = [] ∧
      (∃ record, (runFrom {} threeTransactions).store.campaign? "C-1" = some record ∧
        record.Recalls (watched "C-1" 4) (History.reading 30) (History.reading 50)) ∧
      (runFrom {} threeTransactions).store.campaign? "C-2" = none := by
  have told := (campaigns_tell_committed_saves {} rfl threeTransactions).1
  rw [committed_threeTransactions] at told
  refine ⟨rfl, ?_, ?_⟩
  · have first := told "C-1"
    generalize (runFrom {} threeTransactions).store.campaign? "C-1" = found at first
    cases first with
    | unsaved never => exact absurd never (by simp [CampaignSave.under, watched])
    | saved isFirst isLast recalls =>
        cases isFirst
        cases isLast
        exact ⟨_, rfl, recalls⟩
  · have second := told "C-2"
    generalize (runFrom {} threeTransactions).store.campaign? "C-2" = found at second
    cases second with
    | unsaved => rfl
    | saved isFirst => simp [CampaignSave.under, watched] at isFirst

end CampaignTransaction

end ThreatWatch
