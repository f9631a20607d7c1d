import ThreatWatch.Correlation.Scan
import ThreatWatch.Proofs.Transaction

/-! Stamps: the times at which a campaign was first and last saved. They are written by
every save and read by none of the work that a scan does. Two scans by the same reading
of the clock that write at different times therefore end alike, in stores that differ
in their stamps alone. -/

namespace ThreatWatch

/-! ## Campaigns and stores -/

namespace Campaign

def unstamped (campaign : Campaign) : Campaign :=
  { campaign with createdAt := none, updatedAt := none }

theorem exists_stamps {left right : Campaign} (same : left.unstamped = right.unstamped) :
    ∃ created updated, right = { left with createdAt := created, updatedAt := updated } := by
  obtain ⟨⟩ := left
  obtain ⟨⟩ := right
  simp only [unstamped, mk.injEq, and_true] at same
  simp only [mk.injEq]
  grind

theorem unstamped_merge {left right : Campaign} (same : left.unstamped = right.unstamped)
    (incoming : Campaign) :
    (left.merge incoming).map unstamped = (right.merge incoming).map unstamped := by
  rcases exists_stamps same with ⟨created, updated, rfl⟩
  simp only [merge]
  cases earlier left.firstSeen incoming.firstSeen with
  | error fault => rfl
  | ok first => cases later left.lastSeen incoming.lastSeen <;> rfl

end Campaign

namespace Store

def unstamped (store : Store) : Store :=
  { store with campaigns := store.campaigns.map fun entry => (entry.1, entry.2.unstamped) }

variable {left right : Store}

theorem threats_eq_of_unstamped (same : left.unstamped = right.unstamped) :
    left.threats = right.threats := by
  have threats := congrArg Store.threats same
  exact threats

theorem campaigns_eq_of_unstamped (same : left.unstamped = right.unstamped) :
    left.unstamped.campaigns = right.unstamped.campaigns :=
  congrArg Store.campaigns same

theorem unstamped_campaign? (same : left.unstamped = right.unstamped) (id : String) :
    (left.campaign? id).map Campaign.unstamped = (right.campaign? id).map Campaign.unstamped := by
  have entries := congrArg (Table.get? · id) (campaigns_eq_of_unstamped same)
  simp only [unstamped, Table.get?_map] at entries
  exact entries

theorem unstamped_storedCampaign {one other : Campaign} (same : one.unstamped = other.unstamped)
    (created updated recreated reupdated : Calendar.Moment) :
    (storedCampaign created updated one).map Campaign.unstamped =
      (storedCampaign recreated reupdated other).map Campaign.unstamped := by
  rcases Campaign.exists_stamps same with ⟨_, _, rfl⟩
  simp only [storedCampaign]
  cases utcIfAny one.firstSeen with
  | error fault => rfl
  | ok first =>
      cases utcIfAny one.lastSeen with
      | error fault => rfl
      | ok last =>
          cases storedInt one.eventCount with
          | error fault => rfl
          | ok count => cases storedInt one.uniqueAddresses <;> rfl

theorem unstamped_save (same : left.unstamped = right.unstamped) {one other : Campaign}
    (alike : one.unstamped = other.unstamped) (written rewritten : Calendar.Moment) :
    (left.save written one).map unstamped = (right.save rewritten other).map unstamped := by
  have recorded := unstamped_storedCampaign alike
    (((left.campaign? one.id).bind Campaign.createdAt).getD written) written
    (((right.campaign? other.id).bind Campaign.createdAt).getD rewritten) rewritten
  have id : one.unstamped.id = other.unstamped.id := congrArg Campaign.id alike
  simp only [save]
  generalize storedCampaign _ written one = record at recorded ⊢
  generalize storedCampaign _ rewritten other = rerecord at recorded ⊢
  cases record with
  | error fault =>
      cases rerecord with
      | error again => cases recorded; rfl
      | ok record => cases recorded
  | ok record =>
      cases rerecord with
      | error fault => cases recorded
      | ok rerecord =>
          have records : record.unstamped = rerecord.unstamped := Except.ok.inj recorded
          have campaigns := campaigns_eq_of_unstamped same
          simp only [unstamped] at campaigns
          refine congrArg Except.ok ?_
          change one.id = other.id at id
          simp only [unstamped, Table.put_map, campaigns, records, id,
            threats_eq_of_unstamped same]

theorem unstamped_tag (same : left.unstamped = right.unstamped) (campaign : String)
    (ids : List Int) :
    (left.tag campaign ids).map unstamped = (right.tag campaign ids).map unstamped := by
  have campaigns := campaigns_eq_of_unstamped same
  simp only [unstamped] at campaigns
  unfold tag
  split
  · refine congrArg Except.ok ?_
    simp only [unstamped, campaigns, threats_eq_of_unstamped same]
  · rfl

end Store

/-! ## Work beside work -/

namespace Work

variable {α β γ δ : Type}

/-- Two transactions that have made the same calls and see the same store but for
its stamps. -/
def Beside (left right : Transaction) : Prop :=
  left.store.unstamped = right.store.unstamped ∧ left.calls = right.calls

/-- Two ends of work are alike: both are the same fault, or both give values that are
related and leave transactions beside each other. -/
def Alike (related : α → β → Prop) :
    Except Fault (α × Transaction) → Except Fault (β × Transaction) → Prop
  | .ok (one, left), .ok (other, right) => related one other ∧ Beside left right
  | .error fault, .error again => fault = again
  | _, _ => False

def Parallels (related : α → β → Prop) (one : Work α) (other : Work β) : Prop :=
  ∀ obstacle written rewritten left right, Beside left right →
    Alike related ((one ⟨written, obstacle⟩).run left) ((other ⟨rewritten, obstacle⟩).run right)

theorem Parallels.bind {related : α → β → Prop} {further : γ → δ → Prop} {one : Work α}
    {other : Work β} {next : α → Work γ} {after : β → Work δ}
    (opening : Parallels related one other)
    (continuing : ∀ first second, related first second →
      Parallels further (next first) (after second)) :
    Parallels further (one >>= next) (other >>= after) := by
  intro obstacle written rewritten left right beside
  have opened := opening obstacle written rewritten left right beside
  change Alike further
    ((one ⟨written, obstacle⟩).run left >>= fun reached =>
      (next reached.1 ⟨written, obstacle⟩).run reached.2)
    ((other ⟨rewritten, obstacle⟩).run right >>= fun reached =>
      (after reached.1 ⟨rewritten, obstacle⟩).run reached.2)
  generalize (one ⟨written, obstacle⟩).run left = first at opened ⊢
  generalize (other ⟨rewritten, obstacle⟩).run right = second at opened ⊢
  cases first with
  | error fault =>
      cases second with
      | error again => exact opened
      | ok reached => exact opened.elim
  | ok reached =>
      cases second with
      | error fault => exact opened.elim
      | ok again =>
          exact continuing _ _ opened.1 obstacle written rewritten _ _ opened.2

theorem parallels_pure {related : α → β → Prop} {one : α} {other : β}
    (holds : related one other) : Parallels related (Pure.pure one) (Pure.pure other) :=
  fun _ _ _ _ _ beside => ⟨holds, beside⟩

theorem parallels_ofExcept {view : α → γ} {one other : Except Fault α}
    (same : one.map view = other.map view) :
    Parallels (fun first second => view first = view second) (ofExcept one) (ofExcept other) := by
  intro obstacle written rewritten left right beside
  cases one with
  | error fault =>
      cases other with
      | error again => cases same; rfl
      | ok value => cases same
  | ok value =>
      cases other with
      | error fault => cases same
      | ok again => exact ⟨Except.ok.inj same, beside⟩

theorem parallels_same (outcome : Except Fault α) :
    Parallels Eq (ofExcept outcome) (ofExcept outcome) := by
  have same : outcome.map id = outcome.map id := rfl
  exact parallels_ofExcept same

theorem parallels_perform (call : StoreCall) : Parallels Eq (perform call) (perform call) := by
  intro obstacle written rewritten left right beside
  rw [perform_run, perform_run, beside.2]
  dsimp only
  cases obstacle (call :: right.calls) with
  | some fault => rfl
  | none => exact ⟨rfl, beside.1, rfl⟩

theorem alike_replaceStore {one other : Except Fault Store}
    (same : one.map Store.unstamped = other.map Store.unstamped) {left right : Transaction}
    (beside : Beside left right) (surroundings again : Surroundings) :
    Alike Eq ((replaceStore one surroundings).run left) ((replaceStore other again).run right) := by
  cases one with
  | error fault =>
      cases other with
      | error again => cases same; rfl
      | ok store => cases same
  | ok store =>
      cases other with
      | error fault => cases same
      | ok store => exact ⟨rfl, Except.ok.inj same, beside.2⟩

theorem parallels_unclustered (since : Calendar.Moment) :
    Parallels Eq (unclustered since) (unclustered since) := by
  refine (parallels_perform .fetch).bind fun _ _ _ => ?_
  intro obstacle written rewritten left right beside
  have fetched : left.store.unclustered since = right.store.unclustered since := by
    simp only [Store.unclustered, Store.threats_eq_of_unstamped beside.1]
  change Alike Eq ((ofExcept (left.store.unclustered since) _).run left)
    ((ofExcept (right.store.unclustered since) _).run right)
  rw [fetched]
  exact parallels_same _ obstacle written rewritten left right beside

theorem parallels_campaign? (id : String) :
    Parallels (fun one other => one.map Campaign.unstamped = other.map Campaign.unstamped)
      (campaign? id) (campaign? id) := by
  refine (parallels_perform .find).bind fun _ _ _ => ?_
  exact fun _ _ _ _ _ beside => ⟨Store.unstamped_campaign? beside.1 id, beside⟩

theorem parallels_save {one other : Campaign} (alike : one.unstamped = other.unstamped) :
    Parallels Eq (save one) (save other) := by
  refine (parallels_perform .save).bind fun _ _ _ => ?_
  exact fun _ written rewritten _ _ beside =>
    alike_replaceStore (Store.unstamped_save beside.1 alike written rewritten) beside _ _

theorem parallels_tag (campaign : String) (ids : List Int) :
    Parallels Eq (tag campaign ids) (tag campaign ids) := by
  refine (parallels_perform .tag).bind fun _ _ _ => ?_
  exact fun _ _ _ _ _ beside =>
    alike_replaceStore (Store.unstamped_tag beside.1 campaign ids) beside _ _

theorem Parallels.run {work : Work α} (parallels : Parallels Eq work work)
    (obstacle : List StoreCall → Option Fault) (written rewritten : Calendar.Moment)
    {left right : Store} (same : left.unstamped = right.unstamped) :
    (work.run ⟨written, obstacle⟩ left).map (fun reached => (reached.1, reached.2.unstamped)) =
      (work.run ⟨rewritten, obstacle⟩ right).map fun reached =>
        (reached.1, reached.2.unstamped) := by
  have whole : Parallels Eq (work >>= fun value => perform .commit >>= fun _ => Pure.pure value)
      (work >>= fun value => perform .commit >>= fun _ => Pure.pure value) := by
    refine parallels.bind fun one other equal => (parallels_perform .commit).bind fun _ _ _ => ?_
    exact parallels_pure equal
  have ends := whole obstacle written rewritten ⟨left, []⟩ ⟨right, []⟩ ⟨same, rfl⟩
  rw [run_eq_map, run_eq_map]
  generalize ((work >>= fun value => perform .commit >>= fun _ => Pure.pure value)
    ⟨written, obstacle⟩).run ⟨left, []⟩ = first at ends ⊢
  generalize ((work >>= fun value => perform .commit >>= fun _ => Pure.pure value)
    ⟨rewritten, obstacle⟩).run ⟨right, []⟩ = second at ends ⊢
  cases first with
  | error fault =>
      cases second with
      | error again => rw [show fault = again from ends]
      | ok reached => exact ends.elim
  | ok reached =>
      cases second with
      | error fault => exact ends.elim
      | ok again =>
          rcases ends with ⟨value, stores, _⟩
          simp only [Except.map, value, stores]

end Work

/-! ## Scans -/

namespace Scan

theorem parallels_keep (found : FoundCampaign) : Work.Parallels Eq (keep found) (keep found) := by
  refine (Work.parallels_campaign? _).bind fun known again same => ?_
  cases known with
  | none =>
      cases again with
      | some existing => cases same
      | none =>
          refine (Work.parallels_save rfl).bind fun _ _ _ => ?_
          rw [pure_bind]
          exact (Work.parallels_tag _ _).bind fun _ _ _ => Work.parallels_pure rfl
  | some existing =>
      cases again with
      | none => cases same
      | some reexisting =>
          have alike := Campaign.unstamped_merge (Option.some.inj same) found.campaign
          refine (Work.parallels_ofExcept alike).bind fun one other merged => ?_
          refine (Work.parallels_save merged).bind fun _ _ _ => ?_
          rw [pure_bind]
          exact (Work.parallels_tag _ _).bind fun _ _ _ => Work.parallels_pure rfl

theorem parallels_keepAll (founds : List FoundCampaign) :
    Work.Parallels Eq (keepAll founds) (keepAll founds) := by
  induction founds with
  | nil => exact Work.parallels_pure rfl
  | cons found rest induction =>
      refine (parallels_keep found).bind fun report _ same => ?_
      subst same
      exact induction.bind fun others _ same => Work.parallels_pure (by rw [same])

theorem parallels_work (settings : CorrelationSettings) (now : Calendar.Moment) :
    Work.Parallels Eq (work settings now) (work settings now) := by
  refine (Work.parallels_same _).bind fun since _ same => ?_
  subst same
  refine (Work.parallels_same _).bind fun reading _ same => ?_
  subst same
  refine (Work.parallels_unclustered _).bind fun threats _ same => ?_
  subst same
  split
  · exact Work.parallels_pure rfl
  · refine (Work.parallels_same _).bind fun byAddress _ same => ?_
    subst same
    refine (parallels_keepAll _).bind fun report _ same => ?_
    subst same
    refine (Work.parallels_same _).bind fun byPattern _ same => ?_
    subst same
    exact (parallels_keepAll _).bind fun others _ same => Work.parallels_pure (by rw [same])

end Scan

end ThreatWatch
