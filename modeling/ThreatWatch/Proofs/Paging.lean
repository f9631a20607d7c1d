import Mathlib.Data.Int.Order.Basic
import ThreatWatch.Proofs.History
import ThreatWatch.Proofs.Texts
import ThreatWatch.Store.Query

/-! Pages of campaigns. The campaigns of a listing stand in one strict order, and each
page is a slice of it. Whoever asks for page after page, for as long as a page tells of
more, has seen every campaign once, in that order. -/

namespace ThreatWatch

namespace Campaign

/-- When a campaign was last seen; one that does not tell it was last seen at the start of
the calendar. -/
def lastInstant (campaign : Campaign) : Int :=
  (campaign.lastSeen.map Calendar.Moment.instant).getD 0

/-- A campaign that was seen later than another one, or at one time with it and has the
first identity of the two. -/
def ListedBefore (left right : Campaign) : Prop :=
  right.lastInstant < left.lastInstant ∨
    left.lastInstant = right.lastInstant ∧ Text.precedes left.id right.id = true

end Campaign

namespace Store

variable {store : Store} {status : Option CampaignStatus}

/-! ## The order of a listing -/

theorem listedBefore_iff {left right : Campaign} :
    listedBefore left right = true ↔ right.lastInstant < left.lastInstant ∨
      left.lastInstant = right.lastInstant ∧ Text.codes left.id ≤ Text.codes right.id := by
  rw [listedBefore, ← not_lt, ← Text.precedes_iff]
  simp [Campaign.lastInstant]

theorem listedBefore_isOrdering : IsOrdering listedBefore :=
  .ofNumberAndName Campaign.lastInstant Campaign.id listedBefore_iff

theorem listedBefore_of_ne {left right : Campaign} (inOrder : listedBefore left right = true)
    (different : left.id ≠ right.id) : left.ListedBefore right := by
  rcases listedBefore_iff.mp inOrder with later | ⟨same, ids⟩
  · exact .inl later
  · have apart : Text.codes left.id ≠ Text.codes right.id := mt Text.codes_inj.mp different
    exact .inr ⟨same, Text.precedes_iff.mpr (lt_of_le_of_ne ids apart)⟩

def matching (store : Store) (status : Option CampaignStatus) : List Campaign :=
  (store.campaigns.map Prod.snd).filter fun campaign =>
    status.all fun status => campaign.status = status

theorem listed_perm (store : Store) (status : Option CampaignStatus) :
    (store.listed status).Perm (store.matching status) :=
  sortBy_perm _ _

theorem length_listed_le (store : Store) (status : Option CampaignStatus) :
    (store.listed status).length ≤ store.campaigns.length := by
  rw [(listed_perm store status).length_eq, matching, ← List.length_map Prod.snd]
  exact List.length_filter_le _ _

theorem pairwise_listed (distinct : (store.campaigns.map fun entry => entry.2.id).Nodup) :
    (store.listed status).Pairwise Campaign.ListedBefore := by
  have stored : ((store.campaigns.map Prod.snd).map Campaign.id).Nodup := by
    rwa [List.map_map]
  have matched : ((store.matching status).map Campaign.id).Nodup :=
    (List.filter_sublist.map Campaign.id).nodup stored
  have named : (store.listed status).Pairwise fun left right => left.id ≠ right.id :=
    List.pairwise_map.mp (((listed_perm store status).map Campaign.id).nodup_iff.mpr matched)
  have inOrder := listedBefore_isOrdering.pairwise_sortBy (store.matching status)
  exact (inOrder.and named).imp fun both => listedBefore_of_ne both.1 both.2

theorem IsSound.nodup_campaign_ids (sound : store.IsSound) :
    (store.campaigns.map fun entry => entry.2.id).Nodup := by
  have same : (store.campaigns.map fun entry => entry.2.id) = Table.keys store.campaigns :=
    List.map_congr_left sound.keyed
  rw [same]
  exact sound.nodupKeys

end Store

namespace CampaignPage

/-! ## One page -/

/-- A page is the answer to a question for a page of some size of the campaigns in order:
it tells the number and the limit that count, the number of all campaigns, and has those
campaigns that stand at the place of the page. -/
structure IsPageOf (answer : CampaignPage) (campaigns : List Campaign) (asked size : Int) :
    Prop where
  page : answer.page = max 1 asked
  limit : answer.limit = min (max 1 size) 1000
  total : answer.total = campaigns.length
  items : answer.items =
    (campaigns.drop ((answer.page - 1) * answer.limit).toNat).take answer.limit.toNat

theorem limitRange_pos (size : Int) : 0 < limitRange size := by
  unfold limitRange
  omega

variable {answer : CampaignPage} {campaigns : List Campaign} {asked size : Int}

namespace IsPageOf

theorem limit_pos (isPage : answer.IsPageOf campaigns asked size) : 0 < answer.limit := by
  rw [isPage.limit]
  exact limitRange_pos size

theorem page_pos (isPage : answer.IsPageOf campaigns asked size) : 0 < answer.page := by
  rw [isPage.page]
  omega

theorem offset_nonneg (isPage : answer.IsPageOf campaigns asked size) :
    0 ≤ (answer.page - 1) * answer.limit :=
  Int.mul_nonneg (Int.sub_nonneg_of_le isPage.page_pos) (Int.le_of_lt isPage.limit_pos)

theorem hasMore_iff (isPage : answer.IsPageOf campaigns asked size) :
    answer.hasMore = true ↔ answer.page * answer.limit < campaigns.length := by
  have next : (answer.page - 1) * answer.limit + answer.limit = answer.page * answer.limit := by
    rw [Int.sub_mul, Int.one_mul, Int.sub_add_cancel]
  rw [hasMore, continues, next, isPage.total, decide_eq_true_iff]

theorem items_ne_nil_iff (isPage : answer.IsPageOf campaigns asked size) :
    answer.items ≠ [] ↔ (answer.page - 1) * answer.limit < campaigns.length := by
  have limited := isPage.limit_pos
  have placed := isPage.offset_nonneg
  rw [isPage.items, Ne, List.take_eq_nil_iff, List.drop_eq_nil_iff]
  omega

end IsPageOf

/-! ## Page after page -/

/-- The answers to questions for one page after another from a number on, up to the first
that tells of no more. -/
inductive Browses (ask : Int → Except Fault CampaignPage) : Int → List CampaignPage → Prop where
  | last {number : Int} {page : CampaignPage} (told : ask number = .ok page)
      (noMore : page.hasMore = false) : Browses ask number [page]
  | next {number : Int} {page : CampaignPage} {rest : List CampaignPage}
      (told : ask number = .ok page) (more : page.hasMore = true)
      (later : Browses ask (number + 1) rest) : Browses ask number (page :: rest)

variable {ask : Int → Except Fault CampaignPage} {number : Int} {pages : List CampaignPage}

theorem Browses.unique (browses : Browses ask number pages) {others : List CampaignPage}
    (browsesOthers : Browses ask number others) : others = pages := by
  induction browses generalizing others with
  | last told noMore =>
      cases browsesOthers with
      | last otherTold => rw [Except.ok.inj (told.symm.trans otherTold)]
      | next otherTold more =>
          rw [← Except.ok.inj (told.symm.trans otherTold), noMore] at more
          cases more
  | next told more later induction =>
      cases browsesOthers with
      | last otherTold noMore =>
          rw [← Except.ok.inj (told.symm.trans otherTold), more] at noMore
          cases noMore
      | next otherTold _ otherLater =>
          rw [Except.ok.inj (told.symm.trans otherTold), induction otherLater]

theorem Browses.told (browses : Browses ask number pages) {index : Nat} {page : CampaignPage}
    (placed : pages[index]? = some page) : ask (number + index) = .ok page := by
  induction browses generalizing index with
  | last told =>
      cases index with
      | zero =>
          cases placed
          simpa using told
      | succ index => simp at placed
  | @next number first rest told more later induction =>
      cases index with
      | zero =>
          cases placed
          simpa using told
      | succ index =>
          have same : number + (index + 1 : Nat) = number + 1 + index := by omega
          rw [same]
          exact induction placed

/-- Where pages are slices of one size and tell truly whether more follows, asking for
page after page gives all that stands from the first of them on. -/
theorem exists_browses {size : Nat} (positive : 0 < size)
    (serves : ∀ index : Nat, index * size ≤ campaigns.length → ∃ page,
      ask (index + 1) = .ok page ∧ page.items = (campaigns.drop (index * size)).take size ∧
        (page.hasMore = true ↔ (index + 1) * size < campaigns.length))
    (index : Nat) (within : index * size ≤ campaigns.length) :
    ∃ pages, Browses ask (index + 1) pages ∧
      pages.flatMap items = campaigns.drop (index * size) := by
  -- what stands after the page gets shorter by the size of a page
  induction left : campaigns.length - index * size using Nat.strong_induction_on
    generalizing index with
  | _ remaining induction =>
      have next : (index + 1) * size = index * size + size := Nat.succ_mul index size
      rcases serves index within with ⟨page, told, shown, continuing⟩
      cases more : page.hasMore with
      | false =>
          refine ⟨[page], .last told more, ?_⟩
          have short : (campaigns.drop (index * size)).length ≤ size := by
            rw [more, next] at continuing
            rw [List.length_drop]
            have atEnd : ¬index * size + size < campaigns.length := by simpa using continuing
            omega
          rw [List.flatMap_singleton, shown, List.take_of_length_le short]
      | true =>
          have reached : (index + 1) * size < campaigns.length := continuing.mp more
          rcases induction (campaigns.length - (index + 1) * size) (by omega) (index + 1)
            (Nat.le_of_lt reached) rfl with ⟨rest, browses, concatenated⟩
          refine ⟨page :: rest, .next told more (by simpa using browses), ?_⟩
          rw [List.flatMap_cons, concatenated, shown, next, ← List.drop_drop,
            List.take_append_drop]

end CampaignPage

namespace Store

variable {store : Store} {status : Option CampaignStatus} {asked size : Int}
  {answer : CampaignPage}

theorem isPageOf_of_campaignPage (told : store.campaignPage asked size status = .ok answer) :
    answer.IsPageOf (store.listed status) asked size := by
  rcases bind_eq_ok_iff.mp told with ⟨offset, stored, equal⟩
  cases storedInt_eq_ok stored
  cases equal
  exact ⟨rfl, rfl, rfl, rfl⟩

/-- There is a page wherever campaigns are left or it is the first without any, since a
table has no more rows than 64 bits can count. -/
theorem exists_campaignPage (counted : fits store.campaigns.length = true)
    (within : (max 1 asked - 1) * CampaignPage.limitRange size ≤ (store.listed status).length) :
    ∃ answer, store.campaignPage asked size status = .ok answer := by
  have shorter := length_listed_le store status
  have placed : 0 ≤ (max 1 asked - 1) * CampaignPage.limitRange size :=
    Int.mul_nonneg (by omega) (Int.le_of_lt (CampaignPage.limitRange_pos size))
  have fitting : fits ((max 1 asked - 1) * CampaignPage.limitRange size) = true := by
    simp only [fits, decide_eq_true_iff] at counted ⊢
    omega
  exact ⟨_, bind_eq_ok_iff.mpr ⟨_, if_pos fitting, rfl⟩⟩

theorem hasMore_iff_exists_later (counted : fits store.campaigns.length = true)
    (told : store.campaignPage asked size status = .ok answer) :
    answer.hasMore = true ↔ ∃ later next, answer.page < later ∧
      store.campaignPage later size status = .ok next ∧ next.items ≠ [] := by
  have isPage := isPageOf_of_campaignPage told
  have numbered := isPage.page_pos
  rw [isPage.hasMore_iff]
  constructor
  · intro more
    have place : (max 1 (answer.page + 1) - 1) * CampaignPage.limitRange size =
        answer.page * answer.limit := by
      rw [isPage.limit, Int.max_eq_right (by omega), Int.add_sub_cancel]
      rfl
    rcases exists_campaignPage counted (place ▸ Int.le_of_lt more) with ⟨next, nextTold⟩
    have isNext := isPageOf_of_campaignPage nextTold
    refine ⟨answer.page + 1, next, by omega, nextTold, isNext.items_ne_nil_iff.mpr ?_⟩
    rw [isNext.page, isNext.limit]
    exact place ▸ more
  · rintro ⟨later, next, isLater, nextTold, nonempty⟩
    have isNext := isPageOf_of_campaignPage nextTold
    have placed := isNext.items_ne_nil_iff.mp nonempty
    have sameLimit : next.limit = answer.limit := isNext.limit.trans isPage.limit.symm
    have isAfter : answer.page ≤ next.page - 1 := by
      rw [isNext.page]
      omega
    rw [sameLimit] at placed
    calc answer.page * answer.limit
        ≤ (next.page - 1) * answer.limit :=
          Int.mul_le_mul_of_nonneg_right isAfter (Int.le_of_lt isPage.limit_pos)
      _ < (store.listed status).length := placed

theorem exists_browses (counted : fits store.campaigns.length = true) (size : Int)
    (status : Option CampaignStatus) :
    ∃ pages, CampaignPage.Browses (fun number => store.campaignPage number size status) 1 pages ∧
      pages.flatMap CampaignPage.items = store.listed status := by
  have limitPositive := CampaignPage.limitRange_pos size
  obtain ⟨limit, limited⟩ : ∃ limit : Nat, CampaignPage.limitRange size = limit :=
    Int.eq_ofNat_of_zero_le (Int.le_of_lt limitPositive)
  have positive : 0 < limit := by omega
  have serves (index : Nat) (within : index * limit ≤ (store.listed status).length) :
      ∃ page, store.campaignPage (index + 1) size status = .ok page ∧
        page.items = ((store.listed status).drop (index * limit)).take limit ∧
        (page.hasMore = true ↔ (index + 1) * limit < (store.listed status).length) := by
    have place : (max 1 (index + 1 : Int) - 1) * limit = (index * limit : Nat) := by
      rw [Int.max_eq_right (by omega), Int.add_sub_cancel, Int.natCast_mul]
    have placed : (max 1 (index + 1 : Int) - 1) * CampaignPage.limitRange size ≤
        (store.listed status).length := by
      rw [limited, place]
      exact Int.ofNat_le.mpr within
    rcases exists_campaignPage counted placed with ⟨page, told⟩
    have isPage := isPageOf_of_campaignPage told
    have numbered : page.page = (index + 1 : Nat) := by
      rw [isPage.page]
      omega
    have sized : page.limit = limit := isPage.limit.trans limited
    refine ⟨page, told, ?_, ?_⟩
    · rw [isPage.items, isPage.page, sized, place, Int.toNat_natCast, Int.toNat_natCast]
    · rw [isPage.hasMore_iff, numbered, sized, ← Int.natCast_mul, Int.ofNat_lt]
  simpa using CampaignPage.exists_browses positive serves 0 (by simp)

end Store

namespace Correlator

/-! ## What a caller is shown -/

theorem page_eq {correlator : Correlator} {page limit status : Value} {asked size : Int}
    {filter : Option CampaignStatus} (numbered : page.integer = .ok asked)
    (sized : limit.integer = .ok size) (filtered : CampaignStatus.filterOfValue status = .ok filter) :
    correlator.page page limit status = correlator.store.campaignPage asked size filter := by
  rw [Correlator.page, filtered, sized, numbered]
  rfl

/-- For every limit that is a number and every status that a listing can be restricted to,
the pages from the first on end with one that tells of no more, in one way only, and
together they have every campaign of the status once, in the order of listing. Every page
that is shown, one of them or another, tells the number of these campaigns and the number
and limit that counted, and it tells of more exactly where a later page has campaigns.
Campaigns are stored under their identities, and a table counts its rows in 64 bits. -/
theorem pages_show_each_campaign_once (correlator : Correlator) (limit status : Value)
    {size : Int} {filter : Option CampaignStatus} (sized : limit.integer = .ok size)
    (filtered : CampaignStatus.filterOfValue status = .ok filter)
    (distinct : (correlator.store.campaigns.map fun entry => entry.2.id).Nodup)
    (counted : Store.fits correlator.store.campaigns.length = true) :
    (∃ pages, CampaignPage.Browses (fun number => correlator.page (.int number) limit status)
        1 pages ∧
      (∀ others, CampaignPage.Browses
        (fun number => correlator.page (.int number) limit status) 1 others → others = pages) ∧
      (∀ (index : Nat) page, pages[index]? = some page →
        correlator.page (.int (index + 1)) limit status = .ok page ∧ page.page = index + 1) ∧
      (pages.flatMap CampaignPage.items).Perm (correlator.store.matching filter) ∧
      (pages.flatMap CampaignPage.items).Pairwise Campaign.ListedBefore) ∧
    ∀ page asked answer, page.integer = .ok asked →
      correlator.page page limit status = .ok answer →
      answer.IsPageOf (correlator.store.listed filter) asked size ∧
        answer.total = (correlator.store.matching filter).length ∧
        (answer.hasMore = true ↔ ∃ later next, answer.page < later ∧
          correlator.page (.int later) limit status = .ok next ∧ next.items ≠ []) := by
  have answers (number : Int) : correlator.page (.int number) limit status =
      correlator.store.campaignPage number size filter := page_eq rfl sized filtered
  constructor
  · rcases Store.exists_browses counted size filter with ⟨pages, browses, concatenated⟩
    simp only [answers]
    refine ⟨pages, browses, fun others => browses.unique, ?_, ?_, ?_⟩
    · intro index page placed
      have told := browses.told placed
      rw [Int.add_comm] at told
      refine ⟨told, ?_⟩
      rw [(Store.isPageOf_of_campaignPage told).page]
      omega
    · rw [concatenated]
      exact Store.listed_perm _ _
    · rw [concatenated]
      exact Store.pairwise_listed distinct
  · intro page asked answer numbered told
    rw [page_eq numbered sized filtered] at told
    have isPage := Store.isPageOf_of_campaignPage told
    simp only [answers]
    refine ⟨isPage, ?_, Store.hasMore_iff_exists_later counted told⟩
    rw [isPage.total, (Store.listed_perm _ _).length_eq]

def lastSeenAt (id : String) (minute : Nat) (status : CampaignStatus) : Campaign where
  id := id
  name := id
  kind := .manual
  firstSeen := some (History.reading 0)
  lastSeen := some (History.reading minute)
  eventCount := 3
  uniqueAddresses := 1
  status := status

def watching : Correlator where
  store := { campaigns := [("d", lastSeenAt "d" 10 .active), ("b", lastSeenAt "b" 30 .active),
    ("c", lastSeenAt "c" 40 .resolved), ("e", lastSeenAt "e" 20 .active),
    ("a", lastSeenAt "a" 20 .active)] }

/-- Two pages of two show the four active campaigns, and there is no third one. -/
theorem two_pages_show_four_campaigns :
    ∃ pages, CampaignPage.Browses (fun number => watching.page (.int number) (.int 2)
        (.text "active")) 1 pages ∧
      pages.map (fun page => page.items.map Campaign.id) = [["b", "a"], ["e", "d"]] ∧
      (pages.flatMap CampaignPage.items).Pairwise Campaign.ListedBefore := by
  have shown := (pages_show_each_campaign_once watching (.int 2) (.text "active") rfl rfl
    (by decide +kernel) (by decide)).1
  rcases shown with ⟨pages, browses, unique, _, _, inOrder⟩
  refine ⟨pages, browses, ?_, inOrder⟩
  rw [← unique _ (.next rfl rfl (.last rfl rfl))]
  rfl

end Correlator

end ThreatWatch
