import Mathlib.Data.List.Flatten
import Mathlib.Data.List.Nodup
import Mathlib.Data.List.Pairwise
import Mathlib.Data.List.Perm.Basic
import Mathlib.Data.List.ReduceOption
import Mathlib.Data.List.TakeWhile
import ThreatWatch.Grouping

/-! Groups and runs lose nothing and add nothing: the groups of a list are a
rearrangement of it, and runs that are taken out of a list whole leave the other
runs as they were. -/

namespace ThreatWatch

/-! ## Distinct items -/

section Distinct

variable {α : Type u} [BEq α] [LawfulBEq α]

theorem nodup_eraseDups : ∀ items : List α, items.eraseDups.Nodup
  | [] => by simp
  | item :: rest => by
      rw [List.eraseDups_cons, List.nodup_cons]
      refine ⟨?_, nodup_eraseDups (rest.filter fun other => !other == item)⟩
      rw [List.mem_eraseDups]
      simp
termination_by items => items.length
decreasing_by exact Nat.lt_succ_of_le (List.length_filter_le _ _)

theorem eraseDups_perm {left right : List α} (perm : left.Perm right) :
    left.eraseDups.Perm right.eraseDups := by
  rw [List.perm_ext_iff_of_nodup (nodup_eraseDups left) (nodup_eraseDups right)]
  intro item
  rw [List.mem_eraseDups, List.mem_eraseDups, perm.mem_iff]

theorem length_eraseDups_le (items : List α) : items.eraseDups.length ≤ items.length :=
  (List.subperm_of_subset (nodup_eraseDups items) fun _ => List.mem_eraseDups.mp).length_le

theorem eraseDups_eq_self : ∀ {items : List α}, items.Nodup → items.eraseDups = items
  | [], _ => by simp
  | item :: rest, nodup => by
      obtain ⟨absent, restNodup⟩ := List.nodup_cons.mp nodup
      have others : (rest.filter fun other => !other == item) = rest := by
        rw [List.filter_eq_self]
        intro other member
        simp only [Bool.not_eq_true', beq_eq_false_iff_ne]
        rintro rfl
        exact absent member
      rw [List.eraseDups_cons, others, eraseDups_eq_self restNodup]

theorem filter_eraseDups (keeps : α → Bool) : ∀ items : List α,
    items.eraseDups.filter keeps = (items.filter keeps).eraseDups
  | [] => by simp
  | item :: rest => by
      have later := filter_eraseDups keeps (rest.filter fun other => !other == item)
      rw [List.eraseDups_cons, List.filter_cons, List.filter_cons, later]
      split
      · rw [List.eraseDups_cons, List.filter_filter, List.filter_filter]
        simp only [Bool.and_comm]
      · next left =>
          congr 1
          rw [List.filter_filter]
          refine List.filter_congr fun other _ => ?_
          cases same : other == item with
          | false => simp
          | true => simpa [eq_of_beq same] using left
termination_by items => items.length
decreasing_by exact Nat.lt_succ_of_le (List.length_filter_le _ _)

theorem eraseDups_append_eraseDups (left right : List α) :
    (left.eraseDups ++ right.eraseDups).eraseDups = (left ++ right).eraseDups := by
  rw [List.eraseDups_append, List.eraseDups_append, eraseDups_eq_self (nodup_eraseDups left)]
  simp only [List.removeAll, filter_eraseDups]
  rw [eraseDups_eq_self (nodup_eraseDups _)]
  congr 2
  refine List.filter_congr fun item _ => ?_
  simp

theorem idxOf_lt_of_filter {keeps : α → Bool} {items : List α} {first second : α}
    (keepsFirst : keeps first = true) (keepsSecond : keeps second = true)
    (before : (items.filter keeps).idxOf first < (items.filter keeps).idxOf second) :
    items.idxOf first < items.idxOf second := by
  induction items with
  | nil => exact before
  | cons item rest induction =>
      rw [List.idxOf_cons, List.idxOf_cons]
      by_cases kept : keeps item = true
      · rw [List.filter_cons_of_pos kept, List.idxOf_cons, List.idxOf_cons] at before
        cases isFirst : item == first <;> cases isSecond : item == second <;>
          simp only [isFirst, isSecond, cond_true, cond_false] at before ⊢ <;> omega
      · have notFirst : (item == first) = false :=
          beq_false_of_ne fun equal => kept (equal ▸ keepsFirst)
        have notSecond : (item == second) = false :=
          beq_false_of_ne fun equal => kept (equal ▸ keepsSecond)
        rw [List.filter_cons_of_neg kept] at before
        simpa [notFirst, notSecond] using induction before

theorem pairwise_idxOf_eraseDups : ∀ items : List α,
    items.eraseDups.Pairwise fun first second => items.idxOf first < items.idxOf second
  | [] => by simp
  | item :: rest => by
      have later := pairwise_idxOf_eraseDups (rest.filter fun other => !other == item)
      have different {other : α}
          (member : other ∈ (rest.filter fun other => !other == item).eraseDups) :
          (other == item) = false := by
        simpa using List.of_mem_filter (List.mem_eraseDups.mp member)
      rw [List.eraseDups_cons, List.pairwise_cons]
      refine ⟨fun other member => ?_, later.imp_of_mem fun firstMember secondMember before => ?_⟩
      · have unequal := different member
        rw [List.idxOf_cons_self, List.idxOf_cons, BEq.comm, unequal]
        exact Nat.succ_pos _
      · have notFirst := different firstMember
        have notSecond := different secondMember
        have ordered := idxOf_lt_of_filter (by simp [notFirst]) (by simp [notSecond]) before
        rw [List.idxOf_cons, List.idxOf_cons, BEq.comm, notFirst, BEq.comm, notSecond]
        exact Nat.succ_lt_succ ordered
termination_by items => items.length
decreasing_by exact Nat.lt_succ_of_le (List.length_filter_le _ _)

end Distinct

/-! ## Known items -/

theorem reduceOption_map_some {α : Type u} (items : List α) :
    (items.map some).reduceOption = items := by
  rw [List.reduceOption, List.filterMap_map, Function.id_comp, List.filterMap_some]

theorem map_some_reduceOption {α : Type u} {items : List (Option α)} (known : none ∉ items) :
    items.reduceOption.map some = items := by
  induction items with
  | nil => rfl
  | cons item rest induction =>
      obtain ⟨here, others⟩ := not_or.mp (List.mem_cons.not.mp known)
      cases item with
      | none => exact absurd rfl here
      | some value =>
          rw [List.reduceOption_cons_of_some, List.map_cons, induction others]

/-! ## Parts -/

theorem nodup_of_subperm {α : Type u} {left right : List α} (part : left.Subperm right)
    (nodup : right.Nodup) : left.Nodup := by
  rcases part with ⟨middle, perm, sublist⟩
  exact perm.nodup_iff.mp (nodup.sublist sublist)

theorem filter_flatten {α : Type u} {keeps : α → Bool} {chosen : List α → Bool}
    {lists : List (List α)} (agree : ∀ items ∈ lists, ∀ item ∈ items, keeps item = chosen items) :
    lists.flatten.filter keeps = (lists.filter chosen).flatten := by
  induction lists with
  | nil => rfl
  | cons items others induction =>
      have later := induction fun other member => agree other (List.mem_cons_of_mem _ member)
      rw [List.flatten_cons, List.filter_append, later]
      cases kept : chosen items with
      | true =>
          rw [List.filter_cons_of_pos kept, List.flatten_cons, List.filter_eq_self.mpr]
          intro item member
          rw [agree items (by simp) item member, kept]
      | false =>
          rw [List.filter_cons_of_neg (by simp [kept]), List.filter_eq_nil_iff.mpr,
            List.nil_append]
          intro item member
          rw [agree items (by simp) item member, kept]
          simp

theorem filter_eq_of_sublist {α : Type u} {keeps : α → Bool} {chosen items : List α}
    (sublist : chosen.Sublist items) (nodup : items.Nodup)
    (kept : ∀ item ∈ items, keeps item = true ↔ item ∈ chosen) : items.filter keeps = chosen := by
  induction sublist with
  | slnil => rfl
  | @cons chosen rest item sublist induction =>
      rcases List.nodup_cons.mp nodup with ⟨absent, restNodup⟩
      have notKept : ¬keeps item = true := fun isKept =>
        absent (sublist.mem ((kept item (by simp)).mp isKept))
      rw [List.filter_cons_of_neg notKept]
      exact induction restNodup fun other member => kept other (List.mem_cons_of_mem _ member)
  | @cons_cons chosen rest item sublist induction =>
      rcases List.nodup_cons.mp nodup with ⟨absent, restNodup⟩
      rw [List.filter_cons_of_pos ((kept item (by simp)).mpr (by simp)),
        induction restNodup fun other member => ?_]
      have different : other ≠ item := fun equal => absent (equal ▸ member)
      rw [kept other (List.mem_cons_of_mem _ member), List.mem_cons]
      simp [different]

theorem filter_map_of_fixed {α : Type u} {keeps remains : α → Bool} {change : α → α}
    {items : List α} (kept : ∀ item ∈ items, keeps (change item) = remains item)
    (fixed : ∀ item ∈ items, remains item = true → change item = item) :
    (items.map change).filter keeps = items.filter remains := by
  induction items with
  | nil => rfl
  | cons item rest induction =>
      have later := induction (fun other member => kept other (List.mem_cons_of_mem _ member))
        fun other member => fixed other (List.mem_cons_of_mem _ member)
      have keptItem := kept item (by simp)
      rw [List.map_cons]
      cases remainsItem : remains item with
      | true =>
          rw [List.filter_cons_of_pos (by rw [keptItem, remainsItem]),
            List.filter_cons_of_pos remainsItem, later, fixed item (by simp) remainsItem]
      | false =>
          rw [List.filter_cons_of_neg (by simp [keptItem, remainsItem]),
            List.filter_cons_of_neg (by simp [remainsItem]), later]

theorem eq_of_mem_of_nodup_flatten {α : Type u} {lists : List (List α)}
    (nodup : lists.flatten.Nodup) {left right : List α} (leftMember : left ∈ lists)
    (rightMember : right ∈ lists) {item : α} (inLeft : item ∈ left) (inRight : item ∈ right) :
    left = right := by
  have symmetric : Std.Symm (@List.Disjoint α) := ⟨fun _ _ disjoint _ right left => disjoint left right⟩
  by_contra different
  have disjoint := (List.nodup_flatten.mp nodup).2.forall leftMember rightMember different
  exact disjoint inLeft inRight

/-! ## Groups -/

section Groups

variable {α : Type u} {κ : Type v} [BEq κ] [LawfulBEq κ] {key : α → κ} {items : List α}

theorem mem_groupsBy {group : κ × List α} :
    group ∈ groupsBy key items ↔
      group.1 ∈ items.map key ∧ group.2 = items.filter fun item => key item == group.1 := by
  unfold groupsBy
  rw [List.mem_map]
  constructor
  · rintro ⟨name, member, rfl⟩
    exact ⟨List.mem_eraseDups.mp member, rfl⟩
  · rintro ⟨member, equal⟩
    exact ⟨group.1, List.mem_eraseDups.mpr member, by rw [← equal]⟩

theorem ne_nil_of_mem_groupsBy {group : κ × List α} (member : group ∈ groupsBy key items) :
    group.2 ≠ [] := by
  rcases mem_groupsBy.mp member with ⟨named, equal⟩
  rcases List.mem_map.mp named with ⟨item, itemMember, itemKey⟩
  rw [equal]
  exact List.ne_nil_of_mem (List.mem_filter.mpr ⟨itemMember, by simp [itemKey]⟩)

theorem flatMap_filter_perm (key : α → κ) (names : List κ) (nodup : names.Nodup) (items : List α) :
    (names.flatMap fun name => items.filter fun item => key item == name).Perm
      (items.filter fun item => names.contains (key item)) := by
  induction names with
  | nil => simp
  | cons name others induction =>
      rcases List.nodup_cons.mp nodup with ⟨absent, othersNodup⟩
      let listed := items.filter fun item => (name :: others).contains (key item)
      have ofName : listed.filter (fun item => key item == name) =
          items.filter fun item => key item == name := by
        rw [List.filter_filter]
        apply List.filter_congr
        intro item _
        by_cases equal : key item = name <;> simp [equal]
      have ofOthers : listed.filter (fun item => !(key item == name)) =
          items.filter fun item => others.contains (key item) := by
        rw [List.filter_filter]
        apply List.filter_congr
        intro item _
        by_cases equal : key item = name
        · simp [equal, absent]
        · simp [equal]
      rw [List.flatMap_cons]
      refine ((induction othersNodup).append_left _).trans ?_
      rw [← ofName, ← ofOthers]
      exact List.filter_append_perm _ listed

theorem flatMap_groupsBy_perm (key : α → κ) (items : List α) :
    ((groupsBy key items).flatMap Prod.snd).Perm items := by
  have perm := flatMap_filter_perm key (items.map key).eraseDups
    (nodup_eraseDups _) items
  have all : (items.filter fun item => (items.map key).eraseDups.contains (key item)) = items := by
    rw [List.filter_eq_self]
    intro item member
    rw [List.contains_iff_mem, List.mem_eraseDups]
    exact List.mem_map_of_mem member
  rw [all] at perm
  simpa [groupsBy, List.flatMap_map] using perm

end Groups

/-! ## Runs -/

section Runs

variable {α : Type u} {near : α → α → Bool}

theorem ne_nil_of_mem_runsFrom {items run : List α} (member : run ∈ runsFrom near items) :
    run ≠ [] := by
  fun_induction runsFrom near items with
  | case1 => cases member
  | case2 first rest induction =>
      rcases List.mem_cons.mp member with rfl | member
      · exact List.cons_ne_nil _ _
      · exact induction member

/-- In such a list an item that is near an anchor is not preceded by one that is
no longer near it. -/
def Recedes (near : α → α → Bool) (items : List α) : Prop :=
  items.Pairwise fun earlier later =>
    ∀ anchor, near anchor later = true → near anchor earlier = true

theorem Recedes.far_of_mem_dropWhile {anchor item : α} {items : List α}
    (recedes : Recedes near items) (member : item ∈ items.dropWhile (near anchor)) :
    near anchor item = false := by
  induction items with
  | nil => cases member
  | cons first rest induction =>
      rcases List.pairwise_cons.mp recedes with ⟨leads, restRecedes⟩
      cases atFirst : near anchor first with
      | true =>
          rw [List.dropWhile_cons_of_pos atFirst] at member
          exact induction restRecedes member
      | false =>
          rw [List.dropWhile_cons_of_neg (by simp [atFirst])] at member
          rcases List.mem_cons.mp member with rfl | later
          · exact atFirst
          · cases atItem : near anchor item with
            | false => rfl
            | true => exact absurd (leads item later anchor atItem) (by simp [atFirst])

theorem Recedes.far_of_mem_laterRuns {anchor item : α} {items : List α}
    (recedes : Recedes near items)
    (member : item ∈ (runsFrom near (items.dropWhile (near anchor))).flatten) :
    near anchor item = false := by
  rw [flatten_runsFrom] at member
  exact recedes.far_of_mem_dropWhile member

theorem Recedes.pairwise_runsFrom {items : List α} (recedes : Recedes near items) :
    (runsFrom near items).Pairwise fun run later =>
      ∀ first ∈ run.head?, ∀ item ∈ later, near first item = false := by
  fun_induction runsFrom near items with
  | case1 => exact .nil
  | case2 first rest induction =>
      have restRecedes : Recedes near rest := (List.pairwise_cons.mp recedes).2
      refine List.pairwise_cons.mpr
        ⟨fun later member => ?_, induction (restRecedes.sublist (List.dropWhile_sublist _))⟩
      intro anchor isFirst item inLater
      cases Option.mem_some_iff.mp isFirst
      exact restRecedes.far_of_mem_laterRuns (List.mem_flatten_of_mem member inLater)

theorem runsFrom_append {first : α} {run others : List α}
    (same : ∀ item ∈ run, near first item = true)
    (far : ∀ item ∈ others, near first item = false) :
    runsFrom near (first :: run ++ others) = (first :: run) :: runsFrom near others := by
  have none : others.takeWhile (near first) = [] := by
    cases others with
    | nil => rfl
    | cons next rest => simp [far next (by simp)]
  have all : others.dropWhile (near first) = others := by
    have whole := List.takeWhile_append_dropWhile (p := near first) (l := others)
    rwa [none] at whole
  rw [List.cons_append, runsFrom_cons, List.takeWhile_append_of_pos same,
    List.dropWhile_append_of_pos same, none, all, List.append_nil]

theorem runsFrom_flatten_of_sublist {items : List α} {chosen : List (List α)}
    (recedes : Recedes near items) (sublist : chosen.Sublist (runsFrom near items)) :
    runsFrom near chosen.flatten = chosen := by
  fun_induction runsFrom near items generalizing chosen with
  | case1 =>
      rw [List.sublist_nil.mp sublist]
      exact runsFrom_nil near
  | case2 first rest induction =>
      have restRecedes : Recedes near rest := (List.pairwise_cons.mp recedes).2
      have laterRecedes : Recedes near (rest.dropWhile (near first)) :=
        restRecedes.sublist (List.dropWhile_sublist _)
      cases sublist with
      | cons _ sublist => exact induction laterRecedes sublist
      | @cons_cons later _ _ sublist =>
          -- the runs that are left come after this one, so they are not near its first item
          have far : ∀ item ∈ later.flatten, near first item = false := fun item member =>
            restRecedes.far_of_mem_laterRuns (sublist.flatten.mem member)
          have same : ∀ item ∈ rest.takeWhile (near first), near first item = true :=
            fun item member => List.mem_takeWhile_imp member
          rw [List.flatten_cons, runsFrom_append same far, induction laterRecedes sublist]

end Runs

end ThreatWatch
