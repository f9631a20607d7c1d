import ThreatWatch.Campaign.Identity
import ThreatWatch.Proofs.Methods
import ThreatWatch.Proofs.Numerals

/-! The identity of a campaign. The text of its members is their numbers in order with a
comma between two of them, so that it tells how often each number occurs and nothing else:
two lists of members have one text where one is a rearrangement of the other. Members of
two texts have one identity on a day only where the digests of the texts begin alike. -/

namespace ThreatWatch

/-! ## Texts of integers -/

namespace Numeral

theorem toString_injective : Function.Injective (toString : Int → String) := by
  intro left right same
  have lists := congrArg String.toList same
  rw [toList_toString, toList_toString] at lists
  -- no digit stands where a sign would
  have unsigned (number : Nat) (rest : List Char) : Nat.toDigits 10 number ≠ '-' :: rest := by
    intro equal
    have plain := plain_toDigits number
    rw [equal, List.all_cons] at plain
    cases plain
  have sizes (digits : Nat.toDigits 10 left.natAbs = Nat.toDigits 10 right.natAbs) :
      left.natAbs = right.natAbs := by
    rw [← ofDigits_toDigits left.natAbs, digits, ofDigits_toDigits]
  split at lists <;> split at lists
  · have size := sizes (List.append_cancel_left lists)
    omega
  · exact absurd lists.symm (unsigned _ _)
  · exact absurd lists (unsigned _ _)
  · have size := sizes (List.append_cancel_left lists)
    omega

theorem toString_isPart (number : Int) :
    toString number ≠ "" ∧ ',' ∉ (toString number).toList := by
  have noComma : ',' ∉ Nat.toDigits 10 number.natAbs := by
    intro member
    have isDigit := List.all_eq_true.mp (plain_toDigits _) ',' member
    cases isDigit
  constructor
  · intro empty
    have written := toList_toString number
    rw [empty] at written
    exact Nat.toDigits_ne_nil (List.append_eq_nil_iff.mp written.symm).2
  · rw [toList_toString, List.mem_append, not_or]
    refine ⟨?_, noComma⟩
    split <;> simp

end Numeral

namespace Campaign

/-! ## Texts of members -/

def AreWritable (ids : List Int) : Prop :=
  ∀ number ∈ ids, number.natAbs < Nat.pow 10 Numeral.digitLimit

instance (ids : List Int) : Decidable (AreWritable ids) :=
  List.decidableBAll (fun number : Int => number.natAbs < Nat.pow 10 Numeral.digitLimit) ids

def inOrder (ids : List Int) : List Int :=
  sortBy (fun left right => decide (left ≤ right)) ids

variable {ids left right : List Int}

theorem le_isOrdering : IsOrdering fun left right : Int => decide (left ≤ right) where
  total left right := by simpa using le_total left right
  trans first second third before after := by
    simp only [decide_eq_true_eq] at before after ⊢
    exact le_trans before after

theorem inOrder_perm (ids : List Int) : (inOrder ids).Perm ids :=
  sortBy_perm _ ids

theorem inOrder_eq_iff : inOrder left = inOrder right ↔ left.Perm right := by
  constructor
  · intro same
    exact (inOrder_perm left).symm.trans (same ▸ inOrder_perm right)
  · intro perm
    refine List.Perm.eq_of_pairwise (fun first second _ _ before after => ?_)
      (le_isOrdering.pairwise_sortBy left) (le_isOrdering.pairwise_sortBy right)
      (((inOrder_perm left).trans perm).trans (inOrder_perm right).symm)
    simp only [decide_eq_true_eq] at before after
    exact le_antisymm before after

theorem areWritable_cons_iff {number : Int} :
    AreWritable (number :: ids) ↔
      number.natAbs < Nat.pow 10 Numeral.digitLimit ∧ AreWritable ids :=
  List.forall_mem_cons

theorem areWritable_iff_of_perm (perm : left.Perm right) :
    AreWritable left ↔ AreWritable right :=
  forall_congr' fun _ => imp_congr_left perm.mem_iff

def memberText (ids : List Int) : String :=
  Text.join "," ((inOrder ids).map toString)

theorem memberText_eq_iff : memberText left = memberText right ↔ left.Perm right := by
  rw [← inOrder_eq_iff]
  constructor
  · intro same
    have parts (ids : List Int) : ∀ part ∈ (inOrder ids).map toString,
        part ≠ "" ∧ ',' ∉ part.toList :=
      List.forall_mem_map.mpr fun number _ => Numeral.toString_isPart number
    have texts := Text.join_inj (parts left) (parts right) same
    exact List.map_injective_iff.mpr Numeral.toString_injective texts
  · intro same
    rw [memberText, memberText, same]

theorem mapM_writeInt? (ids : List Int) :
    ids.mapM Numeral.writeInt? = if AreWritable ids then some (ids.map toString) else none := by
  induction ids with
  | nil => rfl
  | cons number rest induction =>
      rw [List.mapM_cons, induction, Numeral.writeInt?]
      simp only [areWritable_cons_iff]
      by_cases small : number.natAbs < Nat.pow 10 Numeral.digitLimit
      · by_cases others : AreWritable rest
        · rw [if_pos small, if_pos others, if_pos ⟨small, others⟩]
          rfl
        · rw [if_pos small, if_neg others, if_neg fun both : _ ∧ _ => others both.2]
          rfl
      · rw [if_neg small, if_neg fun both : _ ∧ _ => small both.1]
        rfl

theorem membersOf_map_some (ids : List Int) :
    membersOf (ids.map some) =
      if AreWritable ids then .ok (memberText ids) else .error .tooManyDigits := by
  have numbered : (ids.map some).all Option.isSome = true := by
    rw [List.all_eq_true, List.forall_mem_map]
    exact fun _ _ => rfl
  have written : memberText? ids = if AreWritable ids then some (memberText ids) else none := by
    rw [memberText?, ← inOrder, mapM_writeInt?]
    simp only [areWritable_iff_of_perm (inOrder_perm ids)]
    split <;> rfl
  unfold membersOf
  split
  · next alone => simp [alone] at numbered
  · rw [if_pos numbered, reduceOption_map_some, written]
    split <;> simp_all

theorem eq_memberText {members : String} (told : membersOf (ids.map some) = .ok members) :
    memberText ids = members := by
  rw [membersOf_map_some] at told
  split at told
  · exact Except.ok.inj told
  · cases told

/-! ## Identities -/

def digestStart (members : String) : List Char :=
  (Sha256.hexDigest members).toList.take 8

theorem identity_eq_iff {day : Calendar.Date} {members others : String} :
    identity day members = identity day others ↔ digestStart members = digestStart others := by
  rw [identity, identity, String.append_right_inj, String.ofList_inj]
  rfl

theorem identityOf_map_some (day : Calendar.Date) (ids : List Int) :
    identityOf day (ids.map some) =
      if AreWritable ids then .ok (identity day (memberText ids)) else .error .tooManyDigits := by
  rw [identityOf, membersOf_map_some]
  split <;> rfl

/-- Members give one identity in every order, and they do give one unless a number has too
many digits. The text behind the identity tells the members, so that others have the same
identity on a day only where the digests of two texts begin alike. -/
theorem identity_tells_members (day : Calendar.Date) (left right : List Int) :
    (left.Perm right → identityOf day (left.map some) = identityOf day (right.map some)) ∧
    (AreWritable left → ∃ members, membersOf (left.map some) = .ok members ∧
      identityOf day (left.map some) = .ok (identity day members)) ∧
    (¬AreWritable left → identityOf day (left.map some) = .error .tooManyDigits) ∧
    ∀ members others, membersOf (left.map some) = .ok members →
      membersOf (right.map some) = .ok others →
        (members = others ↔ left.Perm right) ∧
        (identity day members = identity day others ↔
          left.Perm right ∨ members ≠ others ∧ digestStart members = digestStart others) := by
  refine ⟨fun perm => ?_, fun writable => ?_, fun notWritable => ?_, ?_⟩
  · rw [identityOf_map_some, identityOf_map_some, memberText_eq_iff.mpr perm]
    simp only [areWritable_iff_of_perm perm]
  · refine ⟨memberText left, ?_, ?_⟩
    · rw [membersOf_map_some, if_pos writable]
    · rw [identityOf_map_some, if_pos writable]
  · rw [identityOf_map_some, if_neg notWritable]
  · intro members others leftTold rightTold
    have same : members = others ↔ left.Perm right := by
      rw [← eq_memberText leftTold, ← eq_memberText rightTold, memberText_eq_iff]
    refine ⟨same, ?_⟩
    rw [identity_eq_iff, ← same]
    constructor
    · intro alike
      by_cases equal : members = others
      · exact .inl equal
      · exact .inr ⟨equal, alike⟩
    · intro either
      cases either with
      | inl equal => rw [equal]
      | inr collision => exact collision.2

/-- Three members in two orders, and two lists that only the comma tells apart. -/
theorem members_are_told_in_either_order :
    (∃ id, identityOf (History.reading 0).date ([10, 9, -3].map some) = .ok id ∧
      identityOf (History.reading 0).date ([-3, 10, 9].map some) = .ok id) ∧
    membersOf ([1, 2].map some) = .ok "1,2" ∧ membersOf ([12].map some) = .ok "12" ∧
    (identity (History.reading 0).date "1,2" = identity (History.reading 0).date "12" →
      digestStart "1,2" = digestStart "12") := by
  have writable : AreWritable [10, 9, -3] := by decide +kernel
  have pair : membersOf ([1, 2].map some) = .ok "1,2" := by decide +kernel
  have single : membersOf ([12].map some) = .ok "12" := by decide +kernel
  obtain ⟨sameInOrders, given, _, _⟩ :=
    identity_tells_members (History.reading 0).date [10, 9, -3] [-3, 10, 9]
  obtain ⟨members, _, identified⟩ := given writable
  obtain ⟨_, _, _, told⟩ := identity_tells_members (History.reading 0).date [1, 2] [12]
  refine ⟨⟨_, identified, ?_⟩, pair, single, fun same => ?_⟩
  · rw [← sameInOrders (by decide), identified]
  · cases (told "1,2" "12" pair single).2.mp same with
    | inl perm => exact absurd perm (by decide)
    | inr collision => exact collision.2

end Campaign

end ThreatWatch
