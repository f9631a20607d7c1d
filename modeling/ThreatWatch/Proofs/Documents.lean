import Mathlib.Logic.Relation
import ThreatWatch.Proofs.Reading

/-! What can keep the rule of a document from being read without a report of it: an integer that is
too long to be written, a title that has no octets to derive an id from, and a detection that holds
itself. -/

namespace ThreatWatch

namespace Value

/-- An outcome that fails for nothing but an integer in a value that is too long. -/
def FailsOver {α : Type} (value : Value) (outcome : Except Fault α) : Prop :=
  FailsOnly (fun fault => value.HoldsLong ∧ fault = .tooManyDigits) outcome

theorem FailsOver.of_part {α : Type} {value part : Value} {outcome : Except Fault α}
    (fails : FailsOver part outcome) (member : part ∈ value.parts) : FailsOver value outcome :=
  fails.imp fun _ ⟨long, same⟩ => ⟨.part member long, same⟩

theorem failsOver_quoted (value : Value) : FailsOver value value.quoted :=
  quoted_eq_error value

theorem failsOver_shown (value : Value) : FailsOver value value.shown :=
  fun _ failed => shown_eq_error failed

mutual

theorem failsOver_sealedForm : ∀ value : Value, FailsOver value (sealedForm value)
  | .null | .bool _ | .int _ | .float _ | .text _ | .bytes _ | .date _ | .moment _ | .set _ => by
      rw [sealedForm]
      · exact failsOnly_ok _
      all_goals simp
  | .list items | .tuple items => by
      rw [sealedForm]
      refine (failsOver_sealedItems _ items fun item member => ?_).change _
      exact member
  | .map entries | .sealed entries => by
      rw [sealedForm]
      refine (failsOver_sealedTable _ [] entries fun entry member => ?_).change _
      exact mem_parts_of_mem_entries rfl member

theorem failsOver_sealedItems (value : Value) : ∀ items : List Value,
    (∀ item ∈ items, item ∈ value.parts) → FailsOver value (sealedItems items)
  | [], _ => by
      rw [sealedItems]
      exact failsOnly_ok []
  | item :: rest, members => by
      rcases List.forall_mem_cons.mp members with ⟨here, later⟩
      rw [sealedItems]
      exact ((failsOver_sealedForm item).of_part here).bind fun _ _ =>
        (failsOver_sealedItems value rest later).change _

theorem failsOver_sealedTable (value : Value) (table : Table Value) :
    ∀ entries : List (Value × Value),
      (∀ entry ∈ entries, entry.1 ∈ value.parts ∧ entry.2 ∈ value.parts) →
        FailsOver value (sealedTable table entries)
  | [], _ => by
      rw [sealedTable]
      exact failsOnly_ok table
  | (key, held) :: rest, members => by
      rcases List.forall_mem_cons.mp members with ⟨⟨ofKey, ofHeld⟩, later⟩
      rw [sealedTable]
      exact ((failsOver_shown key).of_part ofKey).bind fun _ _ =>
        ((failsOver_sealedForm held).of_part ofHeld).bind fun _ _ =>
          failsOver_sealedTable value _ rest later

end

end Value

/-! ## Long integers in documents -/

def Part.HoldLong (parts : List Part) : Prop :=
  ∃ part ∈ parts, ∃ leaf ∈ part.leaves, leaf.toValue.HoldsLong

namespace Document

def HoldsLong : Document → Prop
  | .plain value => value.HoldsLong
  | .linked parts _ => Part.HoldLong parts

/-- An outcome that fails for nothing but an integer in a document that is too long. -/
def FailsOver {α : Type} (document : Document) (outcome : Except Fault α) : Prop :=
  FailsOnly (fun fault => document.HoldsLong ∧ fault = .tooManyDigits) outcome

theorem holdLong_of_leaf {parts : List Part} {place : Nat} {part : Part}
    (found : parts[place]? = some part) {leaf : Leaf} (member : leaf ∈ part.leaves)
    (long : leaf.toValue.HoldsLong) : Part.HoldLong parts :=
  ⟨part, List.mem_of_getElem? found, leaf, member, long⟩

theorem holdLong_of_startingAt {parts : List Part} {place : Nat}
    (long : (startingAt parts place).HoldsLong) : Part.HoldLong parts := by
  unfold startingAt at long
  split at long
  · cases long with
    | part member _ => cases member
  · next value found => exact holdLong_of_leaf found (List.mem_singleton_self _) long
  · exact long

theorem holdsLong_of_mem_entries {document : Document} {entry : Value × Document}
    (member : entry ∈ document.entries) (long : entry.1.HoldsLong ∨ entry.2.HoldsLong) :
    document.HoldsLong := by
  unfold entries at member
  split at member
  · next entries =>
      rcases List.mem_map.mp member with ⟨original, originalMember, rfl⟩
      exact Value.holdsLong_of_entries rfl ⟨original, originalMember, long⟩
  · cases member
  · split at member
    · next parts _ _ entries found =>
        rcases List.mem_map.mp member with ⟨original, originalMember, rfl⟩
        rcases long with ofKey | ofHeld
        · exact holdLong_of_leaf found (List.mem_map_of_mem originalMember) ofKey
        · exact holdLong_of_startingAt ofHeld
    · cases member

theorem holdsLong_of_mem_items {document item : Document} (member : item ∈ document.items)
    (long : item.HoldsLong) : document.HoldsLong := by
  unfold items at member
  split at member
  · next value =>
      rcases List.mem_map.mp member with ⟨part, partMember, rfl⟩
      have within : part ∈ value.parts := by
        cases value with
        | list items | tuple items => exact partMember
        | _ => cases partMember
      exact .part within long
  · split at member
    · rcases List.mem_map.mp member with ⟨_, _, rfl⟩
      exact holdLong_of_startingAt long
    · rcases List.mem_map.mp member with ⟨_, _, rfl⟩
      exact holdLong_of_startingAt long
    · cases member

theorem field_cases (document : Document) (name : String) :
    document.field name = .plain .null ∨ ∃ key, (key, document.field name) ∈ document.entries := by
  unfold field
  split
  · next entry found => exact .inr ⟨entry.1, List.mem_of_find?_eq_some found⟩
  · exact .inl rfl

theorem holdsLong_of_field {document : Document} {name : String}
    (long : (document.field name).HoldsLong) : document.HoldsLong := by
  rcases field_cases document name with missing | ⟨key, member⟩
  · rw [missing] at long
    cases long with
    | part member _ => cases member
  · exact holdsLong_of_mem_entries member (.inr long)

/-! ## Texts of documents -/

theorem failsOver_leaf {parts : List Part} {place : Nat} {part : Part}
    (found : parts[place]? = some part) {leaf : Leaf} (member : leaf ∈ part.leaves) :
    FailsOnly (fun fault => Part.HoldLong parts ∧ fault = .tooManyDigits) leaf.quoted := by
  cases leaf with
  | value value =>
      exact (Value.failsOver_quoted value).imp fun _ ⟨long, same⟩ =>
        ⟨holdLong_of_leaf found member long, same⟩
  | text points => exact failsOnly_ok _

theorem failsOver_quotedPart (parts : List Part) (fuel : Nat) (around : List Nat) (place : Nat) :
    FailsOnly (fun fault => Part.HoldLong parts ∧ fault = .tooManyDigits)
      (quotedPart parts fuel around place) := by
  induction fuel generalizing around place with
  | zero => exact failsOnly_ok _
  | succ fuel induction =>
      unfold quotedPart
      dsimp only
      split
      · exact failsOnly_ok _
      · next found => exact failsOver_leaf found (List.mem_singleton_self _)
      · split
        · exact failsOnly_ok _
        · exact (failsOnly_mapM fun item _ => induction _ item).change _
      · split
        · exact failsOnly_ok _
        · exact (failsOnly_mapM fun item _ => induction _ item).change _
      · next items found =>
          exact (failsOnly_mapM fun item member => failsOver_leaf found member).change _
      · next entries found =>
          split
          · exact failsOnly_ok _
          · refine (failsOnly_mapM fun entry member => ?_).change _
            have ofKey := failsOver_leaf found (List.mem_map_of_mem member)
            exact ofKey.bind fun _ _ => (induction _ entry.2).change _

theorem failsOver_quoted (document : Document) : FailsOver document document.quoted := by
  cases document with
  | plain value => exact Value.failsOver_quoted value
  | linked parts place => exact failsOver_quotedPart parts _ [] place

theorem failsOver_shown (document : Document) : FailsOver document document.shown := by
  unfold shown
  split
  · exact Value.failsOver_shown _
  · next parts place =>
      split
      · next leaf found =>
          exact (Value.failsOver_shown leaf.toValue).imp fun _ ⟨long, same⟩ =>
            ⟨holdLong_of_leaf found (List.mem_singleton_self _) long, same⟩
      · exact failsOver_quotedPart parts _ [] place

theorem failsOver_shownOrEmpty (document : Document) :
    FailsOver document document.shownOrEmpty := by
  unfold shownOrEmpty
  split
  · exact failsOver_shown document
  · exact failsOnly_ok ""

theorem failsOver_shownLower (document : Document) : FailsOver document document.shownLower :=
  (failsOver_shownOrEmpty document).change _

theorem failsOver_shownIfAny (document : Document) : FailsOver document document.shownIfAny := by
  unfold shownIfAny
  split
  · exact failsOnly_ok none
  · exact (failsOver_shown document).change _

theorem failsOver_shownItems (document : Document) : FailsOver document document.shownItems := by
  refine FailsOnly.change (failsOnly_mapM fun item member => ?_) _
  exact ((failsOver_shown item).change _).imp fun _ ⟨long, same⟩ =>
    ⟨holdsLong_of_mem_items member long, same⟩

/-! ## Documents that hold themselves -/

def Leads (parts : List Part) (place next : Nat) : Prop :=
  ∃ part, parts[place]? = some part ∧ next ∈ part.targets

def HoldsItself : Document → Prop
  | .plain _ => False
  | .linked parts place => ∃ inner, Relation.ReflTransGen (Leads parts) place inner ∧
      Relation.TransGen (Leads parts) inner inner

theorem holdsItself_of_mem_entries {document : Document} {entry : Value × Document}
    (member : entry ∈ document.entries) (own : entry.2.HoldsItself) : document.HoldsItself := by
  unfold entries at member
  split at member
  · rcases List.mem_map.mp member with ⟨_, _, rfl⟩
    cases own
  · cases member
  · split at member
    · next parts place _ entries found =>
        rcases List.mem_map.mp member with ⟨original, originalMember, rfl⟩
        unfold startingAt at own
        split at own
        · cases own
        · cases own
        · rcases own with ⟨inner, reaches, back⟩
          have leads : Leads parts place original.2 :=
            ⟨_, found, List.mem_map_of_mem originalMember⟩
          exact ⟨inner, .head leads reaches, back⟩
    · cases member

theorem sealedPart_eq_error {parts : List Part} {fuel place : Nat} {fault : Fault}
    (failed : sealedPart parts (fuel + 1) place = .error fault) :
    (Part.HoldLong parts ∧ fault = .tooManyDigits) ∨
      ∃ next, Leads parts place next ∧ sealedPart parts fuel next = .error fault := by
  unfold sealedPart at failed
  split at failed
  · cases failed
  · next leaf found =>
      rcases Value.failsOver_sealedForm _ _ failed with ⟨long, same⟩
      exact .inl ⟨holdLong_of_leaf found (List.mem_singleton_self _) long, same⟩
  · cases failed
  · next items found =>
      rcases exists_of_mapM_eq_error (eq_error_of_bind_pure failed) with ⟨item, member, stopped⟩
      exact .inr ⟨item, ⟨_, found, member⟩, stopped⟩
  · next items found =>
      rcases exists_of_mapM_eq_error (eq_error_of_bind_pure failed) with ⟨item, member, stopped⟩
      exact .inr ⟨item, ⟨_, found, member⟩, stopped⟩
  · next entries found =>
      rcases exists_of_mapM_eq_error (eq_error_of_bind_pure failed) with ⟨entry, member, stopped⟩
      rcases bind_eq_error_iff.mp stopped with ofKey | ⟨_, _, later⟩
      · rcases Value.shown_eq_error ofKey with ⟨long, same⟩
        exact .inl ⟨holdLong_of_leaf found (List.mem_map_of_mem member) long, same⟩
      · exact .inr ⟨entry.2, ⟨_, found, List.mem_map_of_mem member⟩,
          eq_error_of_bind_pure later⟩

/-- Where the parts that lead to a place are `seen`, and there is fuel for all others, a part that
cannot be sealed for want of fuel leads back to itself. -/
theorem exists_loop_of_sealedPart {parts : List Part} {fuel place : Nat} {seen : List Nat}
    (nodup : seen.Nodup) (within : ∀ earlier ∈ seen, earlier < parts.length)
    (leading : ∀ earlier ∈ seen, Relation.TransGen (Leads parts) earlier place)
    (enough : parts.length < fuel + seen.length)
    (failed : sealedPart parts fuel place = .error .selfReference) :
    ∃ inner, Relation.ReflTransGen (Leads parts) place inner ∧
      Relation.TransGen (Leads parts) inner inner := by
  induction fuel generalizing place seen with
  | zero =>
      have among : seen ⊆ List.range parts.length := fun earlier member =>
        List.mem_range.mpr (within earlier member)
      have few := (List.subperm_of_subset nodup among).length_le
      rw [List.length_range] at few
      omega
  | succ fuel induction =>
      by_cases again : place ∈ seen
      · exact ⟨place, .refl, leading place again⟩
      · rcases sealedPart_eq_error failed with ⟨_, different⟩ | ⟨next, leads, stopped⟩
        · cases different
        · have here : place < parts.length := by
            rcases leads with ⟨part, found, _⟩
            exact (List.getElem?_eq_some_iff.mp found).1
          have longer : parts.length < fuel + (place :: seen).length := by
            rw [List.length_cons]
            omega
          rcases induction (List.nodup_cons.mpr ⟨again, nodup⟩)
              (List.forall_mem_cons.mpr ⟨here, within⟩)
              (List.forall_mem_cons.mpr ⟨.single leads, fun earlier member =>
                (leading earlier member).tail leads⟩) longer stopped with ⟨inner, reaches, back⟩
          exact ⟨inner, .head leads reaches, back⟩

/-- What can keep a document from being sealed. -/
inductive IsUnsealable (document : Document) : Fault → Prop where
  | digits (long : document.HoldsLong) : IsUnsealable document .tooManyDigits
  | loop (own : document.HoldsItself) : IsUnsealable document .selfReference

theorem fault_of_sealedPart {parts : List Part} {fuel place : Nat} {fault : Fault}
    (failed : sealedPart parts fuel place = .error fault) :
    (Part.HoldLong parts ∧ fault = .tooManyDigits) ∨ fault = .selfReference := by
  induction fuel generalizing place with
  | zero =>
      cases failed
      exact .inr rfl
  | succ fuel induction =>
      rcases sealedPart_eq_error failed with long | ⟨next, _, stopped⟩
      · exact .inl long
      · exact induction stopped

theorem sealedForm_eq_error (document : Document) :
    FailsOnly document.IsUnsealable document.sealedForm := by
  intro fault failed
  cases document with
  | plain value =>
      rcases Value.failsOver_sealedForm value fault failed with ⟨long, rfl⟩
      exact .digits long
  | linked parts place =>
      rcases fault_of_sealedPart failed with ⟨long, rfl⟩ | rfl
      · exact .digits long
      · exact .loop (exists_loop_of_sealedPart List.nodup_nil (by simp) (by simp) (by simp) failed)

/-! ## Detections -/

theorem failsOver_namedEntries (document : Document) :
    FailsOver document document.namedEntries := by
  refine FailsOnly.change (failsOnly_mapM fun entry member => ?_) _
  exact ((Value.failsOver_shown entry.1).change _).imp fun _ ⟨long, same⟩ =>
    ⟨holdsLong_of_mem_entries member (.inl long), same⟩

theorem exists_of_mem_namedEntries {document : Document} {named : Table Document}
    (written : document.namedEntries = .ok named) {entry : String × Document}
    (member : entry ∈ named) : ∃ key, (key, entry.2) ∈ document.entries := by
  rcases bind_eq_ok_iff.mp written with ⟨all, told, equal⟩
  cases equal
  rcases exists_of_mem_of_mapM_eq_ok told (Table.mem_of_mem_ofEntries member) with
    ⟨original, originalMember, shown⟩
  rcases bind_eq_ok_iff.mp shown with ⟨_, _, same⟩
  cases same
  exact ⟨original.1, originalMember⟩

theorem sealAll_eq_error {document : Document} {named : Table Document}
    (written : document.namedEntries = .ok named) :
    FailsOnly document.IsUnsealable (sealAll named) := by
  refine failsOnly_mapM fun entry member => FailsOnly.change ?_ _
  rcases exists_of_mem_namedEntries written member with ⟨key, held⟩
  refine (sealedForm_eq_error entry.2).imp fun fault unsealable => ?_
  cases unsealable with
  | digits long => exact .digits (holdsLong_of_mem_entries held (.inr long))
  | loop own => exact .loop (holdsItself_of_mem_entries held own)

end Document

namespace Rule

/-! ## Documents -/

/-- What can keep the rule of a document from being read or refused. -/
inductive Obstructs (document : Document) : Fault → Prop where
  | digits (long : document.HoldsLong) : Obstructs document .tooManyDigits
  | title (unencodable : (document.field "title").isEncodable = false) :
      Obstructs document .undecodableText
  | loop (own : (document.field "detection").HoldsItself) : Obstructs document .selfReference

def IsFaultOf (document : Document) (fault : Fault) : Prop :=
  (∃ ofRule, fault = .rule ofRule) ∨ Obstructs document fault

section

variable {α : Type} {document : Document} {name : String}

theorem failsOnly_fail (cause : RuleCause) :
    FailsOnly (IsFaultOf document) (fail cause : Except Fault α) :=
  failsOnly_error (.inl ⟨_, rfl⟩)

theorem failsOnly_of_field {outcome : Except Fault α}
    (fails : (document.field name).FailsOver outcome) : FailsOnly (IsFaultOf document) outcome := by
  refine fails.imp fun fault ⟨long, same⟩ => .inr ?_
  rw [same]
  exact .digits (Document.holdsLong_of_field long)

theorem failsOnly_checkDetection (place : String) (detection : Document) :
    FailsOnly (IsFaultOf document) (checkDetection place detection) := by
  unfold checkDetection
  split
  · split
    · split
      · exact failsOnly_fail _
      · exact failsOnly_ok ()
    · exact failsOnly_fail _
  · exact failsOnly_fail _

theorem failsOnly_readLevel (place : String) :
    FailsOnly (IsFaultOf document) (readLevel place (document.field name)) := by
  refine (failsOnly_of_field (Document.failsOver_shownLower _)).bind fun level _ => ?_
  split
  · exact failsOnly_ok level
  · exact (failsOnly_of_field (Document.failsOver_quoted _)).bind fun _ _ => failsOnly_fail _

theorem failsOnly_readId (title : String) :
    FailsOnly (IsFaultOf document)
      (readId title (document.field "title").isEncodable (document.field name)) := by
  refine (failsOnly_of_field (Document.failsOver_shownOrEmpty _)).bind fun id _ => ?_
  dsimp only
  split
  · exact failsOnly_ok _
  · split
    · exact failsOnly_ok _
    · next unencodable => exact failsOnly_error (.inr (.title (Bool.eq_false_iff.mpr unencodable)))

end

theorem failsOnly_ofDocument (document : Document) (file : Option String) :
    FailsOnly (IsFaultOf document) (ofDocument document file) := by
  unfold ofDocument
  dsimp only
  split
  · refine (failsOnly_of_field (Document.failsOver_shownOrEmpty _)).bind fun title _ => ?_
    split
    · exact failsOnly_fail _
    · have sealing (named : Table Document)
          (written : (document.field "detection").namedEntries = .ok named) :
          FailsOnly (IsFaultOf document) (Document.sealAll named) := by
        refine (Document.sealAll_eq_error written).imp fun fault unsealable => .inr ?_
        cases unsealable with
        | digits long => exact .digits (Document.holdsLong_of_field long)
        | loop own => exact .loop own
      exact (failsOnly_checkDetection _ _).bind fun _ _ =>
        (failsOnly_readLevel _).bind fun _ _ =>
        (failsOnly_readId _).bind fun _ _ =>
        (failsOnly_of_field (Document.failsOver_shownLower _)).bind fun _ _ =>
        (failsOnly_of_field (Document.failsOver_namedEntries _)).bind fun named written =>
        (failsOnly_of_field (Document.failsOver_shownOrEmpty _)).bind fun _ _ =>
        (failsOnly_of_field (Document.failsOver_shownIfAny _)).bind fun _ _ =>
        (failsOnly_of_field (Document.failsOver_shownIfAny _)).bind fun _ _ =>
        (failsOnly_of_field (Document.failsOver_shownItems _)).bind fun _ _ =>
        (failsOnly_of_field (Document.failsOver_shownItems _)).bind fun _ _ =>
        (failsOnly_of_field (Document.failsOver_shownItems _)).bind fun _ _ =>
        (sealing named written).change _
  · exact failsOnly_fail _

end Rule

end ThreatWatch
