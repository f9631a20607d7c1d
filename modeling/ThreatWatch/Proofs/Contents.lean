import ThreatWatch.Proofs.Nodes
import ThreatWatch.Proofs.Outcome
import ThreatWatch.Yaml.Content

/-! What can go wrong when nodes are turned into values. Apart from nodes that have no
value at all, which make the document malformed, the only faults are those of scalars that
cannot be what their tags call for. -/

namespace ThreatWatch.Yaml

/-! ## Parts of nodes -/

/-- A node is part of itself and of the collections that it stands in. -/
inductive Node.IsPart (part : Node) : Node → Prop where
  | self : IsPart part part
  | item {tag : Tag} {items : List Node} {item : Node} (member : item ∈ items)
      (inside : IsPart part item) : IsPart part (.sequence tag items)
  | key {tag : Tag} {entries : List (Node × Node)} {entry : Node × Node} (member : entry ∈ entries)
      (inside : IsPart part entry.1) : IsPart part (.mapping tag entries)
  | held {tag : Tag} {entries : List (Node × Node)} {entry : Node × Node} (member : entry ∈ entries)
      (inside : IsPart part entry.2) : IsPart part (.mapping tag entries)
  | inner {mark : Nat} {node : Node} (inside : IsPart part node) : IsPart part (.marked mark node)

namespace Node

def Holds (holds : Node → Prop) (node : Node) : Prop :=
  ∀ part, part.IsPart node → holds part

section

variable {holds : Node → Prop}

theorem Holds.item {tag : Tag} {items : List Node} (all : (sequence tag items).Holds holds) :
    ∀ item ∈ items, item.Holds holds :=
  fun _ member part inside => all part (.item member inside)

theorem Holds.entry {tag : Tag} {entries : List (Node × Node)}
    (all : (mapping tag entries).Holds holds) :
    ∀ entry ∈ entries, entry.1.Holds holds ∧ entry.2.Holds holds :=
  fun _ member => ⟨fun part inside => all part (.key member inside),
    fun part inside => all part (.held member inside)⟩

theorem Holds.inner {mark : Nat} {node : Node} (all : (marked mark node).Holds holds) :
    node.Holds holds :=
  fun part inside => all part (.inner inside)

end

end Node

namespace Content

/-- A node with a tag for scalars whose text cannot be read as the tag calls for. -/
structure IsUnreadable (node : Node) (fault : Fault) : Prop where
  scalar : isScalarTag node.tag = true
  failed : ∃ content, scalarText? node = some content ∧ scalarValue node.tag content = .error fault

def Spoils (kind : Fault → Prop) (node : Node) : Prop :=
  node.Holds fun part => ∀ fault, IsUnreadable part fault → kind fault

abbrev MeetsOnly {α : Type} (kind : Fault → Prop) (outcome : Outcome α) : Prop :=
  FailsOnly (fun setback => kind setback.fault) outcome

section

variable {α β γ : Type} {kind : Fault → Prop}

theorem meetsOnly_refused (malformed : kind .yaml) (depth : Nat) :
    MeetsOnly kind (refused depth : Outcome α) :=
  failsOnly_error malformed

theorem meetsOnly_lift {outcome : Except Fault α} (depth : Nat)
    (fails : FailsOnly kind outcome) : MeetsOnly kind (lift depth outcome) := by
  cases outcome with
  | ok result => exact failsOnly_ok result
  | error fault => exact failsOnly_error (fails fault rfl)

theorem MeetsOnly.pair {first : Outcome α} {second : Outcome β} (firstFails : MeetsOnly kind first)
    (secondFails : MeetsOnly kind second) : MeetsOnly kind (first.pair second) := by
  cases first with
  | ok one =>
      cases second with
      | ok other => exact failsOnly_ok (one, other)
      | error setback => exact failsOnly_error (secondFails setback rfl)
  | error found =>
      cases second with
      | ok other => exact failsOnly_error (firstFails found rfl)
      | error setback =>
          refine failsOnly_error ?_
          split
          · exact secondFails setback rfl
          · exact firstFails found rfl

theorem MeetsOnly.combine {first : Outcome α} {second : Outcome β}
    (firstFails : MeetsOnly kind first) (secondFails : MeetsOnly kind second)
    (join : α → β → γ) : MeetsOnly kind (Outcome.combine join first second) :=
  (firstFails.pair secondFails).map _

end

/-! ## Values -/

section

variable {kind : Fault → Prop}

mutual

theorem meetsOnly_value (malformed : kind .yaml) (depth : Nat) (node : Node)
    (spoils : Spoils kind node) : MeetsOnly kind (value depth node) := by
  unfold value
  split
  · next isScalar =>
      split
      · exact meetsOnly_refused malformed depth
      · next content told =>
          exact meetsOnly_lift depth fun fault failed =>
            spoils node .self fault ⟨isScalar, content, told, failed⟩
  · split
    · next items _ => exact (meetsOnly_itemValues malformed _ items spoils.item).map _
    · next items _ => exact (meetsOnly_pairValues malformed _ items spoils.item).map _
    · next items _ => exact (meetsOnly_pairValues malformed _ items spoils.item).map _
    · next entries _ =>
        split
        · exact (meetsOnly_mappingEntries malformed _ entries spoils.entry).map _
        · exact meetsOnly_refused malformed _
    · next entries _ =>
        split
        · exact (meetsOnly_mappingEntries malformed _ entries spoils.entry).map _
        · exact meetsOnly_refused malformed _
    · exact meetsOnly_refused malformed _
termination_by (sizeOf node, 0)

theorem meetsOnly_itemValues (malformed : kind .yaml) (depth : Nat) : ∀ items : List Node,
    (∀ item ∈ items, Spoils kind item) → MeetsOnly kind (itemValues depth items)
  | [], _ => by
      unfold itemValues
      exact failsOnly_ok []
  | item :: rest, spoils => by
      rcases List.forall_mem_cons.mp spoils with ⟨here, later⟩
      unfold itemValues
      exact (meetsOnly_value malformed depth item here).combine
        (meetsOnly_itemValues malformed depth rest later) _
termination_by items => (sizeOf items, 0)

theorem meetsOnly_pairValues (malformed : kind .yaml) (depth : Nat) : ∀ items : List Node,
    (∀ item ∈ items, Spoils kind item) → MeetsOnly kind (pairValues depth items) := by
  intro items spoils
  unfold pairValues
  split
  · exact failsOnly_ok []
  · next key held rest =>
      rcases List.forall_mem_cons.mp spoils with ⟨here, later⟩
      rcases here.entry _ List.mem_cons_self with ⟨ofKey, ofHeld⟩
      have pair := (meetsOnly_value malformed depth key ofKey).combine
        (meetsOnly_value malformed depth held ofHeld) fun key held => Value.tuple [key, held]
      exact pair.combine (meetsOnly_pairValues malformed depth rest later) _
  · exact meetsOnly_refused malformed depth
termination_by items => (sizeOf items, 0)

theorem meetsOnly_mappingEntries (malformed : kind .yaml) (depth : Nat)
    (entries : List (Node × Node))
    (spoils : ∀ entry ∈ entries, Spoils kind entry.1 ∧ Spoils kind entry.2) :
    MeetsOnly kind (mappingEntries depth entries) := by
  unfold mappingEntries
  rcases meetsOnly_splitEntries malformed depth entries spoils with ⟨merged, own⟩
  exact merged.combine own _
termination_by (sizeOf entries, 1)

theorem meetsOnly_splitEntries (malformed : kind .yaml) (depth : Nat) :
    ∀ entries : List (Node × Node),
      (∀ entry ∈ entries, Spoils kind entry.1 ∧ Spoils kind entry.2) →
        MeetsOnly kind (splitEntries depth entries).1 ∧
          MeetsOnly kind (splitEntries depth entries).2
  | [], _ => by
      unfold splitEntries
      exact ⟨failsOnly_ok [], failsOnly_ok []⟩
  | (key, held) :: rest, spoils => by
      rcases List.forall_mem_cons.mp spoils with ⟨⟨ofKey, ofHeld⟩, later⟩
      rcases meetsOnly_splitEntries malformed depth rest later with ⟨merged, own⟩
      have entry := (meetsOnly_keyValue malformed depth key ofKey).pair
        (meetsOnly_value malformed depth held ofHeld)
      have ofMerge := meetsOnly_mergedEntries malformed depth held ofHeld
      unfold splitEntries
      dsimp only
      split
      · exact ⟨ofMerge.combine merged _, own⟩
      · exact ⟨merged, entry.combine own _⟩
termination_by entries => (sizeOf entries, 0)

theorem meetsOnly_keyValue (malformed : kind .yaml) (depth : Nat) (node : Node)
    (spoils : Spoils kind node) : MeetsOnly kind (keyValue depth node) := by
  unfold keyValue
  split
  · exact failsOnly_ok _
  · split
    · exact meetsOnly_refused malformed depth
    · exact meetsOnly_value malformed depth node spoils
termination_by (sizeOf node, 1)

theorem meetsOnly_mergedEntries (malformed : kind .yaml) (depth : Nat) : ∀ node : Node,
    Spoils kind node → MeetsOnly kind (mergedEntries depth node)
  | .mapping tag entries, spoils => by
      rcases meetsOnly_splitEntries malformed depth entries spoils.entry with ⟨merged, own⟩
      unfold mergedEntries
      exact merged.combine own _
  | .sequence tag items, spoils => by
      unfold mergedEntries
      exact meetsOnly_mergedSources malformed depth items spoils.item
  | .scalar _ _, _ | .wide _ _, _ | .around _, _ | .marked _ _, _ => by
      unfold mergedEntries
      exact meetsOnly_refused malformed depth
termination_by node => (sizeOf node, 0)

theorem meetsOnly_mergedSources (malformed : kind .yaml) (depth : Nat) : ∀ items : List Node,
    (∀ item ∈ items, Spoils kind item) → MeetsOnly kind (mergedSources depth items)
  | [], _ => by
      unfold mergedSources
      exact failsOnly_ok []
  | item :: rest, spoils => by
      rcases List.forall_mem_cons.mp spoils with ⟨here, later⟩
      unfold mergedSources
      exact (meetsOnly_mergedSources malformed depth rest later).combine
        (meetsOnly_mergedEntries malformed depth item here) _
termination_by items => (sizeOf items, 0)

end

end

end Content

end ThreatWatch.Yaml
