import ThreatWatch.Proofs.Contents
import ThreatWatch.Yaml.Linking

/-! What can go wrong when the nodes of a document are linked. All collections that are begun or
wait to be filled hold only scalars of the root, also those into which others have been merged. So
a fault that is none of form is that of a scalar that stands in the document. -/

namespace ThreatWatch.Yaml

namespace Linking

/-- A node with a tag for scalars whose code points cannot be read as the tag calls for. -/
structure IsUnreadable (node : Node) (fault : Fault) : Prop where
  scalar : Content.isScalarTag node.tag = true
  failed : ∃ points, scalarPoints [] node = .ok points ∧ scalarLeaf node.tag points = .error fault

def Spoils (kind : Fault → Prop) (node : Node) : Prop :=
  node.Holds fun part => ∀ fault, IsUnreadable part fault → kind fault

/-! ## Collections that have been begun -/

def BegunSpoil (kind : Fault → Prop) (begun : List (Nat × Nat × Node)) : Prop :=
  ∀ entry ∈ begun, Spoils kind entry.2.2

structure Links.AreSound (kind : Fault → Prop) (links : Links) : Prop where
  begun : BegunSpoil kind links.begun
  waiting : ∀ entry ∈ links.waiting, Spoils kind entry.2

def EntriesSpoil (kind : Fault → Prop) (entries : List (Node × Node)) : Prop :=
  ∀ entry ∈ entries, Spoils kind entry.1 ∧ Spoils kind entry.2

section

variable {kind : Fault → Prop}

theorem EntriesSpoil.append {before after : List (Node × Node)} (first : EntriesSpoil kind before)
    (second : EntriesSpoil kind after) : EntriesSpoil kind (before ++ after) := by
  intro entry member
  rcases List.mem_append.mp member with here | there
  · exact first entry here
  · exact second entry there

/-- A collection is no scalar itself, so that only what it holds counts. -/
theorem EntriesSpoil.mapping {tag : Tag} {entries : List (Node × Node)}
    (spoil : EntriesSpoil kind entries) (noScalar : Content.isScalarTag tag = false) :
    Spoils kind (.mapping tag entries) := by
  intro part inside
  cases inside with
  | self =>
      intro fault unreadable
      exact absurd unreadable.scalar (Bool.eq_false_iff.mp noScalar)
  | key member inside => exact (spoil _ member).1 part inside
  | held member inside => exact (spoil _ member).2 part inside

variable {begun : List (Nat × Nat × Node)}

theorem mergedSources?_cons_eq_some {item : Node} {rest : List Node}
    {entries : List (Node × Node)} (found : mergedSources? begun (item :: rest) = some entries) :
    ∃ others own, mergedSources? begun rest = some others ∧
      mergedEntries? begun item = some own ∧ entries = others ++ own := by
  unfold mergedSources? at found
  split at found
  · next same => cases same
  · cases found
  · cases found
  · next same =>
      cases same
      rcases Option.bind_eq_some_iff.mp found with ⟨others, ofRest, chosen⟩
      rcases Option.bind_eq_some_iff.mp chosen with ⟨own, ofItem, joined⟩
      cases joined
      exact ⟨others, own, ofRest, ofItem, rfl⟩

theorem spoils_of_lookup (areBegun : BegunSpoil kind begun) {mark place : Nat} {node : Node}
    (found : begun.lookup mark = some (place, node)) : Spoils kind node := by
  rcases List.lookup_eq_some_iff.mp found with ⟨before, after, split, _⟩
  exact areBegun (mark, place, node) (split ▸ List.mem_append_cons_self)

theorem spoils_exposed (areBegun : BegunSpoil kind begun) {node : Node}
    (spoils : Spoils kind node) : Spoils kind (exposed begun node) := by
  cases node with
  | around mark =>
      rw [exposed]
      cases found : begun.lookup mark with
      | none => exact spoils
      | some entry => exact spoils_of_lookup areBegun found
  | marked mark node => exact spoils.inner
  | _ => exact spoils

theorem entriesSpoil_of_begun (areBegun : BegunSpoil kind begun) {mark : Nat}
    {entries : List (Node × Node)} (found : begunEntries? begun mark = some entries) :
    EntriesSpoil kind entries := by
  unfold begunEntries? at found
  split at found
  · next place tag all told =>
      cases found
      intro entry member
      exact (spoils_of_lookup areBegun told).entry entry (List.mem_of_mem_filter member)
  · cases found

mutual

theorem entriesSpoil_all (areBegun : BegunSpoil kind begun) :
    ∀ entries merged own : List (Node × Node),
    EntriesSpoil kind entries → allEntries? begun entries = some (merged, own) →
      EntriesSpoil kind merged ∧ EntriesSpoil kind own
  | [], merged, own, spoil, found => by
      rw [allEntries?] at found
      cases found
      exact ⟨spoil, spoil⟩
  | (key, held) :: rest, merged, own, spoil, found => by
      rcases List.forall_mem_cons.mp spoil with ⟨here, later⟩
      rw [allEntries?] at found
      rcases Option.bind_eq_some_iff.mp found with ⟨⟨others, owned⟩, ofRest, chosen⟩
      rcases entriesSpoil_all areBegun rest others owned later ofRest with ⟨ofOthers, ofOwned⟩
      dsimp only at chosen
      split at chosen
      · rcases Option.bind_eq_some_iff.mp chosen with ⟨source, ofSource, same⟩
        cases same
        exact ⟨(entriesSpoil_merged areBegun held source here.2 ofSource).append ofOthers, ofOwned⟩
      · cases chosen
        exact ⟨ofOthers, List.forall_mem_cons.mpr ⟨here, ofOwned⟩⟩

theorem entriesSpoil_merged (areBegun : BegunSpoil kind begun) :
    ∀ (node : Node) (entries : List (Node × Node)),
    Spoils kind node → mergedEntries? begun node = some entries → EntriesSpoil kind entries
  | .mapping _ held, entries, spoils, found => by
      rw [mergedEntries?] at found
      rcases Option.bind_eq_some_iff.mp found with ⟨⟨merged, own⟩, ofHeld, same⟩
      cases same
      rcases entriesSpoil_all areBegun held merged own spoils.entry ofHeld with ⟨ofMerged, ofOwn⟩
      exact ofMerged.append ofOwn
  | .sequence _ items, entries, spoils, found => by
      rw [mergedEntries?] at found
      exact entriesSpoil_sources areBegun items entries spoils.item found
  | .marked _ node, entries, spoils, found => by
      rw [mergedEntries?] at found
      exact entriesSpoil_merged areBegun node entries spoils.inner found
  | .around mark, entries, _, found => by
      rw [mergedEntries?] at found
      exact entriesSpoil_of_begun areBegun found
  | .scalar _ _, _, _, found | .wide _ _, _, _, found => by
      rw [mergedEntries?] at found
      cases found

theorem entriesSpoil_sources (areBegun : BegunSpoil kind begun) :
    ∀ (items : List Node) (entries : List (Node × Node)),
    (∀ item ∈ items, Spoils kind item) → mergedSources? begun items = some entries →
      EntriesSpoil kind entries
  | [], _, _, found => by
      rw [mergedSources?] at found
      cases found
      exact fun entry member => absurd member List.not_mem_nil
  | item :: rest, entries, spoil, found => by
      rcases List.forall_mem_cons.mp spoil with ⟨here, later⟩
      rcases mergedSources?_cons_eq_some found with ⟨others, own, ofRest, ofItem, rfl⟩
      exact (entriesSpoil_sources areBegun rest others later ofRest).append
        (entriesSpoil_merged areBegun item own here ofItem)

end

end

/-! ## Linkers -/

/-- From sound links the linker fails with a fault of one kind, or it gives what it should and
leaves sound links. -/
def Keeps {α : Type} (kind : Fault → Prop) (gives : α → Prop) (linker : Linker α) : Prop :=
  ∀ links : Links, links.AreSound kind →
    FailsOnly kind (linker.run links) ∧
      ∀ result after, linker.run links = .ok (result, after) →
        gives result ∧ after.AreSound kind

section

variable {α β : Type} {kind : Fault → Prop}

theorem keeps_pure {gives : α → Prop} {result : α} (given : gives result) :
    Keeps kind gives (pure result : Linker α) := by
  intro links sound
  refine ⟨failsOnly_ok (result, links), fun found after ended => ?_⟩
  cases ended
  exact ⟨given, sound⟩

theorem keeps_throw {gives : α → Prop} {fault : Fault} (isKind : kind fault) :
    Keeps kind gives (throw fault : Linker α) := by
  intro links _
  refine ⟨failsOnly_error isKind, fun result after ended => ?_⟩
  cases ended

theorem keeps_get : Keeps kind (Links.AreSound kind) (get : Linker Links) := by
  intro links sound
  refine ⟨failsOnly_ok (links, links), fun found after ended => ?_⟩
  cases ended
  exact ⟨sound, sound⟩

theorem keeps_set {links : Links} (sound : links.AreSound kind) :
    Keeps kind (fun _ => True) (set links : Linker Unit) := by
  intro before _
  refine ⟨failsOnly_ok ((), links), fun found after ended => ?_⟩
  cases ended
  exact ⟨trivial, sound⟩

theorem keeps_modify {change : Links → Links}
    (keeps : ∀ links : Links, links.AreSound kind → (change links).AreSound kind) :
    Keeps kind (fun _ => True) (modify change : Linker Unit) := by
  intro links sound
  refine ⟨failsOnly_ok ((), change links), fun found after ended => ?_⟩
  cases ended
  exact ⟨trivial, keeps links sound⟩

theorem keeps_lift {outcome : Except Fault α} (fails : FailsOnly kind outcome) :
    Keeps kind (fun result => outcome = .ok result) (liftM outcome : Linker α) := by
  intro links sound
  cases outcome with
  | ok result =>
      refine ⟨failsOnly_ok (result, links), fun found after ended => ?_⟩
      cases ended
      exact ⟨rfl, sound⟩
  | error fault =>
      refine ⟨failsOnly_error (fails fault rfl), fun result after ended => ?_⟩
      cases ended

theorem Keeps.bind {first : α → Prop} {second : β → Prop} {linker : Linker α}
    {next : α → Linker β} (keeps : Keeps kind first linker)
    (later : ∀ result, first result → Keeps kind second (next result)) :
    Keeps kind second (linker >>= next) := by
  intro links sound
  rcases keeps links sound with ⟨fails, gives⟩
  constructor
  · rw [StateT.run_bind]
    refine fails.bind fun ⟨result, middle⟩ told => ?_
    rcases gives result middle told with ⟨given, stillSound⟩
    exact (later result given middle stillSound).1
  · intro result after ended
    rw [StateT.run_bind] at ended
    rcases bind_eq_ok_iff.mp ended with ⟨⟨found, middle⟩, told, finished⟩
    rcases gives found middle told with ⟨given, stillSound⟩
    exact (later found given middle stillSound).2 result after finished

theorem keeps_mapM {step : α → Linker β} {items : List α}
    (keeps : ∀ item ∈ items, Keeps kind (fun _ => True) (step item)) :
    Keeps kind (fun _ => True) (items.mapM step) := by
  induction items with
  | nil => exact keeps_pure trivial
  | cons item rest induction =>
      rcases List.forall_mem_cons.mp keeps with ⟨here, later⟩
      rw [List.mapM_cons]
      exact here.bind fun _ _ => (induction later).bind fun _ _ => keeps_pure trivial

theorem Keeps.imp {gives weaker : α → Prop} {linker : Linker α} (keeps : Keeps kind gives linker)
    (implies : ∀ result, gives result → weaker result) : Keeps kind weaker linker :=
  fun links sound => ⟨(keeps links sound).1, fun result after ended =>
    ((keeps links sound).2 result after ended).imp_left (implies result)⟩

theorem keeps_addPart (part : Part) : Keeps kind (fun _ => True) (addPart part) := by
  refine keeps_get.bind fun links sound => ?_
  refine Keeps.bind (keeps_set ?_) fun _ _ => keeps_pure trivial
  exact ⟨sound.begun, sound.waiting⟩

end

/-! ## Scalars -/

/-- The two faults of the form: of a node that has no place where it stands, and of one that would
have to be complete inside itself. -/
structure IsForm (kind : Fault → Prop) : Prop where
  malformed : kind .yaml
  loop : kind .selfReference

section

variable {kind : Fault → Prop} (isForm : IsForm kind)

include isForm

mutual

theorem scalarPoints_eq_error (passed : List Nat) : ∀ (node : Node) (fault : Fault),
    scalarPoints passed node = .error fault → kind fault
  | .scalar _ _, _, failed | .wide _ _, _, failed => by
      cases failed
  | .mapping _ entries, fault, failed => by
      rw [scalarPoints] at failed
      exact standingPoints_eq_error passed entries fault failed
  | .marked mark node, fault, failed => by
      rw [scalarPoints] at failed
      exact scalarPoints_eq_error (mark :: passed) node fault failed
  | .around mark, fault, failed => by
      rw [scalarPoints] at failed
      cases failed
      split
      · exact isForm.loop
      · exact isForm.malformed
  | .sequence _ _, _, failed => by
      cases failed
      exact isForm.malformed

theorem standingPoints_eq_error (passed : List Nat) :
    ∀ (entries : List (Node × Node)) (fault : Fault),
      standingPoints passed entries = .error fault → kind fault
  | [], _, failed => by
      cases failed
      exact isForm.malformed
  | (key, value) :: rest, fault, failed => by
      rw [standingPoints] at failed
      split at failed
      · exact scalarPoints_eq_error passed value fault failed
      · exact standingPoints_eq_error passed rest fault failed

end

theorem keeps_scalar {α : Type} {gives : α → Prop} {node : Node} (spoils : Spoils kind node)
    (isScalar : Content.isScalarTag node.tag = true) {next : Leaf → Linker α}
    (later : ∀ leaf, Keeps kind gives (next leaf)) :
    Keeps kind gives (do next (← scalarLeaf node.tag (← scalarPoints [] node))) :=
  (keeps_lift (scalarPoints_eq_error isForm [] node)).bind fun points told =>
    (keeps_lift fun fault failed => spoils node .self fault ⟨isScalar, points, told, failed⟩).bind
      fun leaf _ => later leaf

/-! ## Parts -/

theorem keeps_begin {node : Node} (spoils : Spoils kind node) :
    Keeps kind (fun _ => True) (begin? node) := by
  unfold begin?
  split
  · next isScalar => exact keeps_scalar isForm spoils isScalar fun leaf => keeps_addPart _
  · split
    · refine (keeps_addPart _).bind fun place _ => ?_
      refine Keeps.bind (keeps_modify ?_) fun _ _ => keeps_pure trivial
      refine fun links sound => ⟨sound.begun, fun entry member => ?_⟩
      rcases List.mem_append.mp member with earlier | new
      · exact sound.waiting entry earlier
      · cases List.mem_singleton.mp new
        exact spoils
    · exact keeps_throw isForm.malformed

theorem keeps_placeOf {node : Node} (spoils : Spoils kind node) :
    Keeps kind (fun _ => True) (placeOf node) := by
  unfold placeOf
  split
  · refine keeps_get.bind fun links _ => ?_
    split
    · exact keeps_pure trivial
    · exact keeps_throw isForm.loop
  · next mark node =>
      refine keeps_get.bind fun links _ => ?_
      split
      · exact keeps_pure trivial
      · refine (keeps_begin isForm spoils).bind fun place _ => ?_
        refine Keeps.bind (keeps_modify ?_) fun _ _ => keeps_pure trivial
        exact fun links sound =>
          ⟨List.forall_mem_cons.mpr ⟨spoils.inner, sound.begun⟩, sound.waiting⟩
  · exact keeps_begin isForm spoils

omit isForm in
theorem tag_exposed {begun : List (Nat × Nat × Node)} {key : Node} {points : List Text.Point}
    (told : scalarPoints [] key = .ok points) : (exposed begun key).tag = key.tag := by
  cases key with
  | around mark => cases told
  | _ => rfl

theorem keeps_keyLeaf {key : Node} (spoils : Spoils kind key) :
    Keeps kind (fun _ => True) (keyLeaf key) := by
  unfold keyLeaf
  refine keeps_get.bind fun links _ => ?_
  split
  · exact keeps_pure trivial
  · split
    · next isScalar =>
        refine (keeps_lift (scalarPoints_eq_error isForm [] key)).bind fun points told => ?_
        rw [tag_exposed told] at isScalar ⊢
        refine (keeps_lift fun fault failed => ?_).imp fun _ _ => trivial
        exact spoils key .self fault ⟨isScalar, points, told, failed⟩
    · exact keeps_throw isForm.malformed

theorem keeps_placeOfPair {item : Node} (spoils : Spoils kind item) :
    Keeps kind (fun _ => True) (placeOfPair item) := by
  unfold placeOfPair
  refine keeps_get.bind fun links sound => ?_
  have ofExposed := spoils_exposed sound.begun spoils
  split
  · next key held same =>
      rw [same] at ofExposed
      rcases ofExposed.entry _ List.mem_cons_self with ⟨ofKey, ofHeld⟩
      exact (keeps_placeOf isForm ofKey).bind fun _ _ =>
        (keeps_placeOf isForm ofHeld).bind fun _ _ => keeps_addPart _
  · exact keeps_throw isForm.malformed

theorem keeps_fillEntries (node : Node) {tag : Tag} {entries : List (Node × Node)}
    (noScalar : Content.isScalarTag tag = false) (spoil : EntriesSpoil kind entries) :
    Keeps kind (fun _ => True) (fillEntries node tag entries) := by
  unfold fillEntries
  refine keeps_get.bind fun links sound => ?_
  split
  · exact keeps_throw isForm.malformed
  · next merged own found =>
      rcases entriesSpoil_all sound.begun entries merged own spoil found with ⟨ofMerged, ofOwn⟩
      have together := ofMerged.append ofOwn
      have filled : Keeps kind (fun _ => True) (do
          let filled ← (merged ++ own).mapM fun (entry : Node × Node) => do
            return (← keyLeaf entry.1, ← placeOf entry.2)
          return filled.foldl (fun entries entry => putEntry entry.1 entry.2 entries) []) := by
        refine (keeps_mapM fun entry member => ?_).bind fun _ _ =>
          keeps_pure trivial
        exact (keeps_keyLeaf isForm (together entry member).1).bind fun _ _ =>
          (keeps_placeOf isForm (together entry member).2).bind fun _ _ => keeps_pure trivial
      dsimp only
      split
      · refine Keeps.bind (keeps_modify ?_) fun _ _ => filled
        refine fun links sound => ⟨fun entry member => ?_, sound.waiting⟩
        rcases List.mem_map.mp member with ⟨original, originalMember, rfl⟩
        split
        · exact together.mapping noScalar
        · exact sound.begun original originalMember
      · exact filled

theorem keeps_fill (place : Nat) {node : Node} (spoils : Spoils kind node) :
    Keeps kind (fun _ => True) (fill place node) := by
  have keepsSet (part : Part) : Keeps kind (fun _ => True) (setPart place part) :=
    keeps_modify fun links sound => ⟨sound.begun, sound.waiting⟩
  have ofExposed := spoils_exposed (fun _ member => absurd member List.not_mem_nil) spoils
  unfold fill
  split
  · next items same =>
      rw [same] at ofExposed
      exact (keeps_mapM fun item member => keeps_placeOf isForm (ofExposed.item item member)).bind
        fun _ _ => keepsSet _
  · next items same =>
      rw [same] at ofExposed
      exact (keeps_mapM fun item member =>
        keeps_placeOfPair isForm (ofExposed.item item member)).bind fun _ _ => keepsSet _
  · next items same =>
      rw [same] at ofExposed
      exact (keeps_mapM fun item member =>
        keeps_placeOfPair isForm (ofExposed.item item member)).bind fun _ _ => keepsSet _
  · next entries same =>
      rw [same] at ofExposed
      exact (keeps_fillEntries isForm node rfl ofExposed.entry).bind fun _ _ => keepsSet _
  · next entries same =>
      rw [same] at ofExposed
      exact (keeps_fillEntries isForm node rfl ofExposed.entry).bind fun _ _ => keepsSet _
  · exact keeps_throw isForm.malformed

theorem keeps_fillAll (fuel : Nat) : Keeps kind (fun _ => True) (fillAll fuel) := by
  induction fuel with
  | zero => exact keeps_throw isForm.loop
  | succ fuel induction =>
      unfold fillAll
      refine keeps_get.bind fun links sound => ?_
      split
      · exact keeps_pure trivial
      · next place node rest same =>
          have waiting := sound.waiting
          rw [same] at waiting
          rcases List.forall_mem_cons.mp waiting with ⟨here, later⟩
          refine Keeps.bind (keeps_modify ?_) fun _ _ =>
            (keeps_fill isForm place here).bind fun _ _ => induction
          exact fun links sound => ⟨sound.begun, later⟩

theorem document_eq_error {fuel : Nat} {root : Node} (spoils : Spoils kind root) {fault : Fault}
    (failed : document fuel root = .error fault) : kind fault := by
  have keeps : Keeps kind (fun _ => True) (do
      let place ← placeOf root
      fillAll fuel
      return place) :=
    (keeps_placeOf isForm spoils).bind fun _ _ => (keeps_fillAll isForm fuel).bind fun _ _ =>
      keeps_pure trivial
  have empty : Links.AreSound kind {} := by
    constructor <;> exact fun _ member => absurd member List.not_mem_nil
  rcases bind_eq_error_iff.mp failed with stopped | ⟨_, _, later⟩
  · exact (keeps {} empty).1 fault stopped
  · cases later

end

end Linking

/-! ## Documents -/

/-- What can keep a document from being read other than its form: a fault that one of its
tokens holds, a scalar of its nodes that cannot be what its tag calls for, and where the nodes are
no tree one that would have to be complete inside itself. -/
inductive Troubles (text : String) : Fault → Prop where
  | token {fault : Fault} (held : .broken fault ∈ tokens text) : Troubles text fault
  | scalar {root part : Node} {fault : Fault} (read : Node.ofText? text = .ok (some root))
      (inside : part.IsPart root) (unreadable : Content.IsUnreadable part fault) :
      Troubles text fault
  | linkedScalar {root part : Node} {fault : Fault} (read : Node.ofText? text = .ok (some root))
      (inside : part.IsPart root) (unreadable : Linking.IsUnreadable part fault) :
      Troubles text fault
  | loop {root : Node} (read : Node.ofText? text = .ok (some root))
      (noTree : root.isTree = false) : Troubles text .selfReference

theorem load_eq_error {text : String} {fault : Fault} (failed : load text = .error fault) :
    fault = .yaml ∨ Troubles text fault := by
  unfold load at failed
  rcases bind_eq_error_iff.mp failed with stopped | ⟨found, nodes, later⟩
  · cases Node.ofText?_eq_error stopped with
    | malformed => exact .inl rfl
    | broken held => exact .inr (.token held)
  · cases found with
    | none => cases later
    | some root =>
        dsimp only at later
        split at later
        · have fails : Content.MeetsOnly (fun fault => fault = .yaml ∨ Troubles text fault)
              (Content.value 0 root) :=
            Content.meetsOnly_value (.inl rfl) 0 root fun part inside fault unreadable =>
              .inr (.scalar nodes inside unreadable)
          split at later
          · cases later
          · next setback told =>
              cases later
              exact fails setback told
        · next noTree =>
            have isForm : Linking.IsForm fun fault => fault = .yaml ∨ Troubles text fault :=
              ⟨.inl rfl, .inr (.loop nodes (Bool.eq_false_iff.mpr noTree))⟩
            have spoils : Linking.Spoils (fun fault => fault = .yaml ∨ Troubles text fault) root :=
              fun part inside fault unreadable => .inr (.linkedScalar nodes inside unreadable)
            exact Linking.document_eq_error isForm spoils later

end ThreatWatch.Yaml
