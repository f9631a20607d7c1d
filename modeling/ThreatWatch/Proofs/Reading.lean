import ThreatWatch.Proofs.Lookups
import ThreatWatch.Proofs.Matching
import ThreatWatch.Proofs.Outcome
import ThreatWatch.Rule.Document
import ThreatWatch.Value.Operand

/-! Rules as they are read. All mappings of a rule that was read from a document have
texts as keys, also those inside other values. Writing a value fails for nothing but an
integer of too many digits. -/

namespace ThreatWatch

/-! ## Values that cannot be written -/

namespace Value

def parts : Value → List Value
  | .list items | .tuple items | .set items => items
  | .map entries | .sealed entries => entries.flatMap fun entry => [entry.1, entry.2]
  | _ => []

/-- Somewhere in a value is an integer of too many digits. -/
inductive HoldsLong : Value → Prop where
  | int {number : Int} (long : Numeral.writeInt? number = none) : HoldsLong (.int number)
  | part {value part : Value} (member : part ∈ value.parts) (long : HoldsLong part) :
      HoldsLong value

section

variable {entries : List (Value × Value)} {value : Value}
  (parts : value.parts = entries.flatMap fun entry => [entry.1, entry.2])

include parts

theorem mem_parts_of_mem_entries {entry : Value × Value} (member : entry ∈ entries) :
    entry.1 ∈ value.parts ∧ entry.2 ∈ value.parts := by
  rw [parts]
  exact ⟨List.mem_flatMap.mpr ⟨entry, member, by simp⟩,
    List.mem_flatMap.mpr ⟨entry, member, by simp⟩⟩

theorem holdsLong_of_entries (long : ∃ entry ∈ entries, entry.1.HoldsLong ∨ entry.2.HoldsLong) :
    value.HoldsLong := by
  rcases long with ⟨entry, member, key | held⟩
  · exact .part (mem_parts_of_mem_entries parts member).1 key
  · exact .part (mem_parts_of_mem_entries parts member).2 held

end

theorem writtenInt_eq_error {number : Int} {fault : Fault}
    (failed : writtenInt number = .error fault) :
    HoldsLong (.int number) ∧ fault = .tooManyDigits := by
  unfold writtenInt at failed
  cases written : Numeral.writeInt? number with
  | some digits => rw [written] at failed; cases failed
  | none => rw [written] at failed; cases failed; exact ⟨.int written, rfl⟩

mutual

theorem quoted_eq_error : ∀ value : Value, ∀ fault,
    value.quoted = .error fault → value.HoldsLong ∧ fault = .tooManyDigits
  | .null | .bool _ | .float _ | .text _ | .bytes _ | .date _ | .moment _ | .set [] => by
      simp [quoted]
  | .int number => by
      intro fault failed
      rw [quoted] at failed
      exact writtenInt_eq_error failed
  | .list items => by
      intro fault failed
      rw [quoted] at failed
      rcases quotedItems_eq_error items fault (eq_error_of_bind_pure failed) with
        ⟨⟨item, member, long⟩, same⟩
      exact ⟨.part member long, same⟩
  | .tuple [] => by
      intro fault failed
      rw [quoted] at failed
      · cases failed
      · simp
  | .tuple [item] => by
      intro fault failed
      rw [quoted] at failed
      rcases quoted_eq_error item fault (eq_error_of_bind_pure failed) with ⟨long, same⟩
      exact ⟨.part (List.mem_singleton_self item) long, same⟩
  | .tuple (first :: second :: rest) => by
      intro fault failed
      rw [quoted] at failed
      · rcases quotedItems_eq_error (first :: second :: rest) fault
          (eq_error_of_bind_pure failed) with ⟨⟨item, member, long⟩, same⟩
        exact ⟨.part member long, same⟩
      · simp
  | .set (first :: rest) => by
      intro fault failed
      rw [quoted] at failed
      · rcases quotedItems_eq_error (first :: rest) fault (eq_error_of_bind_pure failed) with
          ⟨⟨item, member, long⟩, same⟩
        exact ⟨.part member long, same⟩
      · simp
  | .map entries | .sealed entries => by
      intro fault failed
      rw [quoted] at failed
      rcases quotedEntries_eq_error entries fault (eq_error_of_bind_pure failed) with ⟨long, same⟩
      exact ⟨holdsLong_of_entries rfl long, same⟩

theorem quotedItems_eq_error : ∀ items : List Value, ∀ fault,
    quotedItems items = .error fault →
      (∃ item ∈ items, item.HoldsLong) ∧ fault = .tooManyDigits
  | [] => by
      simp [quotedItems]
  | item :: rest => by
      intro fault failed
      rw [quotedItems] at failed
      rcases bind_eq_error_iff.mp failed with stopped | ⟨_, _, later⟩
      · rcases quoted_eq_error item fault stopped with ⟨long, same⟩
        exact ⟨⟨item, by simp, long⟩, same⟩
      · rcases quotedItems_eq_error rest fault (eq_error_of_bind_pure later) with
          ⟨⟨other, member, long⟩, same⟩
        exact ⟨⟨other, List.mem_cons_of_mem _ member, long⟩, same⟩

theorem quotedEntries_eq_error : ∀ entries : List (Value × Value), ∀ fault,
    quotedEntries entries = .error fault →
      (∃ entry ∈ entries, entry.1.HoldsLong ∨ entry.2.HoldsLong) ∧ fault = .tooManyDigits
  | [] => by
      simp [quotedEntries]
  | (key, value) :: rest => by
      intro fault failed
      rw [quotedEntries] at failed
      rcases bind_eq_error_iff.mp failed with stopped | ⟨_, _, later⟩
      · rcases quoted_eq_error key fault stopped with ⟨long, same⟩
        exact ⟨⟨(key, value), by simp, .inl long⟩, same⟩
      · rcases bind_eq_error_iff.mp later with stopped | ⟨_, _, last⟩
        · rcases quoted_eq_error value fault stopped with ⟨long, same⟩
          exact ⟨⟨(key, value), by simp, .inr long⟩, same⟩
        · rcases quotedEntries_eq_error rest fault (eq_error_of_bind_pure last) with
            ⟨⟨entry, member, long⟩, same⟩
          exact ⟨⟨entry, List.mem_cons_of_mem _ member, long⟩, same⟩

end

theorem shown_eq_error {value : Value} {fault : Fault} (failed : value.shown = .error fault) :
    value.HoldsLong ∧ fault = .tooManyDigits := by
  unfold shown at failed
  split at failed
  · cases failed
  · cases failed
  · cases failed
  · next entries =>
      rw [quoted] at failed
      rcases quotedEntries_eq_error entries fault (eq_error_of_bind_pure failed) with ⟨long, same⟩
      exact ⟨holdsLong_of_entries rfl long, same⟩
  · exact quoted_eq_error _ fault failed

/-! Whatever holds such an integer cannot be written. -/

theorem quotedItems_eq_ok {items : List Value} {texts : List String}
    (written : quotedItems items = .ok texts) : ∀ item ∈ items, ∃ text, item.quoted = .ok text := by
  induction items generalizing texts with
  | nil => simp
  | cons item rest induction =>
      rw [quotedItems] at written
      rcases bind_eq_ok_iff.mp written with ⟨text, here, later⟩
      rcases bind_eq_ok_iff.mp later with ⟨others, there, _⟩
      exact List.forall_mem_cons.mpr ⟨⟨text, here⟩, induction there⟩

theorem quotedEntries_eq_ok {entries : List (Value × Value)} {texts : List String}
    (written : quotedEntries entries = .ok texts) :
    ∀ part ∈ entries.flatMap fun entry => [entry.1, entry.2], ∃ text, part.quoted = .ok text := by
  induction entries generalizing texts with
  | nil => simp
  | cons entry rest induction =>
      rw [quotedEntries] at written
      rcases bind_eq_ok_iff.mp written with ⟨key, ofKey, afterKey⟩
      rcases bind_eq_ok_iff.mp afterKey with ⟨value, ofValue, afterValue⟩
      rcases bind_eq_ok_iff.mp afterValue with ⟨others, there, _⟩
      rw [List.flatMap_cons]
      exact List.forall_mem_cons.mpr
        ⟨⟨key, ofKey⟩, List.forall_mem_cons.mpr ⟨⟨value, ofValue⟩, induction there⟩⟩

theorem exists_quoted_of_mem_parts {value : Value} {text : String}
    (written : value.quoted = .ok text) : ∀ part ∈ value.parts, ∃ text, part.quoted = .ok text := by
  unfold quoted at written
  split at written
  case h_9 | h_11 | h_13 =>
    rcases bind_eq_ok_iff.mp written with ⟨texts, ofItems, _⟩
    exact quotedItems_eq_ok ofItems
  case h_10 =>
    rcases bind_eq_ok_iff.mp written with ⟨text, ofItem, _⟩
    exact List.forall_mem_singleton.mpr ⟨text, ofItem⟩
  case h_14 | h_15 =>
    rcases bind_eq_ok_iff.mp written with ⟨texts, ofEntries, _⟩
    exact quotedEntries_eq_ok ofEntries
  all_goals simp [parts]

theorem HoldsLong.quoted_ne_ok {value : Value} (long : value.HoldsLong) :
    ∀ text, value.quoted ≠ .ok text := by
  induction long with
  | @int number long =>
      intro text written
      rw [quoted] at written
      cases failed : writtenInt number with
      | error fault => rw [failed] at written; cases written
      | ok digits =>
          unfold writtenInt at failed
          rw [long] at failed
          cases failed
  | part member _ induction =>
      intro text written
      rcases exists_quoted_of_mem_parts written _ member with ⟨ofPart, partWritten⟩
      exact induction ofPart partWritten

theorem shown_eq_error_iff {value : Value} {fault : Fault} :
    value.shown = .error fault ↔ value.HoldsLong ∧ fault = .tooManyDigits := by
  refine ⟨shown_eq_error, ?_⟩
  rintro ⟨long, rfl⟩
  cases written : value.shown with
  | error fault => rw [(shown_eq_error written).2]
  | ok text =>
      unfold shown at written
      split at written
      case h_1 | h_2 | h_3 => cases long with | part member _ => cases member
      case h_4 entries =>
        cases long with
        | part member inner =>
            have whole : (Value.map entries).HoldsLong := .part member inner
            exact absurd written (whole.quoted_ne_ok text)
      case h_5 => exact absurd written (long.quoted_ne_ok text)

theorem HoldsLong.isPresent {value : Value} (long : value.HoldsLong) : value.isPresent = true := by
  cases long with
  | int long =>
      refine bne_iff_ne.mpr ?_
      rintro rfl
      have small (limit : Nat) : Int.natAbs 0 < Nat.pow 10 limit := Nat.pow_pos (by decide)
      rw [Numeral.writeInt?, if_pos (small _)] at long
      cases long
  | part member _ =>
      unfold parts at member
      split at member
      case h_6 => cases member
      all_goals
        rw [Value.isPresent, Bool.not_eq_true', List.isEmpty_eq_false_iff_exists_mem]
      case h_4 | h_5 =>
        rcases List.mem_flatMap.mp member with ⟨entry, entryMember, _⟩
        exact ⟨entry, entryMember⟩
      all_goals exact ⟨_, member⟩

theorem shownOrEmpty_eq_error_iff {value : Value} {fault : Fault} :
    value.shownOrEmpty = .error fault ↔ value.HoldsLong ∧ fault = .tooManyDigits := by
  unfold shownOrEmpty
  split
  · exact shown_eq_error_iff
  · next absent =>
      refine ⟨fun failed => (by cases failed), fun failed => ?_⟩
      exact absurd failed.1.isPresent absent

theorem operandText_eq_error {value : Value} {fault : Fault}
    (failed : value.operandText = .error fault) : fault = .tooManyDigits := by
  unfold operandText at failed
  split at failed
  · cases failed
  · cases failed
  · cases failed
  · split at failed
    · exact (writtenInt_eq_error failed).2
    · cases failed
  · exact (shown_eq_error failed).2

/-! ## Sealed values -/

theorem sealedItems_eq (items : List Value) : sealedItems items = items.mapM sealedForm := by
  induction items with
  | nil => rfl
  | cons item rest induction => rw [sealedItems, induction, List.mapM_cons]

def sealedEntry (entry : Value × Value) : Except Fault (String × Value) := do
  return (← entry.1.shown, ← entry.2.sealedForm)

theorem sealedTable_eq (table : Table Value) (entries : List (Value × Value)) :
    sealedTable table entries = do return table.putAll (← entries.mapM sealedEntry) := by
  induction entries generalizing table with
  | nil => rfl
  | cons first rest induction =>
      rw [sealedTable, List.mapM_cons]
      simp only [induction, sealedEntry, bind_assoc, pure_bind]
      rfl

/-- What sealing a value gives: a tuple of sealed values, a mapping whose keys are texts,
or the value itself if it has no parts. -/
theorem sealedForm_eq_ok {value result : Value} (sealedOne : sealedForm value = .ok result) :
    (∃ items, result = .tuple items ∧ ∀ item ∈ items, ∃ part, sealedForm part = .ok item) ∨
    (∃ table : Table Value, result = .sealed (table.map fun entry => (.text entry.1, entry.2))) ∨
    (Selection.entriesOf? result = none ∧ result.items? = none) := by
  cases value with
  | list items | tuple items =>
      rw [sealedForm] at sealedOne
      rcases bind_eq_ok_iff.mp sealedOne with ⟨results, sealedAll, equal⟩
      cases equal
      refine .inl ⟨results, rfl, fun item member => ?_⟩
      rcases exists_of_mem_of_mapM_eq_ok (sealedItems_eq items ▸ sealedAll) member with
        ⟨part, _, sealedPart⟩
      exact ⟨part, sealedPart⟩
  | map entries | sealed entries =>
      rw [sealedForm] at sealedOne
      rcases bind_eq_ok_iff.mp sealedOne with ⟨table, _, equal⟩
      cases equal
      exact .inr (.inl ⟨table, rfl⟩)
  | null | bool _ | int _ | float _ | text _ | bytes _ | date _ | moment _ | set _ =>
      rw [sealedForm] at sealedOne
      · cases sealedOne
        exact .inr (.inr ⟨rfl, rfl⟩)
      all_goals simp

theorem text_of_mem_sealed {value result : Value} {entries : List (Value × Value)}
    (sealedOne : sealedForm value = .ok result)
    (mapping : Selection.entriesOf? result = some entries) :
    ∀ entry ∈ entries, ∃ key, entry.1 = .text key := by
  rcases sealedForm_eq_ok sealedOne with ⟨items, rfl, _⟩ | ⟨table, rfl⟩ | ⟨noMapping, _⟩
  · cases mapping
  · cases mapping
    exact List.forall_mem_map.mpr fun entry _ => ⟨entry.1, rfl⟩
  · rw [noMapping] at mapping
    cases mapping

theorem text_of_mem_mappings {value result : Value} (sealedOne : sealedForm value = .ok result) :
    ∀ entries ∈ Selection.mappings result, ∀ entry ∈ entries, ∃ key, entry.1 = .text key := by
  intro entries member
  unfold Selection.mappings at member
  split at member
  · next mapping =>
      rw [List.mem_singleton.mp member]
      exact text_of_mem_sealed sealedOne mapping
  · rcases List.mem_filterMap.mp member with ⟨item, itemMember, mapping⟩
    rcases sealedForm_eq_ok sealedOne with ⟨items, rfl, parts⟩ | ⟨table, rfl⟩ | ⟨_, noItems⟩
    · rcases parts item itemMember with ⟨part, sealedPart⟩
      exact text_of_mem_sealed sealedPart mapping
    · cases itemMember
    · rw [noItems] at itemMember
      cases itemMember

end Value

/-! ## Documents -/

namespace Document

theorem sealedEntry_eq_ok {parts : List Part} {fuel : Nat}
    (trees : ∀ {place result}, sealedPart parts fuel place = .ok result →
      ∃ value, treePart parts fuel place = some value ∧ value.sealedForm = .ok result)
    {entry : Leaf × Nat} {named : String × Value}
    (sealedOne : (do return (← entry.1.toValue.shown, ← sealedPart parts fuel entry.2) :
      Except Fault (String × Value)) = .ok named) :
    ∃ held, ((treePart parts fuel entry.2).map fun value => (entry.1.toValue, value)) = some held ∧
      Value.sealedEntry held = .ok named := by
  rcases bind_eq_ok_iff.mp sealedOne with ⟨name, shown, later⟩
  rcases bind_eq_ok_iff.mp later with ⟨form, sealedHeld, same⟩
  rcases trees sealedHeld with ⟨value, tree, ofTree⟩
  refine ⟨(entry.1.toValue, value), by rw [tree]; rfl, ?_⟩
  rw [Value.sealedEntry, shown, ofTree]
  exact same

theorem sealedPart_eq_ok {parts : List Part} {fuel place : Nat} {result : Value}
    (sealedOne : sealedPart parts fuel place = .ok result) :
    ∃ value, treePart parts fuel place = some value ∧ value.sealedForm = .ok result := by
  induction fuel generalizing place result with
  | zero => cases sealedOne
  | succ fuel induction =>
      rw [sealedPart] at sealedOne
      rw [treePart]
      cases found : parts[place]? with
      | none =>
          rw [found] at sealedOne
          exact ⟨.null, rfl, sealedOne⟩
      | some part =>
          rw [found] at sealedOne
          cases part with
          | leaf leaf => exact ⟨leaf.toValue, rfl, sealedOne⟩
          | set items => exact ⟨.set (items.map Leaf.toValue), rfl, sealedOne⟩
          | list items | tuple items =>
              rcases bind_eq_ok_iff.mp sealedOne with ⟨results, sealedAll, equal⟩
              rcases exists_mapM_through (fun _ _ => induction) sealedAll with
                ⟨values, trees, forms⟩
              refine ⟨_, congrArg (Option.map _) trees, ?_⟩
              rw [Value.sealedForm, Value.sealedItems_eq, forms]
              exact equal
          | map entries =>
              rcases bind_eq_ok_iff.mp sealedOne with ⟨named, sealedAll, equal⟩
              rcases exists_mapM_through (fun _ _ => sealedEntry_eq_ok induction) sealedAll with
                ⟨values, trees, forms⟩
              refine ⟨.map values, by simp [trees], ?_⟩
              rw [Value.sealedForm, Value.sealedTable_eq, forms]
              exact equal

theorem sealedForm_eq_ok {document : Document} {result : Value}
    (sealedOne : document.sealedForm = .ok result) :
    ∃ value, document.tree? = some value ∧ value.sealedForm = .ok result := by
  cases document with
  | plain value => exact ⟨value, rfl, sealedOne⟩
  | linked parts place => exact sealedPart_eq_ok sealedOne

theorem keys_of_sealAll {table : Table Document} {result : Table Value}
    (sealedAll : sealAll table = .ok result) : result.keys = table.keys := by
  refine map_eq_of_mapM_eq_ok Prod.fst Prod.fst sealedAll fun entry named sealedOne => ?_
  rcases bind_eq_ok_iff.mp sealedOne with ⟨_, _, equal⟩
  cases equal
  rfl

theorem exists_of_mem_of_sealAll {table : Table Document} {result : Table Value}
    (sealedAll : sealAll table = .ok result) {name : String} {value : Value}
    (member : (name, value) ∈ result) :
    ∃ document, (name, document) ∈ table ∧ document.sealedForm = .ok value := by
  rcases exists_of_mem_of_mapM_eq_ok sealedAll member with ⟨entry, entryMember, sealedOne⟩
  rcases bind_eq_ok_iff.mp sealedOne with ⟨_, ofEntry, equal⟩
  cases equal
  exact ⟨entry.2, entryMember, ofEntry⟩

end Document

namespace Rule

def IsRead (rule : Rule) : Prop :=
  ∃ document file, ofDocument document file = .ok rule

theorem ofDocument_eq_ok {document : Document} {file : Option String} {rule : Rule}
    (read : ofDocument document file = .ok rule) :
    document.isMapping = true ∧
      checkDetection (placeOf file) (document.field "detection") = .ok () ∧
      ∃ named, (document.field "detection").namedEntries = .ok named ∧
        Document.sealAll named = .ok rule.detection := by
  unfold ofDocument at read
  dsimp only at read
  split at read
  · next isMapping =>
    rcases bind_eq_ok_iff.mp read with ⟨title, _, read⟩
    split at read
    · cases read
    · rcases bind_eq_ok_iff.mp read with ⟨_, checked, read⟩
      rcases bind_eq_ok_iff.mp read with ⟨level, _, read⟩
      rcases bind_eq_ok_iff.mp read with ⟨id, _, read⟩
      rcases bind_eq_ok_iff.mp read with ⟨status, _, read⟩
      rcases bind_eq_ok_iff.mp read with ⟨named, namedEntries, read⟩
      rcases bind_eq_ok_iff.mp read with ⟨description, _, read⟩
      rcases bind_eq_ok_iff.mp read with ⟨author, _, read⟩
      rcases bind_eq_ok_iff.mp read with ⟨date, _, read⟩
      rcases bind_eq_ok_iff.mp read with ⟨tags, _, read⟩
      rcases bind_eq_ok_iff.mp read with ⟨falsePositives, _, read⟩
      rcases bind_eq_ok_iff.mp read with ⟨references, _, read⟩
      rcases bind_eq_ok_iff.mp read with ⟨table, sealedAll, equal⟩
      cases equal
      exact ⟨isMapping, checked, named, namedEntries, sealedAll⟩
  · cases read

theorem IsRead.text_of_mem {rule : Rule} (read : rule.IsRead) {name : String} {definition : Value}
    (defined : (name, definition) ∈ rule.definitions) :
    ∀ entries ∈ Selection.mappings definition, ∀ entry ∈ entries, ∃ key, entry.1 = .text key := by
  rcases read with ⟨document, file, read⟩
  rcases ofDocument_eq_ok read with ⟨_, _, named, _, sealedAll⟩
  have member : (name, definition) ∈ rule.detection := List.mem_of_mem_filter defined
  rcases Document.exists_of_mem_of_sealAll sealedAll member with ⟨held, _, sealedHeld⟩
  rcases Document.sealedForm_eq_ok sealedHeld with ⟨value, _, sealedOne⟩
  exact Value.text_of_mem_mappings sealedOne

theorem IsRead.nodup_keys {rule : Rule} (read : rule.IsRead) : rule.detection.keys.Nodup := by
  rcases read with ⟨document, file, read⟩
  rcases ofDocument_eq_ok read with ⟨_, _, named, namedEntries, sealedAll⟩
  rcases bind_eq_ok_iff.mp namedEntries with ⟨written, _, equal⟩
  cases equal
  rw [Document.keys_of_sealAll sealedAll]
  exact Table.nodup_keys_putAll Table.nodup_keys_nil written

end Rule

end ThreatWatch
