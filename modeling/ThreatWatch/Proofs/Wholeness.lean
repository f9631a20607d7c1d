import Mathlib.Data.List.Forall2
import ThreatWatch.Proofs.Comparing
import ThreatWatch.Proofs.Documents
import ThreatWatch.Proofs.Leaves
import ThreatWatch.Proofs.Loading

/-! What a bound rule keeps of its document. The keys of a document can be values of any kind, and
those of a rule are their texts. Of two keys with one text only the later one leads to something in
the rule, in the place of the first one. What the keys of a mapping lead to is therefore kept as a
whole where their texts are different, and not otherwise. -/

namespace ThreatWatch

theorem length_eraseDups_eq_iff {α : Type u} [BEq α] [LawfulBEq α] {items : List α} :
    items.eraseDups.length = items.length ↔ items.Nodup := by
  constructor
  · intro same
    have part := List.subperm_of_subset (nodup_eraseDups items) fun _ => List.mem_eraseDups.mp
    exact (part.perm_of_length_le same.ge).nodup_iff.mp (nodup_eraseDups items)
  · intro nodup
    rw [eraseDups_eq_self nodup]

/-! ## Mappings with texts for keys -/

namespace Value

section

variable {α β : Type}

def keyTexts (entries : List (Value × α)) : Except Fault (List String) :=
  entries.mapM fun entry => entry.1.shown

def HasDistinctTexts (entries : List (Value × α)) : Prop :=
  ∃ names, keyTexts entries = .ok names ∧ names.Nodup

/-- What stands last under a name: the name is the text of its key and of no later one. -/
def StandsLast (entries : List (Value × α)) (name : String) (held : α) : Prop :=
  ∃ before key after, entries = before ++ (key, held) :: after ∧ key.shown = .ok name ∧
    ∀ entry ∈ after, entry.1.shown ≠ .ok name

def Names (becomes : α → β → Prop) (entries : List (Value × α)) (named : Table β) : Prop :=
  List.Forall₂ (fun entry pair => entry.1.shown = .ok pair.1 ∧ becomes entry.2 pair.2) entries named

variable {becomes : α → β → Prop} {entries : List (Value × α)} {named : Table β}

theorem Names.keyTexts_eq (names : Names becomes entries named) :
    keyTexts entries = .ok named.keys := by
  refine mapM_eq_ok_iff.mpr ?_
  rw [Table.keys, List.forall₂_map_right_iff]
  exact names.imp fun _ _ both => both.1

theorem keys_ofEntries (named : Table β) : (Table.ofEntries named).keys = named.keys.eraseDups :=
  Table.keys_putAll Table.nodup_keys_nil named

theorem Names.standsLast (names : Names becomes entries named) {name : String} {value : β}
    (found : (Table.ofEntries named).get? name = some value) :
    ∃ original, StandsLast entries name original ∧ becomes original value := by
  rw [Table.ofEntries, Table.get?_putAll, show Table.get? ([] : Table β) name = none from rfl,
    Option.or_none] at found
  rcases List.lookup_eq_some_iff.mp found with ⟨later, earlier, split, apart⟩
  -- What a lookup finds is written last: it stands first in the reversed list of writes.
  rw [List.reverse_eq_iff, List.reverse_append, List.reverse_cons, List.append_assoc,
    List.singleton_append] at split
  rw [split] at names
  rcases List.forall₂_cons_right_iff.mp (List.forall₂_drop_append _ _ _ names) with
    ⟨⟨key, original⟩, after, ⟨shown, became⟩, namesAfter, rest⟩
  refine ⟨original, ⟨entries.take earlier.reverse.length, key, after, ?_, shown, ?_⟩, became⟩
  · rw [← rest, List.take_append_drop]
  · intro entry member again
    rcases exists_of_forall₂_left namesAfter member with ⟨pair, pairMember, same, _⟩
    have different := apart pair (List.mem_reverse.mp pairMember)
    cases again.symm.trans same
    simp at different

theorem length_keyTexts {names : List String} (told : keyTexts entries = .ok names) :
    names.length = entries.length :=
  (mapM_eq_ok_iff.mp told).length_eq.symm

theorem hasDistinctTexts_iff {names : List String} (told : keyTexts entries = .ok names) :
    HasDistinctTexts entries ↔ names.Nodup := by
  constructor
  · rintro ⟨others, toldAgain, nodup⟩
    cases told.symm.trans toldAgain
    exact nodup
  · exact fun nodup => ⟨names, told, nodup⟩

end

theorem names_of_sealedTable {entries : List (Value × Value)} {table : Table Value}
    (sealedAll : sealedTable [] entries = .ok table) :
    ∃ named, Names (fun value result => sealedForm value = .ok result) entries named ∧
      table = .ofEntries named := by
  rw [sealedTable_eq] at sealedAll
  rcases bind_eq_ok_iff.mp sealedAll with ⟨named, told, equal⟩
  cases equal
  refine ⟨named, (mapM_eq_ok_iff.mp told).imp fun entry pair sealedOne => ?_, rfl⟩
  rcases bind_eq_ok_iff.mp sealedOne with ⟨name, shown, later⟩
  rcases bind_eq_ok_iff.mp later with ⟨value, ofValue, same⟩
  cases same
  exact ⟨shown, ofValue⟩

end Value

theorem Document.names_of_namedEntries {document : Document} {table : Table Document}
    (written : document.namedEntries = .ok table) :
    ∃ named, Value.Names Eq document.entries named ∧ table = .ofEntries named := by
  rcases bind_eq_ok_iff.mp written with ⟨named, told, equal⟩
  cases equal
  refine ⟨named, (mapM_eq_ok_iff.mp told).imp fun entry pair shownOne => ?_, rfl⟩
  rcases bind_eq_ok_iff.mp shownOne with ⟨name, shown, same⟩
  cases same
  exact ⟨shown, rfl⟩

/-! ## Definitions of selections -/

namespace Value

def Becomes (entries others : List (Value × Value)) : Prop :=
  ∃ table : Table Value, sealedTable [] entries = .ok table ∧
    others = table.map fun entry => (.text entry.1, entry.2)

theorem becomes_of_entriesOf? {value result : Value} (sealedOne : sealedForm value = .ok result) :
    Option.Rel Becomes (Selection.entriesOf? value) (Selection.entriesOf? result) := by
  cases value with
  | map entries | sealed entries =>
      rw [sealedForm] at sealedOne
      rcases bind_eq_ok_iff.mp sealedOne with ⟨table, sealedAll, equal⟩
      cases equal
      exact .some ⟨table, sealedAll, rfl⟩
  | list items | tuple items =>
      rw [sealedForm] at sealedOne
      rcases bind_eq_ok_iff.mp sealedOne with ⟨results, _, equal⟩
      cases equal
      exact .none
  | _ =>
      rw [sealedForm] at sealedOne
      · cases sealedOne
        exact .none
      all_goals simp

theorem becomes_of_mappings {value result : Value} (sealedOne : sealedForm value = .ok result) :
    List.Forall₂ Becomes (Selection.mappings value) (Selection.mappings result) := by
  cases value with
  | map entries | sealed entries =>
      rw [sealedForm] at sealedOne
      rcases bind_eq_ok_iff.mp sealedOne with ⟨table, sealedAll, equal⟩
      cases equal
      exact .cons ⟨table, sealedAll, rfl⟩ .nil
  | list items | tuple items =>
      rw [sealedForm] at sealedOne
      rcases bind_eq_ok_iff.mp sealedOne with ⟨results, sealedAll, equal⟩
      cases equal
      rw [sealedItems_eq] at sealedAll
      refine List.rel_filterMap ?_ (mapM_eq_ok_iff.mp sealedAll)
      exact fun _ _ => becomes_of_entriesOf?
  | _ =>
      rw [sealedForm] at sealedOne
      · cases sealedOne
        exact .nil
      all_goals simp

end Value

/-! ## Clauses -/

theorem Criterion.key_of_compile {name : String} {value : Value} {criterion : Criterion}
    (compiled : compile (.text name) value = .ok criterion) : criterion.key = name := by
  rcases compile_eq_ok compiled with ⟨key, _, shown, _, isKey, _⟩
  exact isKey.trans (Except.ok.inj shown).symm

namespace Clause

/-- A clause is made of a mapping: it has one criterion for each text of a key, made of what
stands last under that text. -/
structure IsMadeOf (entries : List (Value × Value)) (clause : Clause) : Prop where
  keys : ∃ names, Value.keyTexts entries = .ok names ∧
    clause.map Criterion.key = names.eraseDups
  last : ∀ criterion ∈ clause, ∃ original value,
    Value.StandsLast entries criterion.key original ∧ original.sealedForm = .ok value ∧
      Criterion.compile (.text criterion.key) value = .ok criterion

section

variable {entries others : List (Value × Value)} {clause : Clause}

theorem IsMadeOf.length_eq_iff (made : IsMadeOf entries clause) :
    clause.length = entries.length ↔ Value.HasDistinctTexts entries := by
  rcases made.keys with ⟨names, told, keys⟩
  rw [Value.hasDistinctTexts_iff told, ← length_eraseDups_eq_iff, ← keys, List.length_map,
    Value.length_keyTexts told]

theorem isMadeOf_of_becomes (becomes : Value.Becomes entries others)
    (compiled : ofEntries others = .ok clause) : IsMadeOf entries clause := by
  rcases becomes with ⟨table, sealedAll, rfl⟩
  rcases Value.names_of_sealedTable sealedAll with ⟨named, names, rfl⟩
  have related := mapM_eq_ok_iff.mp compiled
  rw [List.forall₂_map_left_iff] at related
  constructor
  · refine ⟨named.keys, names.keyTexts_eq, ?_⟩
    rw [← Value.keys_ofEntries, Table.keys, ← List.forall₂_eq_eq_eq, List.forall₂_map_left_iff,
      List.forall₂_map_right_iff]
    exact related.flip.imp fun _ _ => Criterion.key_of_compile
  · intro criterion member
    rcases exists_of_forall₂_right related member with ⟨⟨name, value⟩, entryMember, compiled⟩
    have nodup := Table.nodup_keys_putAll Table.nodup_keys_nil named
    rcases names.standsLast (Table.get?_eq_some_of_mem nodup entryMember) with
      ⟨original, stands, sealedOne⟩
    cases Criterion.key_of_compile compiled
    exact ⟨original, value, stands, sealedOne, compiled⟩

end

end Clause

theorem Selection.isMadeOf_of_compile {name : String} {definition value : Value}
    {selection : Selection} (sealedOne : definition.sealedForm = .ok value)
    (compiled : compile name value = .ok selection) :
    List.Forall₂ (fun mapping clause => Clause.IsMadeOf mapping clause ∧
        (clause.length = mapping.length ↔ Value.HasDistinctTexts mapping))
      (mappings definition) selection := by
  have becomes := Value.becomes_of_mappings sealedOne
  have made := compile_eq_ok compiled
  clear compiled
  generalize mappings value = others at becomes made
  generalize mappings definition = mappings at becomes
  induction becomes generalizing selection with
  | nil =>
      cases made
      exact .nil
  | cons here _ induction =>
      cases made with
      | cons first rest =>
          have isMade := Clause.isMadeOf_of_becomes here first
          exact .cons ⟨isMade, isMade.length_eq_iff⟩ (induction rest)

/-! ## Detections -/

namespace Rule

theorem exists_condition_of_checkDetection {place : String} {detection : Document}
    (checked : checkDetection place detection = .ok ()) :
    detection.isMapping = true ∧ ∃ before content after,
      detection.entries = before ++ (.text conditionKey, content) :: after := by
  unfold checkDetection at checked
  split at checked
  · next isMapping =>
      refine ⟨isMapping, ?_⟩
      split at checked
      · next text isText =>
          unfold Document.field at isText
          split at isText
          · next entry found =>
              rcases entry with ⟨key, content⟩
              have same : key.same (.text conditionKey) = true := by
                simpa using List.find?_some found
              cases Value.same_text_iff.mp same
              rcases List.append_of_mem (List.mem_of_find?_eq_some found) with
                ⟨before, after, split⟩
              exact ⟨before, content, after, split⟩
          · cases isText
      · cases checked
  · cases checked

end Rule

namespace BoundRule

theorem length_selections {rule : Rule} {bound : BoundRule} (read : rule.IsRead)
    (binds : ofRule rule = .ok bound) :
    bound.selections.length + 1 = rule.detection.length := by
  have others : rule.detection.keys.erase Rule.conditionKey = bound.selections.keys := by
    rw [keys_selections binds, Rule.selectionNames_eq, read.nodup_keys.erase_eq_filter]
    exact List.filter_congr fun name _ => Bool.eq_iff_iff.mpr (by simp)
  have counted := List.length_erase_add_one (conditionKey_mem_keys binds)
  rw [others] at counted
  simpa [Table.keys] using counted

/-- What a bound rule keeps of the document that it was read from: a selection for each text of a
key of the detection but that of the condition, and in it a clause for each mapping that defines
what stands last under this text, made of that mapping. There are as many selections as keys but
the condition, and as many criteria in a clause as keys in its mapping, where the keys have
different texts and in no other case. -/
theorem keeps_last_of_each_text {document : Document} {file : Option String} {rule : Rule}
    {bound : BoundRule} (read : Rule.ofDocument document file = .ok rule)
    (binds : ofRule rule = .ok bound) :
    ∃ detection before content after names,
      document.isMapping = true ∧ (document.field "detection").isMapping = true ∧
      (document.field "detection").entries = detection ∧
      detection = before ++ (.text Rule.conditionKey, content) :: after ∧
      Value.keyTexts detection = .ok names ∧
      bound.selections.keys = names.eraseDups.filter (fun name => name ≠ Rule.conditionKey) ∧
      (bound.selections.length = (before ++ after).length ↔ Value.HasDistinctTexts detection) ∧
      ∀ name selection, (name, selection) ∈ bound.selections →
        ∃ definition value, Value.StandsLast detection name definition ∧
          definition.tree? = some value ∧
          List.Forall₂ (fun mapping clause => Clause.IsMadeOf mapping clause ∧
              (clause.length = mapping.length ↔ Value.HasDistinctTexts mapping))
            (Selection.mappings value) selection := by
  rcases Rule.ofDocument_eq_ok read with ⟨isMapping, checked, table, written, sealedAll⟩
  rcases Rule.exists_condition_of_checkDetection checked with
    ⟨isDetection, before, content, after, split⟩
  rcases Document.names_of_namedEntries written with ⟨named, names, rfl⟩
  have keys : rule.detection.keys = named.keys.eraseDups :=
    (Document.keys_of_sealAll sealedAll).trans (Value.keys_ofEntries named)
  have selected : bound.selections.keys =
      named.keys.eraseDups.filter (fun name => name ≠ Rule.conditionKey) := by
    rw [keys_selections binds, Rule.selectionNames_eq, keys]
  refine ⟨_, before, content, after, named.keys, isMapping, isDetection, rfl, split,
    names.keyTexts_eq, selected, ?_, ?_⟩
  · have others := length_selections ⟨_, file, read⟩ binds
    have counted : rule.detection.length = named.keys.eraseDups.length := by
      rw [← keys, Table.keys, List.length_map]
    rw [Value.hasDistinctTexts_iff names.keyTexts_eq, ← length_eraseDups_eq_iff,
      Value.length_keyTexts names.keyTexts_eq, ← counted, ← others, split, List.length_append,
      List.length_append, List.length_cons]
    omega
  · intro name selection member
    have nodup : bound.selections.keys.Nodup := selected ▸ (nodup_eraseDups _).filter _
    rcases (compileAll_eq_ok (ofRule_eq_ok binds).2.1).2 name selection
      (Table.get?_eq_some_of_mem nodup member) with ⟨definition, defined, compiled⟩
    have held : (name, definition) ∈ rule.detection :=
      List.mem_of_mem_filter (Table.mem_of_get?_eq_some defined)
    rcases Document.exists_of_mem_of_sealAll sealedAll held with ⟨original, written, sealedOne⟩
    rcases Document.sealedForm_eq_ok sealedOne with ⟨value, tree, ofTree⟩
    have nodupKeys := Table.nodup_keys_putAll Table.nodup_keys_nil named
    rcases names.standsLast (Table.get?_eq_some_of_mem nodupKeys written) with ⟨_, stands, rfl⟩
    exact ⟨_, value, stands, tree, Selection.isMadeOf_of_compile ofTree compiled⟩

end BoundRule

/-! ## Numbers for keys -/

def Rule.selectionDocument (mapping : List (Value × Value)) : Value :=
  .map [(.text "title", .text "Logins"), (.text "id", .text "r1"), (.text "level", .text "low"),
    (.text "detection", .map [(.text "sel", .map mapping), (.text "condition", .text "sel")])]

theorem Rule.ofDocument_selectionDocument {mapping : List (Value × Value)} {table : Table Value}
    (sealedAll : Value.sealedTable [] mapping = .ok table) :
    ofDocument (selectionDocument mapping) none = .ok { logins "r1" "sel" with
      detection := [("sel", .sealed (table.map fun entry => (.text entry.1, entry.2))),
        ("condition", .text "sel")] } := by
  have selection : Document.sealedForm (.plain (.map mapping)) =
      .ok (.sealed (table.map fun entry => (.text entry.1, entry.2))) := by
    rw [Document.sealedForm, Value.sealedForm, sealedAll]
    rfl
  have detection : Document.sealAll [("sel", .plain (.map mapping)),
      ("condition", .plain (.text "sel"))] =
        .ok [("sel", .sealed (table.map fun entry => (.text entry.1, entry.2))),
          ("condition", .text "sel")] := by
    rw [Document.sealAll, List.mapM_cons, selection]
    rfl
  have reads : ofDocument (selectionDocument mapping) none =
      (Document.sealAll [("sel", .plain (.map mapping)), ("condition", .plain (.text "sel"))] >>=
        fun table => pure { logins "r1" "sel" with detection := table }) := rfl
  rw [reads, detection]
  rfl

namespace BoundRule

theorem sealedTable_one_and (other : String) :
    Value.sealedTable [] [(.int 1, .text "a"), (.text other, .text "b")] =
      .ok (Table.put other (.text "b") [("1", .text "a")]) := by
  have shown : (Value.int 1).shown = .ok "1" := by decide +kernel
  have otherShown : (Value.text other).shown = .ok other := rfl
  simp only [Value.sealedTable, shown, otherShown, Value.sealedForm, bind, Except.bind, Table.put]

/-- A number and the text of another one are two keys of a rule. -/
theorem number_and_another_are_two_keys :
    ∃ rule bound, Rule.ofDocument
        (Rule.selectionDocument [(.int 1, .text "a"), (.text "2", .text "b")]) none = .ok rule ∧
      ofRule rule = .ok bound ∧
      (bound.selections.map fun entry => entry.2.map fun clause => clause.map Criterion.key) =
        [[["1", "2"]]] ∧
      Value.HasDistinctTexts (Document.entries (Value.map
        [(.text "sel", .map [(.int 1, .text "a"), (.text "2", .text "b")]),
          (.text "condition", .text "sel")])) := by
  refine ⟨_, _, Rule.ofDocument_selectionDocument (sealedTable_one_and "2"), rfl, rfl, ?_⟩
  have reads := Rule.ofDocument_selectionDocument (sealedTable_one_and "2")
  rcases keeps_last_of_each_text reads rfl with
    ⟨detection, before, content, after, _, _, _, isDetection, split, _, _, counted, _⟩
  cases isDetection
  refine counted.mp ?_
  have lengths := congrArg List.length split
  rw [List.length_append, List.length_cons] at lengths
  rw [List.length_append]
  exact Nat.succ_injective lengths

/-- A number and the text of that number are one key of a rule, and what is under the number plays
no part: an event that cannot have both values matches. -/
theorem number_and_its_text_are_one_key :
    ∃ rule bound found, Rule.ofDocument
        (Rule.selectionDocument [(.int 1, .text "a"), (.text "1", .text "b")]) none = .ok rule ∧
      ofRule rule = .ok bound ∧
      (bound.selections.map fun entry => entry.2.map fun clause => clause.map Criterion.key) =
        [[["1"]]] ∧
      bound.matchEvent { SecurityEvent.changeByAdmin with metadata := [("1", .text "b")] } =
        .ok (some found) :=
  ⟨_, _, _, Rule.ofDocument_selectionDocument (sealedTable_one_and "1"), rfl, rfl, rfl⟩

end BoundRule

end ThreatWatch
