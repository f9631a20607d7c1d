import ThreatWatch.Proofs.Sources

/-! Which texts the attributes of an event get. The value of an attribute is that of a mapping for
it, or else the raw one, and its text is carried over. Where that value is nothing the attribute
gets its default or a fresh id; a zero counts as nothing as well. -/

namespace ThreatWatch

namespace Value

/-- No value, and what has nothing in it. -/
inductive IsVoid : Value → Prop where
  | null : IsVoid .null
  | text : IsVoid (.text "")
  | bytes : IsVoid (.bytes [])
  | list : IsVoid (.list [])
  | tuple : IsVoid (.tuple [])
  | set : IsVoid (.set [])
  | map : IsVoid (.map [])
  | sealed : IsVoid (.sealed [])

/-- A number that is zero, as the truth value of what is false is. -/
inductive IsZero : Value → Prop where
  | bool : IsZero (.bool false)
  | int : IsZero (.int 0)
  | float {number : Binary64} (zero : number.isZero = true) : IsZero (.float number)

theorem isPresent_eq_false_iff {value : Value} :
    value.isPresent = false ↔ value.IsVoid ∨ value.IsZero := by
  constructor
  · intro absent
    cases value with
    | null => exact .inl .null
    | bool flag =>
        cases (absent : flag = false)
        exact .inr .bool
    | int number =>
        obtain rfl : number = 0 := by simpa [isPresent] using absent
        exact .inr .int
    | float number => exact .inr (.float (by simpa [isPresent] using absent))
    | text content =>
        obtain rfl : content = "" := by simpa [isPresent] using absent
        exact .inl .text
    | bytes items | list items | tuple items | set items | map items | sealed items =>
        obtain rfl : items = [] := by simpa [isPresent] using absent
        exact .inl (by constructor)
    | date _ | moment _ => cases absent
  · rintro (void | zero)
    · cases void <;> rfl
    · cases zero with
      | bool | int => rfl
      | float zero => simp [isPresent, zero]

end Value

namespace EventMapping

variable {raw mappings expanded mapped : Entries} {value : Value}

/-- The value for an attribute: the first filled one at the paths of a mapping for it, where there
is one, and otherwise the raw one. -/
def chosenValue (expanded mappings raw : Entries) (field : EventField) : Value :=
  (mappings.findSome? fun entry =>
    if entry.1.text? = some field.name then valueAt (.map expanded) entry.2 else none).getD
      (Value.entry raw field.name)

def fallbackText? (freshId : String) : EventField → Option String
  | .id => some freshId
  | .source | .category => some "unknown"
  | .description | .host => some ""
  | .timestamp | .severity => none

/-- An attribute is the text of its value, but its fallback for what is void or zero. -/
structure CarriesOver (value : Value) (fallback text : String) : Prop where
  given : ¬value.IsVoid → ¬value.IsZero → value.shown = .ok text
  missing : value.IsVoid ∨ value.IsZero → text = fallback

theorem text?_eq_some_iff {key : Value} {name : String} :
    key.text? = some name ↔ key.same (.text name) = true := by
  rw [Value.same_text_iff]
  cases key <;> simp [Value.text?]

theorem lookup?_filterMap (give : Value → Option Value) (mappings : Entries) (name : String) :
    Value.lookup? (mappings.filterMap fun entry =>
        (give entry.2).map fun value => (entry.1, value)) (.text name) =
      mappings.findSome? fun entry =>
        if entry.1.text? = some name then give entry.2 else none := by
  induction mappings with
  | nil => rfl
  | cons first rest induction =>
      rw [List.filterMap_cons, List.findSome?_cons, ← induction]
      cases given : give first.2 with
      | none => simp
      | some value =>
          simp only [Option.map_some, Value.lookup?, List.find?_cons, text?_eq_some_iff]
          cases first.1.same (.text name) <;> rfl

theorem attributeOf_eq_chosenValue (expands : Expands raw expanded)
    (told : applied (.map expanded) mappings = .ok mapped) (field : EventField) :
    attributeOf expanded mapped field = chosenValue expanded mappings raw field := by
  have ownName : field.name ≠ bodyKey := by cases field <;> decide
  rw [attributeOf, chosenValue, applied_eq told, lookup?_filterMap, expands.entry_of_ne ownName]

theorem carriesOver_of_textOr {fallback text : String}
    (told : textOr fallback value = .ok text) : CarriesOver value fallback text := by
  unfold textOr at told
  split at told
  · next present =>
      refine ⟨fun _ _ => told, fun nothing => ?_⟩
      rw [Value.isPresent_eq_false_iff.mpr nothing] at present
      cases present
  · next absent =>
      cases told
      have nothing := Value.isPresent_eq_false_iff.mp (Bool.not_eq_true _ ▸ absent)
      exact ⟨fun notVoid notZero => absurd nothing (not_or.mpr ⟨notVoid, notZero⟩), fun _ => rfl⟩

theorem carriesOver_of_idOf {id : Option String} (told : idOf expanded mapped = .ok id)
    (freshId : String) : CarriesOver (attributeOf expanded mapped .id) freshId (id.getD freshId) := by
  apply carriesOver_of_textOr
  unfold idOf at told
  unfold textOr
  dsimp only at told
  split at told
  · next present =>
      obtain ⟨text, shown, rfl⟩ := map_eq_ok_iff.mp told
      rw [if_pos present, shown]
      rfl
  · next absent =>
      cases told
      rw [if_neg absent]
      rfl

theorem Drafts.carriesOver {drafted : EventDraft} (drafts : Drafts expanded mapped drafted)
    (now : Calendar.Moment) (freshId : String) {field : EventField} {fallback : String}
    (fallsBack : fallbackText? freshId field = some fallback) :
    CarriesOver (attributeOf expanded mapped field) fallback
      ((drafted.complete now freshId).fieldText field) := by
  cases field with
  | id =>
      cases fallsBack
      exact carriesOver_of_idOf drafts.id freshId
  | source =>
      cases fallsBack
      exact carriesOver_of_textOr drafts.source
  | category =>
      cases fallsBack
      exact carriesOver_of_textOr drafts.category
  | description =>
      cases fallsBack
      exact carriesOver_of_textOr drafts.description
  | host =>
      cases fallsBack
      exact carriesOver_of_textOr drafts.host
  | timestamp | severity => cases fallsBack

/-- The attributes of an event carry over the texts of the values that are chosen for them, and
fall back where a value is void or zero. -/
theorem attributes_carry_over {drafted : EventDraft}
    (told : draft (.map mappings) raw = .ok drafted) (now : Calendar.Moment) (freshId : String) :
    ∃ expanded, Expands raw expanded ∧ ∀ field fallback,
      fallbackText? freshId field = some fallback →
        CarriesOver (chosenValue expanded mappings raw field) fallback
          ((drafted.complete now freshId).fieldText field) := by
  obtain ⟨expanded, mapped, expandTold, mappedTold, drafts⟩ := draft_eq_ok_iff.mp told
  have expands := expands_of_expand expandTold
  refine ⟨expanded, expands, fun field fallback fallsBack => ?_⟩
  rw [← attributeOf_eq_chosenValue expands mappedTold]
  exact drafts.carriesOver now freshId fallsBack

def numberedEntries (id slot : Int) : Entries :=
  [(.text "id", .int id), (.text "timestamp", .text "2024-05-01T12:00:00Z"),
    (.text "slot", .int slot)]

def slotMappings : Entries :=
  [(.text "host", .text "slot")]

theorem expand_numberedEntries (id slot : Int) :
    expand (numberedEntries id slot) = .ok (numberedEntries id slot) :=
  rfl

theorem firstFilled_numberedEntries (id slot : Int) :
    firstFilled (.map (numberedEntries id slot)) ["slot"] = some (.int slot) := by
  have path : Text.splitOn '.' "slot" = ["slot"] := by decide
  rw [firstFilled, Value.atPath, path]
  rfl

theorem applied_slotMappings (id slot : Int) :
    applied (.map (numberedEntries id slot)) slotMappings = .ok [(.text "host", .int slot)] := by
  refine bind_eq_ok_iff.mpr ⟨["slot"], rfl, bind_eq_ok_iff.mpr ⟨[], rfl, ?_⟩⟩
  rw [firstFilled_numberedEntries]
  rfl

theorem chosenValue_id_numberedEntries (id slot : Int) :
    chosenValue (numberedEntries id slot) slotMappings (numberedEntries id slot) .id = .int id :=
  rfl

theorem chosenValue_host_numberedEntries (id slot : Int) :
    chosenValue (numberedEntries id slot) slotMappings (numberedEntries id slot) .host =
      .int slot := by
  unfold chosenValue slotMappings
  rw [List.findSome?_cons, valueAt_text, firstFilled_numberedEntries]
  rfl

theorem exists_draft_numberedEntries {id slot : Int} {idText slotText : String}
    (idShown : (Value.int id).shown = .ok idText)
    (slotShown : (Value.int slot).shown = .ok slotText) :
    ∃ drafted, draft (.map slotMappings) (numberedEntries id slot) = .ok drafted := by
  obtain ⟨given, idTold⟩ : ∃ given,
      idOf (numberedEntries id slot) [(.text "host", .int slot)] = .ok given := by
    have raw : attributeOf (numberedEntries id slot) [(.text "host", .int slot)] .id =
        .int id := rfl
    unfold idOf
    rw [raw]
    dsimp only
    rw [idShown]
    split <;> exact ⟨_, rfl⟩
  obtain ⟨host, hostTold⟩ : ∃ host, textOr "" (.int slot) = .ok host := by
    unfold textOr
    split
    · exact ⟨slotText, slotShown⟩
    · exact ⟨"", rfl⟩
  have noon : Timestamp.ofValue (.text "2024-05-01T12:00:00Z") =
      .ok ⟨63850161600000000, by decide, some Calendar.Offset.utc⟩ := by decide +kernel
  obtain ⟨time, timeTold⟩ : ∃ time,
      timeOf (numberedEntries id slot) [(.text "host", .int slot)] = .ok time :=
    exists_timeOf (.inr ⟨_, noon⟩)
  exact ⟨⟨_, _, _, _, _, _, _, _⟩, draft_eq_ok_iff.mpr ⟨_, _, expand_numberedEntries id slot,
    applied_slotMappings id slot, rfl, idTold, timeTold, rfl, rfl, rfl, rfl, hostTold⟩⟩

/-- Numbers other than zero are carried over as their texts, from the raw mapping and through the
table of mappings. -/
theorem numbers_are_carried_over :
    ∃ drafted, draft (.map slotMappings) (numberedEntries 7 3) = .ok drafted ∧
      ∀ now freshId, (drafted.complete now freshId).id = "7" ∧
        (drafted.complete now freshId).host = "3" := by
  have seven : (Value.int 7).shown = .ok "7" := by decide +kernel
  have three : (Value.int 3).shown = .ok "3" := by decide +kernel
  obtain ⟨drafted, told⟩ := exists_draft_numberedEntries seven three
  refine ⟨drafted, told, fun now freshId => ?_⟩
  obtain ⟨expanded, expands, carries⟩ := attributes_carry_over told now freshId
  obtain rfl := expands.unique (expands_of_expand (expand_numberedEntries 7 3))
  have id := (carries .id freshId rfl).given
  have host := (carries .host "" rfl).given
  rw [chosenValue_id_numberedEntries, seven] at id
  rw [chosenValue_host_numberedEntries, three] at host
  exact ⟨(Except.ok.inj (id nofun nofun)).symm, (Except.ok.inj (host nofun nofun)).symm⟩

/-- An id of zero is lost to a fresh one, and a mapped host of zero to an empty one. -/
theorem zeros_are_replaced :
    ∃ drafted, draft (.map slotMappings) (numberedEntries 0 0) = .ok drafted ∧
      chosenValue (numberedEntries 0 0) slotMappings (numberedEntries 0 0) .id = .int 0 ∧
      chosenValue (numberedEntries 0 0) slotMappings (numberedEntries 0 0) .host = .int 0 ∧
      (Value.int 0).shown = .ok "0" ∧
      ∀ now freshId, (drafted.complete now freshId).id = freshId ∧
        (drafted.complete now freshId).host = "" := by
  have zero : (Value.int 0).shown = .ok "0" := by decide +kernel
  obtain ⟨drafted, told⟩ := exists_draft_numberedEntries zero zero
  refine ⟨drafted, told, chosenValue_id_numberedEntries 0 0, chosenValue_host_numberedEntries 0 0,
    zero, fun now freshId => ?_⟩
  obtain ⟨expanded, mapped, expandTold, mappedTold, drafts⟩ := draft_eq_ok_iff.mp told
  cases (expand_numberedEntries 0 0).symm.trans expandTold
  have fromChosen := attributeOf_eq_chosenValue (expands_of_expand expandTold) mappedTold
  have id := (@drafts.carriesOver _ _ _ now freshId .id _ rfl).missing
  have host := (@drafts.carriesOver _ _ _ now freshId .host _ rfl).missing
  rw [fromChosen, chosenValue_id_numberedEntries] at id
  rw [fromChosen, chosenValue_host_numberedEntries] at host
  exact ⟨id (.inr .int), host (.inr .int)⟩

end EventMapping

end ThreatWatch
