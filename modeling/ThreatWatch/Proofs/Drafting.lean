import ThreatWatch.Event.Mapping
import ThreatWatch.Proofs.Leaves
import ThreatWatch.Proofs.Parsing

/-! Events from raw mappings, whatever these hold. Apart from a timestamp that cannot be
read, only an integer of too many digits can be in the way. Where neither the raw mapping
nor the table of mappings holds one, that leaves the body, which may be a text that holds
one in JSON. -/

namespace ThreatWatch

namespace EventMapping

variable {raw mappings expanded mapped : Entries}

/-! ## Body -/

/-- The body is a text that looks like JSON and that an integer of too many digits keeps
from being read. -/
def HasLongBody (raw : Entries) : Prop :=
  ∃ content, Value.lookup? raw (.text bodyKey) = some (.text content) ∧
    (Text.trim content).toList.head? = some '\x7b' ∧ Json.read content = .error .tooManyDigits

theorem exists_readBody {body : Value} (short : body.IsShort)
    (readable : ∀ content, body = .text content → (Text.trim content).toList.head? = some '\x7b' →
      Json.read content ≠ .error .tooManyDigits) :
    ∃ read, readBody body = .ok read ∧ read.IsShort := by
  unfold readBody
  split
  · next content =>
      split
      · next looksLike =>
          split
          · next value told => exact ⟨value, rfl, Json.isShort_of_read told⟩
          · exact ⟨_, rfl, short⟩
          · next long => exact absurd long (readable content rfl looksLike)
      · exact ⟨_, rfl, short⟩
  · exact ⟨_, rfl, short⟩

theorem isShort_liftEventData {body : Value} (short : body.IsShort) :
    (liftEventData body).IsShort := by
  unfold liftEventData
  split
  · next entries =>
      split
      · next data found =>
          have bodyShort := Value.isShort_map_iff.mp short
          have dataShort := Value.isShort_map_iff.mp (found ▸ bodyShort.isShort_entry "EventData")
          refine Value.isShort_map_iff.mpr ?_
          refine List.foldlRecOn data _ bodyShort fun table tableShort entry member => ?_
          dsimp only [putMissing]
          split
          · exact tableShort
          · exact tableShort.putEntry (dataShort entry member).1 (dataShort entry member).2
      · exact short
  · exact short

theorem exists_expand (short : Value.AreShort raw) (readable : ¬HasLongBody raw) :
    ∃ expanded, expand raw = .ok expanded ∧ Value.AreShort expanded := by
  unfold expand
  cases found : Value.lookup? raw (.text bodyKey) with
  | none => exact ⟨raw, rfl, short⟩
  | some body =>
      have bodyShort := short.isShort_of_lookup? found
      rcases exists_readBody bodyShort (fun content same looksLike long =>
        readable ⟨content, same ▸ found, looksLike, long⟩) with ⟨read, told, readShort⟩
      refine ⟨_, bind_eq_ok_iff.mpr ⟨read, told, rfl⟩, ?_⟩
      exact short.putEntry (Value.isShort_text _) (isShort_liftEventData readShort)

theorem expand_of_hasLongBody (long : HasLongBody raw) : expand raw = .error .tooManyDigits := by
  rcases long with ⟨content, found, looksLike, unread⟩
  have unreadBody : readBody (.text content) = .error .tooManyDigits := by
    rw [readBody, if_pos looksLike, unread]
  unfold expand
  rw [found]
  exact bind_eq_error_iff.mpr (.inl unreadBody)

/-! ## Mappings -/

theorem exists_pathsOf {source : Value} (short : source.IsShort) :
    ∃ paths, pathsOf source = .ok paths := by
  unfold pathsOf
  cases found : source.items? with
  | none =>
      rcases short.exists_shown with ⟨path, shown⟩
      exact ⟨[path], bind_eq_ok_iff.mpr ⟨path, shown, rfl⟩⟩
  | some items =>
      refine exists_mapM_eq_ok fun item member => ?_
      have part : item ∈ source.parts := by
        cases source with
        | list | tuple =>
            cases found
            exact (List.mem_filter.mp member).1
        | _ => cases found
      exact Value.IsShort.exists_shown fun long => short (.part part long)

theorem isShort_of_firstFilled {expanded found : Value} (short : expanded.IsShort)
    {paths : List String} (told : firstFilled expanded paths = some found) : found.IsShort := by
  induction paths with
  | nil => cases told
  | cons path rest induction =>
      unfold firstFilled at told
      dsimp only at told
      split at told
      · cases told
        exact short.atPath path
      · exact induction told

theorem exists_applied {expanded : Value} (short : expanded.IsShort)
    (tableShort : Value.AreShort mappings) :
    ∃ mapped, applied expanded mappings = .ok mapped ∧ Value.AreShort mapped := by
  induction mappings with
  | nil => exact ⟨[], rfl, by simp [Value.AreShort]⟩
  | cons first rest induction =>
      rcases first with ⟨target, source⟩
      rcases List.forall_mem_cons.mp tableShort with ⟨⟨targetShort, sourceShort⟩, othersShort⟩
      rcases induction othersShort with ⟨others, later, areShort⟩
      unfold applied
      split
      · exact ⟨others, later, areShort⟩
      · rcases exists_pathsOf sourceShort with ⟨paths, told⟩
        refine ⟨_, bind_eq_ok_iff.mpr ⟨paths, told, bind_eq_ok_iff.mpr ⟨others, later, rfl⟩⟩, ?_⟩
        cases found : firstFilled expanded paths with
        | none => exact areShort
        | some value =>
            exact List.forall_mem_cons.mpr
              ⟨⟨targetShort, isShort_of_firstFilled short found⟩, areShort⟩

theorem exists_source_of_applied {expanded : Value}
    (told : applied expanded mappings = .ok mapped) :
    ∀ entry ∈ mapped, ∃ source, (entry.1, source) ∈ mappings := by
  induction mappings generalizing mapped with
  | nil =>
      cases told
      simp
  | cons first rest induction =>
      rcases first with ⟨target, source⟩
      have later {others : Entries} (told : applied expanded rest = .ok others) :
          ∀ entry ∈ others, ∃ other, (entry.1, other) ∈ (target, source) :: rest :=
        fun entry member => (induction told entry member).imp fun _ => List.mem_cons_of_mem _
      unfold applied at told
      split at told
      · exact later told
      · rcases bind_eq_ok_iff.mp told with ⟨paths, _, afterPaths⟩
        rcases bind_eq_ok_iff.mp afterPaths with ⟨others, toldRest, equal⟩
        cases equal
        cases firstFilled expanded paths with
        | none => exact later toldRest
        | some value =>
            exact List.forall_mem_cons.mpr ⟨⟨source, List.mem_cons_self⟩, later toldRest⟩

theorem tableOf_map (mappings : Entries) : tableOf (.map mappings) = .ok mappings := by
  cases mappings <;> rfl

/-! ## Metadata -/

theorem exists_mappedMetadata (short : Value.AreShort mapped) :
    ∃ table, mappedMetadata mapped = .ok table := by
  induction mapped with
  | nil => exact ⟨[], rfl⟩
  | cons first rest induction =>
      rcases first with ⟨target, value⟩
      rcases List.forall_mem_cons.mp short with ⟨⟨targetShort, _⟩, othersShort⟩
      rcases induction othersShort with ⟨table, later⟩
      unfold mappedMetadata
      split
      · exact ⟨table, later⟩
      · split
        · exact ⟨table, later⟩
        · rcases targetShort.exists_shown with ⟨name, shown⟩
          exact ⟨_, bind_eq_ok_iff.mpr ⟨name, shown, bind_eq_ok_iff.mpr ⟨table, later, rfl⟩⟩⟩

theorem exists_target_of_mappedMetadata {table : Table Scalar}
    (told : mappedMetadata mapped = .ok table) :
    ∀ name ∈ table.keys, ∃ entry ∈ mapped, entry.1.shown = .ok name := by
  induction mapped generalizing table with
  | nil =>
      cases told
      simp [Table.keys]
  | cons first rest induction =>
      rcases first with ⟨target, value⟩
      have later {table : Table Scalar} (told : mappedMetadata rest = .ok table) (name : String)
          (member : name ∈ table.keys) :
          ∃ entry ∈ (target, value) :: rest, entry.1.shown = .ok name := by
        rcases induction told name member with ⟨entry, entryMember, shown⟩
        exact ⟨entry, List.mem_cons_of_mem _ entryMember, shown⟩
      unfold mappedMetadata at told
      split at told
      · exact later told
      · split at told
        · exact later told
        · rcases bind_eq_ok_iff.mp told with ⟨name, shown, others⟩
          rcases bind_eq_ok_iff.mp others with ⟨table, toldRest, equal⟩
          cases equal
          intro other member
          rcases List.mem_cons.mp member with rfl | member
          · exact ⟨_, List.mem_cons_self, shown⟩
          · exact later toldRest other member

theorem exists_bodyMetadata {body : Value} (short : body.IsShort) :
    ∃ table, bodyMetadata body = .ok table := by
  unfold bodyMetadata
  split
  · exact Metadata.exists_flatten (Value.isShort_map_iff.mp short) ""
  · split
    · exact ⟨_, rfl⟩
    · exact ⟨_, rfl⟩

theorem exists_nestedMetadata {nested : Value} (short : nested.IsShort) :
    ∃ table, nestedMetadata nested = .ok table := by
  unfold nestedMetadata
  split
  · exact Metadata.exists_flatten (Value.isShort_map_iff.mp short) ""
  · exact ⟨_, rfl⟩

theorem exists_metadataOf (short : Value.AreShort expanded) (mappedShort : Value.AreShort mapped) :
    ∃ table, metadataOf expanded mapped = .ok table := by
  have othersShort : Value.AreShort (expanded.filter fun entry => !isReserved entry.1) :=
    fun entry member => short entry (List.mem_filter.mp member).1
  rcases exists_bodyMetadata (short.isShort_entry bodyKey) with ⟨body, bodyTold⟩
  rcases exists_nestedMetadata (short.isShort_entry metadataKey) with ⟨nested, nestedTold⟩
  rcases Metadata.exists_flatten othersShort "" with ⟨others, othersTold⟩
  rcases exists_mappedMetadata mappedShort with ⟨table, mappedTold⟩
  exact ⟨_, bind_eq_ok_iff.mpr ⟨body, bodyTold, bind_eq_ok_iff.mpr ⟨nested, nestedTold,
    bind_eq_ok_iff.mpr ⟨others, othersTold, bind_eq_ok_iff.mpr ⟨table, mappedTold, rfl⟩⟩⟩⟩⟩

/-! ## Events -/

theorem isShort_attributeOf (short : Value.AreShort expanded) (mappedShort : Value.AreShort mapped)
    (field : EventField) : (attributeOf expanded mapped field).IsShort := by
  unfold attributeOf
  cases found : Value.lookup? mapped (.text field.name) with
  | none => exact short.isShort_entry field.name
  | some value => exact mappedShort.isShort_of_lookup? found

theorem exists_textOr {value : Value} (short : value.IsShort) (fallback : String) :
    ∃ text, textOr fallback value = .ok text := by
  unfold textOr
  split
  · exact short.exists_shown
  · exact ⟨fallback, rfl⟩

def idOf (expanded mapped : Entries) : Except Fault (Option String) :=
  let id := attributeOf expanded mapped .id
  if id.isPresent then id.shown.map some else pure none

def timeOf (expanded mapped : Entries) : Except Fault (Option Calendar.Moment) :=
  let time := attributeOf expanded mapped .timestamp
  if time.isNull then pure none else (Timestamp.ofValue time).map some

/-- What a draft takes from expanded entries and mapped values. -/
structure Drafts (expanded mapped : Entries) (drafted : EventDraft) : Prop where
  metadata : metadataOf expanded mapped = .ok drafted.metadata
  id : idOf expanded mapped = .ok drafted.id
  timestamp : timeOf expanded mapped = .ok drafted.timestamp
  source : textOr "unknown" (attributeOf expanded mapped .source) = .ok drafted.source
  severity : Severity.read (attributeOf expanded mapped .severity) (some .medium) =
    .ok drafted.severity
  category : textOr "unknown" (attributeOf expanded mapped .category) = .ok drafted.category
  description : textOr "" (attributeOf expanded mapped .description) = .ok drafted.description
  host : textOr "" (attributeOf expanded mapped .host) = .ok drafted.host

theorem ite_bind {α β ε : Type} (condition : Prop) [Decidable condition] (left right : Except ε α)
    (next : α → Except ε β) :
    (if condition then left else right) >>= next =
      if condition then left >>= next else right >>= next := by
  split <;> rfl

theorem draft_eq_ok_iff {drafted : EventDraft} :
    draft (.map mappings) raw = .ok drafted ↔
      ∃ expanded mapped, expand raw = .ok expanded ∧
        applied (.map expanded) mappings = .ok mapped ∧ Drafts expanded mapped drafted := by
  have straight : draft (.map mappings) raw = (do
      let expanded ← expand raw
      let mapped ← applied (.map expanded) mappings
      let metadata ← metadataOf expanded mapped
      let id ← idOf expanded mapped
      let timestamp ← timeOf expanded mapped
      let source ← textOr "unknown" (attributeOf expanded mapped .source)
      let severity ← Severity.read (attributeOf expanded mapped .severity) (some .medium)
      let category ← textOr "unknown" (attributeOf expanded mapped .category)
      let description ← textOr "" (attributeOf expanded mapped .description)
      let host ← textOr "" (attributeOf expanded mapped .host)
      return ⟨id, timestamp, source, severity, category, description, host, metadata⟩) := by
    unfold draft idOf timeOf
    simp only [ite_bind, tableOf_map]
    rfl
  rw [straight]
  simp only [bind_eq_ok_iff, pure_eq_ok_iff]
  constructor
  · rintro ⟨expanded, expandTold, mapped, mappedTold, metadata, metadataTold, id, idTold, time,
      timeTold, source, sourceTold, severity, severityTold, category, categoryTold, description,
      descriptionTold, host, hostTold, rfl⟩
    exact ⟨expanded, mapped, expandTold, mappedTold, metadataTold, idTold, timeTold, sourceTold,
      severityTold, categoryTold, descriptionTold, hostTold⟩
  · rintro ⟨expanded, mapped, expandTold, mappedTold, drafts⟩
    exact ⟨expanded, expandTold, mapped, mappedTold, _, drafts.metadata, _, drafts.id, _,
      drafts.timestamp, _, drafts.source, _, drafts.severity, _, drafts.category, _,
      drafts.description, _, drafts.host, rfl⟩

theorem exists_idOf (short : Value.AreShort expanded) (mappedShort : Value.AreShort mapped) :
    ∃ id, idOf expanded mapped = .ok id := by
  rcases (isShort_attributeOf short mappedShort .id).exists_shown with ⟨text, shown⟩
  unfold idOf
  dsimp only
  split
  · exact ⟨some text, by rw [shown]; rfl⟩
  · exact ⟨none, rfl⟩

theorem exists_timeOf (timely : (attributeOf expanded mapped .timestamp).isNull = true ∨
      ∃ moment, Timestamp.ofValue (attributeOf expanded mapped .timestamp) = .ok moment) :
    ∃ time, timeOf expanded mapped = .ok time := by
  unfold timeOf
  dsimp only
  split
  · exact ⟨none, rfl⟩
  · next given =>
      rcases timely.resolve_left given with ⟨moment, told⟩
      exact ⟨some moment, by rw [told]; rfl⟩

def selectedTimestamp (mappings raw : Entries) : Except Fault Value := do
  let expanded ← expand raw
  let mapped ← applied (.map expanded) mappings
  return attributeOf expanded mapped .timestamp

theorem exists_draft (tableShort : Value.AreShort mappings) (rawShort : Value.AreShort raw)
    (timely : ∀ value, selectedTimestamp mappings raw = .ok value →
      value.isNull = true ∨ ∃ moment, Timestamp.ofValue value = .ok moment)
    (readable : ¬HasLongBody raw) : ∃ drafted, draft (.map mappings) raw = .ok drafted := by
  rcases exists_expand rawShort readable with ⟨expanded, expandTold, short⟩
  rcases exists_applied (Value.isShort_map_iff.mpr short) tableShort with
    ⟨mapped, mappedTold, mappedShort⟩
  have selected : selectedTimestamp mappings raw = .ok (attributeOf expanded mapped .timestamp) :=
    bind_eq_ok_iff.mpr ⟨expanded, expandTold, bind_eq_ok_iff.mpr ⟨mapped, mappedTold, rfl⟩⟩
  have fieldShort := isShort_attributeOf short mappedShort
  rcases exists_metadataOf short mappedShort with ⟨metadata, metadataTold⟩
  rcases exists_idOf short mappedShort with ⟨id, idTold⟩
  rcases exists_timeOf (timely _ selected) with ⟨time, timeTold⟩
  rcases exists_textOr (fieldShort .source) "unknown" with ⟨source, sourceTold⟩
  rcases Severity.exists_read (fieldShort .severity) .medium with ⟨severity, severityTold⟩
  rcases exists_textOr (fieldShort .category) "unknown" with ⟨category, categoryTold⟩
  rcases exists_textOr (fieldShort .description) "" with ⟨description, descriptionTold⟩
  rcases exists_textOr (fieldShort .host) "" with ⟨host, hostTold⟩
  exact ⟨⟨id, time, source, severity, category, description, host, metadata⟩,
    draft_eq_ok_iff.mpr ⟨expanded, mapped, expandTold, mappedTold, metadataTold, idTold, timeTold,
      sourceTold, severityTold, categoryTold, descriptionTold, hostTold⟩⟩

theorem draft_of_hasLongBody (long : HasLongBody raw) (mappings : Value) :
    draft mappings raw = .error .tooManyDigits := by
  unfold draft
  rw [expand_of_hasLongBody long]
  rfl

/-! ## A body that is kept as text -/

def GivesMessage (mappings raw : Entries) : Prop :=
  (∃ table, nestedMetadata (Value.entry raw metadataKey) = .ok table ∧ messageKey ∈ table.keys) ∨
    ∃ entry ∈ mappings, entry.1.shown = .ok messageKey

theorem message_of_unread_body {content : String} {drafted : EventDraft}
    (body : Value.lookup? raw (.text bodyKey) = some (.text content))
    (unread : Json.read content = .error .malformed) (noOther : ¬GivesMessage mappings raw)
    (told : draft (.map mappings) raw = .ok drafted) :
    drafted.metadata.get? messageKey = some (.text content) := by
  rcases draft_eq_ok_iff.mp told with ⟨expanded, mapped, expandTold, mappedTold, drafts⟩
  have kept : readBody (.text content) = .ok (.text content) := by
    rw [readBody, unread]
    exact ite_self _
  unfold expand at expandTold
  rw [body] at expandTold
  dsimp only at expandTold
  rw [kept] at expandTold
  cases expandTold
  rcases bind_eq_ok_iff.mp drafts.metadata with ⟨bodyTable, bodyTold, afterBody⟩
  rcases bind_eq_ok_iff.mp afterBody with ⟨nested, nestedTold, afterNested⟩
  rcases bind_eq_ok_iff.mp afterNested with ⟨others, _, afterOthers⟩
  rcases bind_eq_ok_iff.mp afterOthers with ⟨table, tableTold, equal⟩
  have noNested : messageKey ∉ nested.keys := by
    intro member
    rw [Value.entry_putEntry_of_ne (by decide)] at nestedTold
    exact noOther (.inl ⟨nested, nestedTold, member⟩)
  have noMapping : messageKey ∉ table.keys := by
    intro member
    rcases exists_target_of_mappedMetadata tableTold _ member with ⟨entry, among, shown⟩
    rcases exists_source_of_applied mappedTold entry among with ⟨source, inTable⟩
    exact noOther (.inr ⟨_, inTable, shown⟩)
  have fromBody : (bodyTable.putAll nested).get? messageKey = some (.text content) := by
    rw [Value.entry_putEntry_self] at bodyTold
    cases bodyTold
    rw [Table.get?_putAll_of_not_mem noNested]
    rfl
  have direct : (others.foldl (fun table entry => table.putMissing entry.1 entry.2)
      (bodyTable.putAll nested)).get? messageKey = some (.text content) :=
    List.foldlRecOn (motive := fun table : Table Scalar =>
      table.get? messageKey = some (.text content)) others _ fromBody
      fun _ found entry _ => Table.get?_putMissing_of_eq_some found entry.1 entry.2
  rw [← pure_eq_ok_iff.mp equal, Table.get?_putAll_of_not_mem noMapping]
  exact direct

/-- Where the timestamp of a raw mapping can be read and no integer of too many digits is in
it or in the table of mappings, an event is made of it unless such an integer stands in a
body that is read as JSON. A body that is no JSON is kept as the message. -/
theorem exists_draft_iff (tableShort : Value.AreShort mappings) (rawShort : Value.AreShort raw)
    (timely : ∀ value, selectedTimestamp mappings raw = .ok value →
      value.isNull = true ∨ ∃ moment, Timestamp.ofValue value = .ok moment) :
    ((∃ drafted, draft (.map mappings) raw = .ok drafted) ↔ ¬HasLongBody raw) ∧
      (HasLongBody raw → ∃ content, Value.lookup? raw (.text bodyKey) = some (.text content) ∧
        Json.HoldsLongRun content.toList) ∧
      ∀ content, Value.lookup? raw (.text bodyKey) = some (.text content) →
        Json.read content = .error .malformed → ¬GivesMessage mappings raw →
        ∃ drafted, draft (.map mappings) raw = .ok drafted ∧
          drafted.metadata.get? messageKey = some (.text content) := by
  have returns := exists_draft tableShort rawShort timely
  refine ⟨⟨?_, returns⟩, ?_, ?_⟩
  · rintro ⟨drafted, told⟩ long
    rw [draft_of_hasLongBody long] at told
    cases told
  · rintro ⟨content, body, _, unread⟩
    exact ⟨content, body, Json.holdsLongRun_of_read unread⟩
  · intro content body unread noOther
    have readable : ¬HasLongBody raw := by
      rintro ⟨other, same, _, long⟩
      cases body.symm.trans same
      rw [unread] at long
      cases long
    rcases returns readable with ⟨drafted, told⟩
    exact ⟨drafted, told, message_of_unread_body body unread noOther told⟩

def bodyAtNoon (content : String) : Entries :=
  [(.text "timestamp", .text "2024-05-01T12:00:00Z"), (.text "hostname", .text "web-1"),
    (.text "body", .text content)]

theorem cut_off_body_is_kept :
    ∃ drafted, draft (.map [(.text "host", .text "hostname")])
        (bodyAtNoon "\x7b\x22EventID\x22: 4625") = .ok drafted ∧
      drafted.metadata.get? messageKey = some (.text "\x7b\x22EventID\x22: 4625") := by
  have path : Text.splitOn '.' "hostname" = ["hostname"] := by decide
  have found : firstFilled (.map (bodyAtNoon "\x7b\x22EventID\x22: 4625")) ["hostname"] =
      some (.text "web-1") := by
    rw [firstFilled, Value.atPath, path]
    rfl
  have mapped : applied (.map (bodyAtNoon "\x7b\x22EventID\x22: 4625"))
      [(.text "host", .text "hostname")] = .ok [(.text "host", .text "web-1")] := by
    refine bind_eq_ok_iff.mpr ⟨["hostname"], rfl, bind_eq_ok_iff.mpr ⟨[], rfl, ?_⟩⟩
    rw [found]
    rfl
  have taken : selectedTimestamp [(.text "host", .text "hostname")]
      (bodyAtNoon "\x7b\x22EventID\x22: 4625") = .ok (.text "2024-05-01T12:00:00Z") :=
    bind_eq_ok_iff.mpr ⟨_, rfl, bind_eq_ok_iff.mpr ⟨_, mapped, rfl⟩⟩
  have read : Timestamp.ofValue (.text "2024-05-01T12:00:00Z") =
      .ok ⟨63850161600000000, by decide, some Calendar.Offset.utc⟩ := by decide +kernel
  refine (exists_draft_iff ?_ ?_ ?_).2.2 _ rfl rfl ?_
  · simp [Value.AreShort, Value.isShort_text]
  · simp [bodyAtNoon, Value.AreShort, Value.isShort_text]
  · intro value selected
    rw [taken] at selected
    cases selected
    exact .inr ⟨_, read⟩
  · rintro (⟨table, told, member⟩ | ⟨entry, member, shown⟩)
    · cases told
      cases member
    · rcases List.mem_singleton.mp member with rfl
      exact absurd shown (by decide)

/-- A raw mapping without long integers and with a good timestamp, whose body is JSON with a
number of one digit too many. -/
theorem long_number_in_body_is_not_drafted :
    ∃ content, Value.AreShort (bodyAtNoon content) ∧
      (∃ moment, Timestamp.ofValue (Value.entry (bodyAtNoon content) "timestamp") = .ok moment) ∧
      content = Json.objectOfNumber (List.replicate Numeral.digitLimit '1') ∧
      draft (.map []) (bodyAtNoon content) = .error .tooManyDigits := by
  have unread : Json.read (Json.objectOfNumber (List.replicate Numeral.digitLimit '1')) =
      .error .tooManyDigits :=
    Json.read_objectOfNumber_of_long (by simp [Numeral.isPlainDigit]) (by simp)
  have looksLike := Json.head?_trim_objectOfNumber (List.replicate Numeral.digitLimit '1')
  generalize same : Json.objectOfNumber (List.replicate Numeral.digitLimit '1') = content at *
  refine ⟨content, ?_, ⟨⟨63850161600000000, by decide, some Calendar.Offset.utc⟩, ?_⟩, rfl, ?_⟩
  · simp [bodyAtNoon, Value.AreShort, Value.isShort_text]
  · rw [show Value.entry (bodyAtNoon content) "timestamp" = .text "2024-05-01T12:00:00Z" from rfl]
    decide +kernel
  · exact draft_of_hasLongBody ⟨content, rfl, looksLike, unread⟩ _

end EventMapping

end ThreatWatch
