import ThreatWatch.Proofs.Leaves
import ThreatWatch.Proofs.Sources

/-! Which metadata an event gets. What a mapping gives under a name comes first, then what lies
there in the nested metadata, then in the body, and at last in all other entries. Of the scalars
of one mapping whose keys join to the same name, the last one counts. -/

namespace ThreatWatch

/-! ## Flat metadata -/

namespace Metadata

def scalarAt (entries : List (Value × Value)) (name : String) : Option Scalar :=
  Table.get? (leaves "" entries).reverse name

theorem get?_flatten {entries : List (Value × Value)} {table : Table Scalar}
    (told : flatten "" entries = .ok table) (name : String) :
    table.get? name = scalarAt entries name := by
  rw [flatten_eq_ok told, Table.get?_putAll]
  exact Option.or_none

theorem nodup_keys_flatten {entries : List (Value × Value)} {table : Table Scalar}
    {start : String} (told : flatten start entries = .ok table) : table.keys.Nodup := by
  rw [flatten_eq_ok told]
  exact Table.nodup_keys_putAll Table.nodup_keys_nil _

end Metadata

/-! ## Metadata of events -/

namespace EventMapping

variable {raw mappings expanded mapped : Entries} {value : Value} {table : Table Scalar}

def nestedScalar : Value → String → Option Scalar
  | .map entries, name => Metadata.scalarAt entries name
  | _, _ => none

/-- The scalar that a body gives under a name: one that lies in it, or the body itself as the
message. -/
def bodyScalar : Value → String → Option Scalar
  | .map entries, name => Metadata.scalarAt entries name
  | body, name => if name = messageKey then Scalar.ofValue? body else none

/-- The scalar that the mappings give under a name that is not the name of an attribute. -/
def mappedScalar (expanded : Value) (mappings : Entries) (name : String) : Option Scalar :=
  mappings.findSome? fun entry =>
    if isAttribute entry.1 = false ∧ entry.1.shown = .ok name then
      (valueAt expanded entry.2).bind Scalar.ofValue?
    else none

/-- Targets no two of which have the same text, as the keys of a mapping are that are texts. -/
def HasOwnTargets (mappings : Entries) : Prop :=
  mappings.Pairwise fun first second => first.1.shown ≠ second.1.shown

theorem get?_bodyMetadata {body : Value} (told : bodyMetadata body = .ok table) :
    table.keys.Nodup ∧ ∀ name, table.get? name = bodyScalar body name := by
  cases body with
  | map entries => exact ⟨Metadata.nodup_keys_flatten told, Metadata.get?_flatten told⟩
  | bool _ | int _ | float _ | text _ =>
      cases told
      exact ⟨List.nodup_singleton _, fun name => Table.get?_cons _ [] name⟩
  | _ =>
      cases told
      exact ⟨Table.nodup_keys_nil, fun name => (ite_self none).symm⟩

theorem get?_nestedMetadata {nested : Value} (told : nestedMetadata nested = .ok table) :
    table.keys.Nodup ∧ ∀ name, table.get? name = nestedScalar nested name := by
  cases nested with
  | map entries => exact ⟨Metadata.nodup_keys_flatten told, Metadata.get?_flatten told⟩
  | _ =>
      cases told
      exact ⟨Table.nodup_keys_nil, fun name => rfl⟩

theorem get?_mappedMetadata (told : mappedMetadata mapped = .ok table) (name : String) :
    table.get? name = mapped.findSome? fun entry =>
      if isAttribute entry.1 = false ∧ entry.1.shown = .ok name then Scalar.ofValue? entry.2
      else none := by
  induction mapped generalizing table with
  | nil =>
      cases told
      rfl
  | cons first rest induction =>
      obtain ⟨target, value⟩ := first
      unfold mappedMetadata at told
      rw [List.findSome?_cons]
      split at told
      · next isOwn =>
          simp only [isOwn, Bool.true_eq_false, false_and, if_false]
          exact induction told
      · next notOwn =>
          rw [Bool.not_eq_true] at notOwn
          split at told
          · next missing =>
              simp only [missing, ite_self]
              exact induction told
          · next scalar found =>
              obtain ⟨shown, isShown, afterShown⟩ := bind_eq_ok_iff.mp told
              obtain ⟨others, othersTold, made⟩ := bind_eq_ok_iff.mp afterShown
              cases made
              rw [Table.get?_cons, induction othersTold]
              by_cases same : name = shown
              · simp [notOwn, isShown, found, same]
              · simp [isShown, same, Ne.symm same]

theorem keys_mappedMetadata (told : mappedMetadata mapped = .ok table) :
    (table.keys.map Except.ok).Sublist (mapped.map fun entry => entry.1.shown) := by
  induction mapped generalizing table with
  | nil =>
      cases told
      exact .slnil
  | cons first rest induction =>
      obtain ⟨target, value⟩ := first
      unfold mappedMetadata at told
      split at told
      · exact (induction told).cons _
      · split at told
        · exact (induction told).cons _
        · obtain ⟨shown, isShown, afterShown⟩ := bind_eq_ok_iff.mp told
          obtain ⟨others, othersTold, made⟩ := bind_eq_ok_iff.mp afterShown
          cases made
          rw [List.map_cons, isShown]
          exact (induction othersTold).cons_cons _

theorem nodup_keys_mappedMetadata {expanded : Value} (own : HasOwnTargets mappings)
    (mappedTold : applied expanded mappings = .ok mapped)
    (told : mappedMetadata mapped = .ok table) : table.keys.Nodup := by
  have ownMapped : (mapped.map fun entry => entry.1.shown).Nodup := by
    rw [applied_eq mappedTold, List.Nodup, List.pairwise_map, List.pairwise_filterMap]
    refine own.imp fun {first second} apart => ?_
    rintro _ one _ other
    obtain ⟨_, _, rfl⟩ := Option.map_eq_some_iff.mp one
    obtain ⟨_, _, rfl⟩ := Option.map_eq_some_iff.mp other
    exact apart
  exact List.Nodup.of_map _ (ownMapped.sublist (keys_mappedMetadata told))

theorem get?_mapped {expanded : Value} (mappedTold : applied expanded mappings = .ok mapped)
    (told : mappedMetadata mapped = .ok table) (name : String) :
    table.get? name = mappedScalar expanded mappings name := by
  rw [get?_mappedMetadata told, applied_eq mappedTold, mappedScalar, ← List.head?_filterMap,
    ← List.head?_filterMap, List.filterMap_filterMap]
  refine congrArg _ (List.filterMap_congr fun entry _ => ?_)
  cases valueAt expanded entry.2 with
  | some value => rfl
  | none => exact (ite_self none).symm

theorem filter_putEntry_body (body : Value) (raw : Entries) :
    (Value.putEntry (.text bodyKey) body raw).filter (fun entry => !isReserved entry.1) =
      raw.filter fun entry => !isReserved entry.1 := by
  have reserved : isReserved (.text bodyKey) = true := by decide
  induction raw with
  | nil => simp [Value.putEntry, reserved]
  | cons first rest induction =>
      rw [Value.putEntry]
      split
      · next same => simp [Value.same_text_iff.mp same, reserved]
      · rw [List.filter_cons, List.filter_cons, induction]

theorem Expands.filter_eq (expands : Expands raw expanded) :
    expanded.filter (fun entry => !isReserved entry.1) =
      raw.filter fun entry => !isReserved entry.1 := by
  cases expands with
  | bodiless _ => rfl
  | @body _ final _ _ => exact filter_putEntry_body final raw

theorem foldlM_eq_putAll {step : Table Scalar → Value × Value → Except Fault (Table Scalar)}
    (writes : ∀ table name (scalar : Scalar),
      step table (.text name, scalar.toValue) = .ok (table.put name scalar))
    (table entries : Table Scalar) :
    (entries.map fun entry => (Value.text entry.1, entry.2.toValue)).foldlM step table =
      .ok (table.putAll entries) := by
  induction entries generalizing table with
  | nil => rfl
  | cons first rest induction =>
      rw [List.map_cons, List.foldlM_cons, writes]
      exact induction (table.put first.1 first.2)

theorem readMetadata_of_nodup (nodup : table.keys.Nodup) :
    SecurityEvent.readMetadata (table.map fun entry => (.text entry.1, entry.2.toValue)) =
      .ok table := by
  have whole : Table.putAll [] table = table :=
    Table.putAll_of_nodup (show (Table.keys ([] ++ table)).Nodup from nodup)
  unfold SecurityEvent.readMetadata
  rw [foldlM_eq_putAll fun table name scalar => by rw [Scalar.ofValue?_toValue]; rfl, whole]

/-- The metadata of an event holds under each name the first scalar that is given there: by a
mapping, by the nested metadata, by the body, or by the other entries. It passes the check that
events make of theirs. -/
theorem metadata_precedence {drafted : EventDraft} (own : HasOwnTargets mappings)
    (told : draft (.map mappings) raw = .ok drafted) :
    ∃ expanded, Expands raw expanded ∧
      (∀ name, drafted.metadata.get? name =
        (mappedScalar (.map expanded) mappings name).or
          ((nestedScalar (Value.entry raw metadataKey) name).or
            ((bodyScalar (Value.entry expanded bodyKey) name).or
              (Metadata.scalarAt (raw.filter fun entry => !isReserved entry.1) name)))) ∧
      SecurityEvent.readMetadata
          (drafted.metadata.map fun entry => (.text entry.1, entry.2.toValue)) =
        .ok drafted.metadata := by
  obtain ⟨expanded, mapped, expandTold, mappedTold, drafts⟩ := draft_eq_ok_iff.mp told
  have expands := expands_of_expand expandTold
  obtain ⟨body, bodyTold, afterBody⟩ := bind_eq_ok_iff.mp drafts.metadata
  obtain ⟨nested, nestedTold, afterNested⟩ := bind_eq_ok_iff.mp afterBody
  obtain ⟨others, othersTold, afterOthers⟩ := bind_eq_ok_iff.mp afterNested
  obtain ⟨given, givenTold, made⟩ := bind_eq_ok_iff.mp afterOthers
  rw [expands.entry_of_ne (by decide)] at nestedTold
  rw [expands.filter_eq] at othersTold
  obtain ⟨bodyNodup, bodyAt⟩ := get?_bodyMetadata bodyTold
  obtain ⟨nestedNodup, nestedAt⟩ := get?_nestedMetadata nestedTold
  have givenNodup := nodup_keys_mappedMetadata own mappedTold givenTold
  have metadata := pure_eq_ok_iff.mp made
  refine ⟨expanded, expands, fun name => ?_, readMetadata_of_nodup ?_⟩
  · rw [← metadata, Table.get?_putAll, Table.get?_reverse givenNodup, get?_mapped mappedTold givenTold,
      Table.get?_foldl_putMissing, Table.get?_putAll, Table.get?_reverse nestedNodup, nestedAt,
      bodyAt, Metadata.get?_flatten othersTold, Option.or_assoc]
  · rw [← metadata]
    exact Table.nodup_keys_putAll (Table.nodup_keys_foldl_putMissing
      (Table.nodup_keys_putAll bodyNodup nested) others) given

/-- A raw mapping in which each source gives something under the name of another one, with some
entries at the end of its body. -/
def crossedEntries (lifted : Entries) : Entries :=
  [(.text "user", .text "b"), (.text "host.name", .text "web-1"),
    (.text "body", .map ([(.text "user", .text "a"),
      (.text "EventData", .map [(.text "user", .int 1), (.text "port", .int 22)])] ++ lifted)),
    (.text "metadata", .map [(.text "alias", .text "c")])]

def aliasMappings : Entries :=
  [(.text "alias", .text "host.name")]

theorem expand_crossedEntries :
    expand (crossedEntries []) = .ok (crossedEntries [(.text "port", .int 22)]) :=
  rfl

theorem firstFilled_crossedEntries (lifted : Entries) :
    firstFilled (.map (crossedEntries lifted)) ["host.name"] = some (.text "web-1") := by
  have path : Text.splitOn '.' "host.name" = ["host", "name"] := by decide +kernel
  rw [firstFilled, Value.atPath, path]
  rfl

theorem mappedScalar_aliasMappings (lifted : Entries) (name : String) :
    mappedScalar (.map (crossedEntries lifted)) aliasMappings name =
      if "alias" = name then some (.text "web-1") else none := by
  have notOwn : isAttribute (.text "alias") = false := rfl
  simp only [mappedScalar, aliasMappings, List.findSome?_cons, List.findSome?_nil, notOwn,
    valueAt_text, firstFilled_crossedEntries, Value.shown, Except.ok.injEq, true_and]
  by_cases same : "alias" = name
  · simp only [if_pos same]
    rfl
  · simp only [if_neg same]

theorem exists_draft_crossedEntries :
    ∃ drafted, draft (.map aliasMappings) (crossedEntries []) = .ok drafted := by
  have mapped (lifted : Entries) : applied (.map (crossedEntries lifted)) aliasMappings =
      .ok [(.text "alias", .text "web-1")] := by
    refine bind_eq_ok_iff.mpr ⟨["host.name"], rfl, bind_eq_ok_iff.mpr ⟨[], rfl, ?_⟩⟩
    rw [firstFilled_crossedEntries]
    rfl
  exact ⟨⟨_, _, _, _, _, _, _, _⟩, draft_eq_ok_iff.mpr ⟨_, _, expand_crossedEntries, mapped _,
    rfl, rfl, rfl, rfl, rfl, rfl, rfl, rfl⟩⟩

/-- A mapping goes before the nested metadata, and the body before the rest; what the body lacks
it takes from its event data. -/
theorem crossed_names_are_resolved :
    HasOwnTargets aliasMappings ∧
      ∃ drafted, draft (.map aliasMappings) (crossedEntries []) = .ok drafted ∧
        drafted.metadata.get? "alias" = some (.text "web-1") ∧
        drafted.metadata.get? "user" = some (.text "a") ∧
        drafted.metadata.get? "port" = some (.int 22) ∧
        drafted.metadata.get? "host.name" = some (.text "web-1") := by
  have own : HasOwnTargets aliasMappings := List.pairwise_singleton _ _
  obtain ⟨drafted, told⟩ := exists_draft_crossedEntries
  obtain ⟨expanded, expands, each, _⟩ := metadata_precedence own told
  obtain rfl := expands.unique (expands_of_expand expand_crossedEntries)
  refine ⟨own, drafted, told, ?_, ?_, ?_, ?_⟩
  all_goals
    rw [each, mappedScalar_aliasMappings]
    rfl

end EventMapping

end ThreatWatch
