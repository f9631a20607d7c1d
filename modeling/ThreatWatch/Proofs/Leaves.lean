import ThreatWatch.Proofs.Grouping
import ThreatWatch.Proofs.Lookups
import ThreatWatch.Proofs.Shortness

/-! The scalars of nested mappings. Flattening a mapping writes the scalars in it into a table,
one after the other as a walk through the mapping meets them, each by the path of the keys that
lead to it. The names in the table are therefore in the order in which they are met first, and
each holds the scalar that is met last. -/

namespace ThreatWatch

theorem Scalar.eq_toValue_of_ofValue? {value : Value} {scalar : Scalar}
    (told : ofValue? value = some scalar) : value = scalar.toValue := by
  cases value <;> cases told <;> rfl

/-! ## Tables written from tables -/

namespace Table

variable {α : Type} {key other : String}

theorem put_put_self (table : Table α) (old value : α) :
    (table.put key old).put key value = table.put key value := by
  induction table with
  | nil => simp [put]
  | cons entry rest induction =>
      obtain ⟨first, held⟩ := entry
      by_cases same : first = key
      · simp [put, same]
      · simp [put, same, induction]

theorem put_comm {table : Table α} (apart : other ≠ key) (settled : key ∈ table.keys)
    (value item : α) :
    (table.put other item).put key value = (table.put key value).put other item := by
  induction table with
  | nil => cases settled
  | cons entry rest induction =>
      obtain ⟨first, held⟩ := entry
      by_cases isKey : first = key
      · subst isKey
        simp [put, apart.symm]
      · have later : key ∈ keys rest := (List.mem_cons.mp settled).resolve_left (Ne.symm isKey)
        by_cases isOther : first = other
        · subst isOther
          simp [put, apart]
        · simp [put, isKey, isOther, induction later]

theorem put_putAll {table entries : Table α} (settled : key ∈ table.keys)
    (absent : key ∉ entries.keys) (value : α) :
    (table.putAll entries).put key value = (table.put key value).putAll entries := by
  induction entries generalizing table with
  | nil => rfl
  | cons first rest induction =>
      have apart : first.1 ≠ key := fun same => absent (List.mem_cons.mpr (.inl same.symm))
      have absentLater : key ∉ keys rest := fun member => absent (List.mem_cons_of_mem _ member)
      have settledLater : key ∈ (table.put first.1 first.2).keys := mem_keys_put.mpr (.inr settled)
      rw [putAll, List.foldl_cons, ← putAll, induction settledLater absentLater,
        put_comm apart settled]
      rfl

theorem putAll_put {entries : Table α} (nodup : entries.keys.Nodup) (table : Table α)
    (value : α) :
    table.putAll (entries.put key value) = (table.putAll entries).put key value := by
  induction entries generalizing table with
  | nil => rfl
  | cons entry rest induction =>
      obtain ⟨first, held⟩ := entry
      obtain ⟨absent, restNodup⟩ := List.nodup_cons.mp nodup
      by_cases same : first = key
      · subst same
        have written : first ∈ (table.put first held).keys := mem_keys_put.mpr (.inl rfl)
        have whole := put_putAll written absent value
        rw [put_put_self] at whole
        simpa [put, putAll] using whole.symm
      · simpa [put, same, putAll] using induction restNodup (table.put first held)

theorem putAll_putAll (table entries : Table α) :
    table.putAll (putAll [] entries) = table.putAll entries := by
  induction entries using List.reverseRecOn with
  | nil => rfl
  | append_singleton before last induction =>
      have nodup : (putAll [] before).keys.Nodup := nodup_keys_putAll nodup_keys_nil before
      have after (start : Table α) :
          start.putAll (before ++ [last]) = (start.putAll before).put last.1 last.2 := by
        rw [putAll, List.foldl_append]
        rfl
      rw [after, after, putAll_put nodup, induction]

theorem eraseDups_append_cons_of_mem {names others : List String} (told : key ∈ names) :
    (names ++ key :: others).eraseDups = (names ++ others).eraseDups := by
  rw [List.eraseDups_append, List.eraseDups_append, List.cons_removeAll]
  simp [told]

theorem keys_putAll {table : Table α} (nodup : table.keys.Nodup) (entries : Table α) :
    (table.putAll entries).keys = (table.keys ++ entries.keys).eraseDups := by
  induction entries generalizing table with
  | nil =>
      have noKeys : keys ([] : Table α) = [] := rfl
      rw [noKeys, List.append_nil, eraseDups_eq_self nodup]
      rfl
  | cons first rest induction =>
      have followed : keys (first :: rest) = first.1 :: keys rest := rfl
      rw [putAll, List.foldl_cons, ← putAll, induction (nodup_keys_put nodup _ _), keys_put,
        followed]
      split
      · next told => rw [eraseDups_append_cons_of_mem told]
      · rw [List.append_assoc, List.singleton_append]

def after (start : String) (table : Table α) : Table α :=
  table.map fun entry => (start ++ entry.1, entry.2)

theorem after_append (start : String) (table entries : Table α) :
    after start (table ++ entries) = after start table ++ after start entries :=
  List.map_append

theorem after_after (start middle : String) (table : Table α) :
    after start (after middle table) = after (start ++ middle) table := by
  simp [after, String.append_assoc]

theorem keys_after (start : String) (table : Table α) :
    (after start table).keys = table.keys.map (start ++ ·) := by
  simp [after, keys]

theorem reverse_after (start : String) (table : Table α) :
    (after start table).reverse = after start table.reverse :=
  List.map_reverse.symm

theorem get?_after (start : String) (table : Table α) (key : String) :
    (after start table).get? (start ++ key) = table.get? key := by
  induction table with
  | nil => rfl
  | cons first rest induction =>
      have followed : after start (first :: rest) =
          (start ++ first.1, first.2) :: after start rest := rfl
      rw [followed, get?_cons, get?_cons, induction]
      simp

end Table

/-! ## Walks through nested mappings -/

/-- An entry somewhere in a nested mapping: the keys of the mappings around it from the
outermost one, its own key, and its value. -/
structure Place where
  way : List Value
  key : Value
  value : Value

namespace Place

def under (outer : Value) (place : Place) : Place :=
  { place with way := outer :: place.way }

def keyText (key : Value) : String :=
  key.shown.toOption.getD ""

def path (place : Place) : String :=
  Text.join "." ((place.way ++ [place.key]).map keyText)

theorem path_under (outer : Value) (place : Place) :
    (place.under outer).path = keyText outer ++ "." ++ place.path := by
  have filled : (place.way ++ [place.key]).map keyText ≠ [] := by simp
  rw [path, path, under, List.cons_append, List.map_cons, Text.join, Text.join,
    String.intercalate_cons_of_ne_nil filled]

theorem path_outermost (key value : Value) : path ⟨[], key, value⟩ = keyText key :=
  @String.intercalate_singleton "." (keyText key)

def scalar? (place : Place) : Option (String × Scalar) :=
  (Scalar.ofValue? place.value).map fun scalar => (place.path, scalar)

def scalars (places : List Place) : Table Scalar :=
  places.filterMap scalar?

theorem scalars_outermost (key value : Value) (start : String) :
    (scalars [⟨[], key, value⟩]).after start =
      ((Scalar.ofValue? value).map fun scalar => (start ++ keyText key, scalar)).toList := by
  rw [scalars, List.filterMap_cons, scalar?, path_outermost]
  cases Scalar.ofValue? value <;> rfl

theorem scalars_map_under (outer : Value) (places : List Place) :
    scalars (places.map (under outer)) = (scalars places).after (keyText outer ++ ".") := by
  rw [scalars, List.filterMap_map, scalars, Table.after, List.map_filterMap]
  refine List.filterMap_congr fun place _ => ?_
  rw [Function.comp_apply, scalar?, scalar?, path_under, Option.map_map]
  rfl

end Place

namespace Value

mutual

/-- The places in a mapping at any depth. A mapping comes before the places inside of it, and
these before the entries after it. -/
def places : List (Value × Value) → List Place
  | [] => []
  | (key, value) :: rest =>
      ⟨[], key, value⟩ :: (placesIn value).map (Place.under key) ++ places rest

def placesIn : Value → List Place
  | .map entries => places entries
  | _ => []

end

end Value

namespace Place

def AreNamed (places : List Place) : Prop :=
  ∀ place ∈ places, ∃ text, place.key.shown = .ok text

theorem areNamed_places_cons_iff (key value : Value) (rest : List (Value × Value)) :
    AreNamed (Value.places ((key, value) :: rest)) ↔
      (∃ text, key.shown = .ok text) ∧ AreNamed (Value.placesIn value) ∧
        AreNamed (Value.places rest) := by
  simp only [AreNamed, Value.places, List.cons_append, List.forall_mem_cons,
    List.forall_mem_append, List.forall_mem_map]
  rfl

mutual

theorem areNamed_places : ∀ {entries : List (Value × Value)}, Value.AreShort entries →
    AreNamed (Value.places entries)
  | [], _ => by simp [AreNamed, Value.places]
  | (key, value) :: rest, short => by
      obtain ⟨⟨keyShort, valueShort⟩, others⟩ := List.forall_mem_cons.mp short
      rw [areNamed_places_cons_iff]
      exact ⟨keyShort.exists_shown, areNamed_placesIn valueShort, areNamed_places others⟩

theorem areNamed_placesIn : ∀ {value : Value}, value.IsShort → AreNamed (Value.placesIn value)
  | .map _, short => areNamed_places (Value.isShort_map_iff.mp short)
  | .null, _ | .bytes _, _ | .date _, _ | .moment _, _ | .list _, _ | .tuple _, _ | .set _, _
  | .sealed _, _ | .bool _, _ | .int _, _ | .float _, _ | .text _, _ => by
      simp [AreNamed, Value.placesIn]

end

end Place

/-! ## Flat metadata -/

namespace Metadata

open Place (AreNamed keyText scalars)
open Value (places placesIn)

mutual

/-- The scalars in the entries of a mapping at any depth, in order, with the keys that lead to
them joined by dots after a start. -/
def leaves (start : String) : List (Value × Value) → Table Scalar
  | [] => []
  | (key, value) :: rest =>
      leavesOf (start ++ key.shown.toOption.getD "") value ++ leaves start rest

def leavesOf (name : String) : Value → Table Scalar
  | .map entries => leaves (name ++ ".") entries
  | .bool flag => [(name, .bool flag)]
  | .int number => [(name, .int number)]
  | .float number => [(name, .float number)]
  | .text content => [(name, .text content)]
  | _ => []

end

/-- What flattening comes to: a table, unless a key on the way has too many digits to be
written. -/
inductive Flattens (within : List Place) (table : Table Scalar) :
    Except Fault (Table Scalar) → Prop where
  | written (named : AreNamed within) : Flattens within table (.ok table)
  | unwritten (unnamed : ¬AreNamed within) : Flattens within table (.error .tooManyDigits)

mutual

theorem flattens_into : ∀ (entries : List (Value × Value)) (table : Table Scalar)
    (start : String), Flattens (places entries) (table.putAll (leaves start entries))
      (flattenInto table start entries)
  | [], table, start => by
      rw [flattenInto]
      exact .written (by simp [AreNamed, places])
  | (key, value) :: rest, table, start => by
      have named := Place.areNamed_places_cons_iff key value rest
      rw [flattenInto]
      cases shown : key.shown with
      | error fault =>
          obtain ⟨_, rfl⟩ := Value.shown_eq_error shown
          exact .unwritten fun all => by simp [named, shown] at all
      | ok text =>
          have here := flattens_value value table (start ++ text)
          have later := flattens_into rest (table.putAll (leavesOf (start ++ text) value)) start
          have whole : table.putAll (leaves start ((key, value) :: rest)) =
              (table.putAll (leavesOf (start ++ text) value)).putAll (leaves start rest) := by
            rw [leaves, shown]
            exact List.foldl_append
          rw [whole]
          change Flattens _ _ (flattenValue table (start ++ text) value >>= fun table =>
            flattenInto table start rest)
          generalize flattenValue table (start ++ text) value = outcome at here ⊢
          cases here with
          | unwritten unnamed => exact .unwritten fun all => unnamed (named.mp all).2.1
          | written hereNamed =>
              change Flattens _ _ (flattenInto _ start rest)
              generalize flattenInto _ start rest = outcome at later ⊢
              cases later with
              | unwritten unnamed => exact .unwritten fun all => unnamed (named.mp all).2.2
              | written laterNamed =>
                  exact .written (named.mpr ⟨⟨text, shown⟩, hereNamed, laterNamed⟩)

theorem flattens_value : ∀ (value : Value) (table : Table Scalar) (name : String),
    Flattens (placesIn value) (table.putAll (leavesOf name value)) (flattenValue table name value)
  | .map entries, table, name => by
      have inside := flattens_into entries [] (name ++ ".")
      rw [flattenValue, placesIn, leavesOf]
      generalize flattenInto [] (name ++ ".") entries = outcome at inside
      cases inside with
      | unwritten unnamed => exact .unwritten unnamed
      | written named =>
          have inner := table.putAll_putAll (leaves (name ++ ".") entries)
          rw [← inner]
          exact .written named
  | .null, table, name | .bytes _, table, name | .date _, table, name | .moment _, table, name
  | .list _, table, name | .tuple _, table, name | .set _, table, name
  | .sealed _, table, name | .bool _, table, name | .int _, table, name
  | .float _, table, name | .text _, table, name => by
      simp only [flattenValue, placesIn, leavesOf]
      exact .written (by simp [AreNamed])

end

theorem flattens (start : String) (entries : List (Value × Value)) :
    Flattens (places entries) (Table.putAll [] (leaves start entries)) (flatten start entries) :=
  flattens_into entries [] start

theorem exists_flatten_of_areNamed {entries : List (Value × Value)}
    (named : AreNamed (places entries)) (start : String) :
    ∃ table, flatten start entries = .ok table := by
  have outcome := flattens start entries
  generalize flatten start entries = flat at outcome ⊢
  cases outcome with
  | written => exact ⟨_, rfl⟩
  | unwritten unnamed => exact absurd named unnamed

theorem exists_flatten {entries : List (Value × Value)} (short : Value.AreShort entries)
    (start : String) : ∃ table, flatten start entries = .ok table :=
  exists_flatten_of_areNamed (Place.areNamed_places short) start

theorem flatten_eq_ok {start : String} {entries : List (Value × Value)} {table : Table Scalar}
    (told : flatten start entries = .ok table) :
    table = Table.putAll [] (leaves start entries) := by
  have outcome := flattens start entries
  rw [told] at outcome
  cases outcome
  rfl

mutual

theorem leaves_eq : ∀ (entries : List (Value × Value)) (start : String),
    leaves start entries = (scalars (places entries)).after start
  | [], start => rfl
  | (key, value) :: rest, start => by
      have parts : scalars (places ((key, value) :: rest)) =
          scalars [⟨[], key, value⟩] ++
            ((scalars (placesIn value)).after (keyText key ++ ".") ++ scalars (places rest)) := by
        rw [← Place.scalars_map_under, scalars, scalars, scalars, scalars, ← List.filterMap_append,
          ← List.filterMap_append]
        rfl
      rw [leaves, leaves_eq rest start, leavesOf_eq value, parts, Table.after_append,
        Table.after_append, Table.after_after, Place.scalars_outermost, String.append_assoc,
        List.append_assoc]
      rfl

theorem leavesOf_eq : ∀ (value : Value) (name : String),
    leavesOf name value = ((Scalar.ofValue? value).map fun scalar => (name, scalar)).toList ++
      (scalars (placesIn value)).after (name ++ ".")
  | .map entries, name => by
      rw [leavesOf, leaves_eq entries]
      rfl
  | .null, _ | .bytes _, _ | .date _, _ | .moment _, _ | .list _, _ | .tuple _, _ | .set _, _
  | .sealed _, _ | .bool _, _ | .int _, _ | .float _, _ | .text _, _ => by
      simp only [leavesOf, placesIn]
      rfl

end

theorem exists_place_of_mem_flatten {start : String} {entries : List (Value × Value)}
    {table : Table Scalar} (told : flatten start entries = .ok table) {entry : String × Scalar}
    (member : entry ∈ table) :
    ∃ place ∈ places entries, start ++ place.path = entry.1 ∧ place.value = entry.2.toValue := by
  rw [flatten_eq_ok told, leaves_eq] at member
  have nodup :=
    Table.nodup_keys_putAll Table.nodup_keys_nil ((scalars (places entries)).after start)
  have found := Table.get?_eq_some_of_mem nodup member
  rw [Table.get?_putAll, show Table.get? [] entry.1 = (none : Option Scalar) from rfl,
    Option.or_none] at found
  have written := List.mem_reverse.mp (Table.mem_of_get?_eq_some found)
  obtain ⟨leaf, leafMember, same⟩ := List.mem_map.mp written
  obtain ⟨place, placeMember, isLeaf⟩ := List.mem_filterMap.mp leafMember
  obtain ⟨scalar, isScalar, rfl⟩ := Option.map_eq_some_iff.mp isLeaf
  obtain ⟨path, held⟩ := Prod.mk.inj same
  exact ⟨place, placeMember, path, held ▸ Scalar.eq_toValue_of_ofValue? isScalar⟩

theorem countP_isScalar (within : List Place) :
    within.countP (fun place => place.value.isScalar) = (scalars within).length := by
  rw [scalars, List.length_filterMap_eq_countP]
  refine List.countP_congr fun place _ => ?_
  rw [Place.scalar?, Option.isSome_map, Scalar.isSome_ofValue?]

/-- Flat metadata has a name for each path that leads to a scalar, in the order in which a walk
through the mapping meets them first, and under each name the scalar that the walk meets last.
Only a key that cannot be written is in the way of it. -/
theorem flatten_lists_scalars (start : String) (entries : List (Value × Value)) :
    (AreNamed (places entries) →
      ∃ table, flatten start entries = .ok table ∧
        table.keys = ((scalars (places entries)).keys.map (start ++ ·)).eraseDups ∧
        (∀ path, table.get? (start ++ path) =
          Table.get? (scalars (places entries)).reverse path) ∧
        ((scalars (places entries)).keys.Nodup →
          table.length = (places entries).countP fun place => place.value.isScalar)) ∧
    (¬AreNamed (places entries) → flatten start entries = .error .tooManyDigits) := by
  have outcome := flattens start entries
  rw [leaves_eq] at outcome
  generalize flatten start entries = flat at outcome ⊢
  cases outcome with
  | unwritten unnamed => exact ⟨fun named => absurd named unnamed, fun _ => rfl⟩
  | written named =>
      have keys : (Table.putAll [] ((scalars (places entries)).after start)).keys =
          ((scalars (places entries)).keys.map (start ++ ·)).eraseDups := by
        rw [Table.keys_putAll Table.nodup_keys_nil, Table.keys_after]
        rfl
      refine ⟨fun _ => ⟨_, rfl, keys, fun path => ?_, fun apart => ?_⟩, absurd named⟩
      · rw [Table.get?_putAll, Table.reverse_after, Table.get?_after]
        exact Option.or_none
      · have distinct : ((scalars (places entries)).keys.map (start ++ ·)).Nodup :=
          apart.map fun _ _ same => (String.append_right_inj start).mp same
        have lengths := congrArg List.length keys
        rw [eraseDups_eq_self distinct, List.length_map] at lengths
        rw [countP_isScalar]
        simpa [Table.keys] using lengths

def collidingEntries : List (Value × Value) :=
  [(.text "a.b", .int 1), (.text "a", .map [(.text "b", .int 2), (.text "c", .list [.int 3])]),
    (.text "d", .text "x")]

theorem later_scalar_of_colliding_path :
    AreNamed (places collidingEntries) ∧ ∃ table, flatten "m." collidingEntries = .ok table ∧
      table.keys = ["m.a.b", "m.d"] ∧ table.get? "m.a.b" = some (.int 2) := by
  have named : AreNamed (places collidingEntries) := by
    simp [AreNamed, places, placesIn, collidingEntries, Place.under, Value.shown]
  obtain ⟨table, told, keys, values, _⟩ := (flatten_lists_scalars "m." collidingEntries).1 named
  refine ⟨named, table, told, ?_, ?_⟩
  · rw [keys]
    decide +kernel
  · exact (values "a.b").trans (by decide +kernel)

end Metadata

end ThreatWatch
