import ThreatWatch.Value

/-! Writes that leave an entry as it was. A table and a mapping of values give back what
was written under a key, and what other keys hold stays. -/

namespace ThreatWatch

/-! ## Tables -/

namespace Table

variable {α : Type} {table : Table α} {key : String}

theorem get?_putMissing_of_eq_some {value : α} (found : get? table key = some value)
    (name : String) (other : α) : get? (putMissing name other table) key = some value := by
  unfold putMissing
  split
  · exact found
  · next missing =>
      have apart : key ≠ name := by
        rintro rfl
        exact missing (by rw [has, found, Option.isSome_some])
      rw [get?_put_of_ne _ _ apart, found]

theorem get?_append (table entries : Table α) (key : String) :
    get? (table ++ entries) key = (get? table key).or (get? entries key) :=
  List.lookup_append

theorem get?_cons (first : String × α) (rest : Table α) (key : String) :
    get? (first :: rest) key = if key = first.1 then some first.2 else get? rest key := by
  unfold get?
  rw [List.lookup_cons]
  split
  · next same => rw [if_pos (beq_iff_eq.mp same)]
  · next different => rw [if_neg (beq_eq_false_iff_ne.mp different)]

theorem get?_put (table : Table α) (name other : String) (value : α) :
    get? (table.put name value) other = if other = name then some value else get? table other := by
  split
  · next same => rw [same, get?_put_self]
  · next apart => exact get?_put_of_ne table value apart

theorem get?_putAll (table entries : Table α) (key : String) :
    get? (table.putAll entries) key = (get? entries.reverse key).or (get? table key) := by
  induction entries generalizing table with
  | nil => rfl
  | cons first rest induction =>
      rw [putAll, List.foldl_cons, ← putAll, induction, get?_put, List.reverse_cons, get?_append,
        Option.or_assoc, get?_cons]
      split <;> rfl

theorem get?_putAll_of_not_mem {entries : Table α} (absent : key ∉ entries.keys) :
    get? (table.putAll entries) key = get? table key := by
  have absentReversed : key ∉ keys entries.reverse := by
    rwa [keys, List.map_reverse, List.mem_reverse]
  rw [get?_putAll, get?_eq_none_iff.mpr absentReversed, Option.none_or]

theorem get?_reverse (nodup : table.keys.Nodup) (key : String) :
    get? table.reverse key = get? table key := by
  have reversed : keys table.reverse = (keys table).reverse := List.map_reverse
  cases found : get? table key with
  | none => rwa [get?_eq_none_iff, reversed, List.mem_reverse, ← get?_eq_none_iff]
  | some value =>
      have member := List.mem_reverse.mpr (mem_of_get?_eq_some found)
      have nodupReversed : (keys table.reverse).Nodup := by
        rw [reversed]
        exact List.pairwise_reverse.mpr (nodup.imp Ne.symm)
      exact get?_eq_some_of_mem nodupReversed member

theorem get?_foldl_putMissing (table entries : Table α) (key : String) :
    get? (entries.foldl (fun table entry => table.putMissing entry.1 entry.2) table) key =
      (get? table key).or (get? entries key) := by
  induction entries generalizing table with
  | nil => exact Option.or_none.symm
  | cons first rest induction =>
      rw [List.foldl_cons, induction, get?_cons, putMissing, has]
      split
      · next present =>
          split
          · next same =>
              obtain ⟨value, found⟩ := Option.isSome_iff_exists.mp present
              rw [same, found]
              rfl
          · rfl
      · next missing =>
          rw [get?_put]
          split
          · next same =>
              rw [same, Option.not_isSome_iff_eq_none.mp missing]
              rfl
          · rfl

theorem nodup_keys_nil : (keys ([] : Table α)).Nodup :=
  List.nodup_nil

theorem mem_or_mem_of_mem_putAll {table entries : Table α} {entry : String × α}
    (member : entry ∈ table.putAll entries) : entry ∈ table ∨ entry ∈ entries := by
  induction entries generalizing table with
  | nil => exact .inl member
  | cons first rest induction =>
      rcases induction member with before | later
      · rcases eq_or_mem_of_mem_put before with rfl | old
        · exact .inr List.mem_cons_self
        · exact .inl old
      · exact .inr (List.mem_cons_of_mem _ later)

theorem mem_of_mem_ofEntries {entries : Table α} {entry : String × α}
    (member : entry ∈ ofEntries entries) : entry ∈ entries :=
  (mem_or_mem_of_mem_putAll member).resolve_left List.not_mem_nil

theorem nodup_keys_putAll (nodup : table.keys.Nodup) (entries : Table α) :
    (table.putAll entries).keys.Nodup :=
  List.foldlRecOn (motive := fun table : Table α => table.keys.Nodup) entries _ nodup
    fun _ kept entry _ => nodup_keys_put kept entry.1 entry.2

theorem nodup_keys_foldl_putMissing (nodup : table.keys.Nodup) (entries : Table α) :
    (entries.foldl (fun table entry => table.putMissing entry.1 entry.2) table).keys.Nodup := by
  refine List.foldlRecOn (motive := fun table : Table α => table.keys.Nodup) entries _ nodup
    fun table kept entry _ => ?_
  unfold putMissing
  split
  · exact kept
  · exact nodup_keys_put kept entry.1 entry.2

theorem putAll_of_nodup {entries : Table α} (nodup : (keys (table ++ entries)).Nodup) :
    table.putAll entries = table ++ entries := by
  induction entries generalizing table with
  | nil => exact (List.append_nil _).symm
  | cons first rest induction =>
      have absent : first.1 ∉ table.keys := by
        intro member
        rw [keys, List.map_append, List.nodup_append] at nodup
        exact nodup.2.2 _ member _ List.mem_cons_self rfl
      have followed : table ++ first :: rest = (table ++ [first]) ++ rest := by simp
      rw [putAll, List.foldl_cons, ← putAll, put_of_not_mem_keys absent, followed]
      exact induction (followed ▸ nodup)

end Table

/-! ## Mappings of values -/

namespace Value

variable {entries : List (Value × Value)} {value : Value}

theorem same_text_iff {key : Value} {name : String} :
    key.same (.text name) = true ↔ key = .text name := by
  cases key with
  | text content => simp [same]
  | float number => cases number <;> exact iff_of_false Bool.false_ne_true (by simp)
  | _ => exact iff_of_false Bool.false_ne_true (by simp)

theorem entry_putEntry_self (name : String) :
    entry (putEntry (.text name) value entries) name = value := by
  unfold entry lookup?
  induction entries with
  | nil => simp [putEntry, same]
  | cons first rest induction =>
      rw [putEntry]
      split
      · next same => simp [same]
      · next different => simpa [different] using induction

theorem entry_putEntry_of_ne {name other : String} (apart : other ≠ name) :
    entry (putEntry (.text name) value entries) other = entry entries other := by
  have noEntry : (Value.text name).same (.text other) = false := by simpa [same] using apart.symm
  unfold entry lookup?
  induction entries with
  | nil => simp [putEntry, noEntry]
  | cons first rest induction =>
      rw [putEntry]
      split
      · next same =>
          rw [same_text_iff.mp same, List.find?_cons, List.find?_cons]
          simp [same_text_iff.mp same, noEntry]
      · cases found : first.1.same (.text other) with
        | true => simp [found]
        | false => simpa [found] using induction

end Value

end ThreatWatch
