/-! Tables from texts to values that remember in which order their keys came.
Writing an existing key keeps its place and replaces its value. -/

namespace ThreatWatch

abbrev Table (α : Type u) := List (String × α)

namespace Table

variable {α : Type u}

def get? (table : Table α) (key : String) : Option α :=
  List.lookup key table

def has (table : Table α) (key : String) : Bool :=
  (get? table key).isSome

def put (key : String) (value : α) : Table α → Table α
  | [] => [(key, value)]
  | (first, old) :: rest =>
      if first = key then (first, value) :: rest else (first, old) :: put key value rest

def putMissing (key : String) (value : α) (table : Table α) : Table α :=
  if has table key then table else put key value table

def putAll (table entries : Table α) : Table α :=
  entries.foldl (fun result entry => put entry.1 entry.2 result) table

def ofEntries (entries : Table α) : Table α :=
  putAll [] entries

def keys (table : Table α) : List String :=
  table.map Prod.fst

theorem get?_put_self (table : Table α) (key : String) (value : α) :
    get? (put key value table) key = some value := by
  induction table with
  | nil => simp [put, get?]
  | cons entry rest induction =>
      obtain ⟨first, old⟩ := entry
      simp only [put]
      split
      · next equal => simp [get?, equal]
      · next different =>
          have unequal : (key == first) = false := by
            simpa using fun equal => different equal.symm
          simpa [get?, List.lookup_cons, unequal] using induction

theorem get?_put_of_ne (table : Table α) {key other : String} (value : α)
    (different : other ≠ key) : get? (put key value table) other = get? table other := by
  have unequal : (other == key) = false := by simpa using different
  induction table with
  | nil => simp [put, get?, List.lookup_cons, unequal]
  | cons entry rest induction =>
      obtain ⟨first, old⟩ := entry
      simp only [put]
      split
      · next equal => subst equal; simp [get?, List.lookup_cons, unequal]
      · simp only [get?, List.lookup_cons] at induction ⊢
        split <;> simp_all

theorem keys_put (table : Table α) (key : String) (value : α) :
    keys (put key value table) = if key ∈ keys table then keys table else keys table ++ [key] := by
  induction table with
  | nil => simp [put, keys]
  | cons entry rest induction =>
      obtain ⟨first, old⟩ := entry
      simp only [put, keys] at induction ⊢
      by_cases equal : first = key
      · simp [equal]
      · have unequal : key ≠ first := fun same => equal same.symm
        simp only [equal, if_false, List.map_cons, induction, List.mem_cons, unequal, false_or]
        split <;> simp_all

theorem mem_of_get?_eq_some {table : Table α} {key : String} {value : α}
    (found : get? table key = some value) : (key, value) ∈ table := by
  induction table with
  | nil => simp [get?] at found
  | cons entry rest induction =>
      obtain ⟨first, old⟩ := entry
      simp only [get?, List.lookup_cons] at found induction
      split at found
      · next equal => simp_all
      · exact List.mem_cons_of_mem _ (induction found)

theorem get?_eq_none_iff {table : Table α} {key : String} :
    get? table key = none ↔ key ∉ keys table := by
  constructor
  · intro missing member
    rcases List.mem_map.mp member with ⟨entry, entryMember, equal⟩
    have unequal := List.lookup_eq_none_iff.mp missing entry entryMember
    simp [equal] at unequal
  · intro absent
    refine List.lookup_eq_none_iff.mpr fun entry member => ?_
    have unequal : key ≠ entry.1 := fun equal => absent (equal ▸ List.mem_map_of_mem member)
    simpa using unequal

theorem get?_eq_some_of_mem {table : Table α} (nodup : (keys table).Nodup) {entry : String × α}
    (member : entry ∈ table) : get? table entry.1 = some entry.2 := by
  induction table with
  | nil => cases member
  | cons head rest induction =>
      rcases List.nodup_cons.mp nodup with ⟨absent, restNodup⟩
      unfold get? at induction ⊢
      rw [List.lookup_cons]
      rcases List.mem_cons.mp member with rfl | later
      · rw [beq_self_eq_true]
      · have different : (entry.1 == head.1) = false :=
          beq_false_of_ne fun equal => absent (equal ▸ List.mem_map_of_mem later)
        rw [different]
        exact induction restNodup later

theorem eq_or_mem_of_mem_put {table : Table α} {key : String} {value : α} {entry : String × α}
    (member : entry ∈ put key value table) : entry = (key, value) ∨ entry ∈ table := by
  induction table with
  | nil => exact .inl (List.mem_singleton.mp member)
  | cons first rest induction =>
      unfold put at member
      split at member
      · next equal =>
          rcases List.mem_cons.mp member with rfl | old
          · exact .inl (by rw [equal])
          · exact .inr (List.mem_cons_of_mem _ old)
      · rcases List.mem_cons.mp member with rfl | later
        · exact .inr List.mem_cons_self
        · exact (induction later).imp_right (List.mem_cons_of_mem _)

theorem mem_put {table : Table α} {key : String} {value : α} {entry : String × α}
    (nodup : (keys table).Nodup) :
    entry ∈ put key value table ↔ entry = (key, value) ∨ (entry ∈ table ∧ entry.1 ≠ key) := by
  induction table with
  | nil => simp [put]
  | cons head rest induction =>
      obtain ⟨first, old⟩ := head
      rcases List.nodup_cons.mp nodup with ⟨absent, restNodup⟩
      have later := induction restNodup
      simp only [put]
      split
      · next equal =>
          subst equal
          have elsewhere : ∀ other ∈ rest, other.1 ≠ first := fun other member same =>
            absent (List.mem_map.mpr ⟨other, member, same⟩)
          simp only [List.mem_cons]
          constructor
          · rintro (rfl | member)
            · exact .inl rfl
            · exact .inr ⟨.inr member, elsewhere _ member⟩
          · rintro (rfl | ⟨rfl | member, different⟩)
            · exact .inl rfl
            · exact absurd rfl different
            · exact .inr member
      · next different =>
          simp only [List.mem_cons, later]
          constructor
          · rintro (rfl | rfl | ⟨member, unequal⟩)
            · exact .inr ⟨.inl rfl, different⟩
            · exact .inl rfl
            · exact .inr ⟨.inr member, unequal⟩
          · rintro (rfl | ⟨rfl | member, unequal⟩)
            · exact .inr (.inl rfl)
            · exact .inl rfl
            · exact .inr (.inr ⟨member, unequal⟩)

theorem put_of_not_mem_keys {table : Table α} {key : String} {value : α}
    (absent : key ∉ keys table) : put key value table = table ++ [(key, value)] := by
  induction table with
  | nil => rfl
  | cons entry rest induction =>
      obtain ⟨first, old⟩ := entry
      have different : first ≠ key := fun equal => absent (equal ▸ List.mem_cons_self)
      have absentLater : key ∉ keys rest := fun member => absent (List.mem_cons_of_mem _ member)
      rw [put, if_neg different, induction absentLater, List.cons_append]

theorem mem_keys_put {table : Table α} {key other : String} {value : α} :
    other ∈ keys (put key value table) ↔ other = key ∨ other ∈ keys table := by
  rw [keys_put]
  split
  · next present =>
      constructor
      · exact .inr
      · rintro (rfl | member)
        · exact present
        · exact member
  · simp [or_comm]

theorem length_put (table : Table α) (key : String) (value : α) :
    (put key value table).length =
      if key ∈ keys table then table.length else table.length + 1 := by
  have lengths := congrArg List.length (keys_put table key value)
  unfold keys at lengths ⊢
  rw [List.length_map] at lengths
  rw [lengths]
  split <;> simp

theorem nodup_keys_put {table : Table α} (nodup : (keys table).Nodup) (key : String) (value : α) :
    (keys (put key value table)).Nodup := by
  rw [keys_put]
  split
  · exact nodup
  · next absent => exact List.nodup_append.mpr ⟨nodup, by simp, by grind⟩

/-! ## Changing the values -/

theorem get?_map {β : Type v} (change : α → β) (table : Table α) (key : String) :
    get? (table.map fun entry => (entry.1, change entry.2)) key = (get? table key).map change := by
  unfold get?
  induction table with
  | nil => rfl
  | cons entry rest induction =>
      rw [List.map_cons, List.lookup_cons, List.lookup_cons]
      cases key == entry.1 with
      | true => rfl
      | false => exact induction

theorem put_map {β : Type v} (change : α → β) (table : Table α) (key : String) (value : α) :
    (put key value table).map (fun entry => (entry.1, change entry.2)) =
      put key (change value) (table.map fun entry => (entry.1, change entry.2)) := by
  induction table with
  | nil => rfl
  | cons entry rest induction =>
      obtain ⟨first, old⟩ := entry
      simp only [List.map_cons, put]
      split
      · rfl
      · rw [List.map_cons, induction]

end Table

end ThreatWatch
