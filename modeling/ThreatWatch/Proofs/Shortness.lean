import ThreatWatch.Event.Metadata
import ThreatWatch.Proofs.Numerals
import ThreatWatch.Proofs.Reading

/-! Values without long integers. What holds no integer of too many digits can be written,
and so can all that it leads to, and a severity can be read from it. -/

namespace ThreatWatch

namespace Value

def IsShort (value : Value) : Prop :=
  ¬value.HoldsLong

def AreShort (entries : List (Value × Value)) : Prop :=
  ∀ entry ∈ entries, entry.1.IsShort ∧ entry.2.IsShort

theorem isShort_of_parts {value : Value} (noInt : ∀ number, value ≠ .int number)
    (parts : ∀ part ∈ value.parts, part.IsShort) : value.IsShort := by
  intro long
  cases long with
  | int => exact noInt _ rfl
  | part member long => exact parts _ member long

theorem isShort_text (content : String) : (text content).IsShort :=
  isShort_of_parts (by simp) (by simp [parts])

theorem isShort_int_of_digits {digits : List Char} (few : digits.length ≤ Numeral.digitLimit)
    (plain : digits.all Numeral.isPlainDigit = true) (negative : Bool) :
    (int (Binary64.withSign negative (Numeral.ofDigits digits))).IsShort := by
  have ordered (low high : Nat) (below : low ≤ high) : Nat.pow 10 low ≤ Nat.pow 10 high :=
    Nat.pow_le_pow_right (by decide) below
  have small := (Numeral.ofDigits_lt plain).trans_le (ordered _ _ few)
  intro long
  cases long with
  | int tooLong =>
      rw [Numeral.writeInt?, Binary64.natAbs_withSign, if_pos small] at tooLong
      cases tooLong
  | part member => cases member

theorem isShort_null : null.IsShort :=
  isShort_of_parts (by simp) (by simp [parts])

theorem isShort_map_iff {entries : List (Value × Value)} :
    (map entries).IsShort ↔ AreShort entries := by
  constructor
  · intro short entry member
    rcases @mem_parts_of_mem_entries entries (map entries) rfl entry member with ⟨key, held⟩
    exact ⟨fun long => short (.part key long), fun long => short (.part held long)⟩
  · intro short
    refine isShort_of_parts (by simp) fun part member => ?_
    rcases List.mem_flatMap.mp member with ⟨entry, entryMember, among⟩
    rcases List.mem_cons.mp among with rfl | among
    · exact (short entry entryMember).1
    · rcases List.mem_singleton.mp among with rfl
      exact (short entry entryMember).2

theorem AreShort.putEntry {entries : List (Value × Value)} (short : AreShort entries)
    {key value : Value} (keyShort : key.IsShort) (valueShort : value.IsShort) :
    AreShort (putEntry key value entries) := by
  induction entries with
  | nil =>
      intro entry member
      rcases List.mem_singleton.mp member with rfl
      exact ⟨keyShort, valueShort⟩
  | cons first rest induction =>
      rcases List.forall_mem_cons.mp short with ⟨here, others⟩
      rw [Value.putEntry]
      split
      · exact List.forall_mem_cons.mpr ⟨⟨here.1, valueShort⟩, others⟩
      · exact List.forall_mem_cons.mpr ⟨here, induction others⟩

theorem areShort_ofEntries {entries : List (Value × Value)} (short : AreShort entries) :
    AreShort (ofEntries entries) := by
  unfold ofEntries
  refine List.foldlRecOn entries _ (by simp [AreShort]) fun table tableShort entry member => ?_
  exact tableShort.putEntry (short entry member).1 (short entry member).2

/-! ## What they give -/

variable {entries : List (Value × Value)} {value : Value}

theorem IsShort.exists_shown (short : value.IsShort) : ∃ text, value.shown = .ok text := by
  cases told : value.shown with
  | ok text => exact ⟨text, rfl⟩
  | error fault => exact absurd (shown_eq_error told).1 short

theorem IsShort.exists_shownOrEmpty (short : value.IsShort) :
    ∃ text, value.shownOrEmpty = .ok text := by
  unfold shownOrEmpty
  split
  · exact short.exists_shown
  · exact ⟨"", rfl⟩

theorem AreShort.isShort_of_lookup? (short : AreShort entries) {key found : Value}
    (told : lookup? entries key = some found) : found.IsShort := by
  rcases Option.map_eq_some_iff.mp told with ⟨entry, among, rfl⟩
  exact (short entry (List.mem_of_find?_eq_some among)).2

theorem AreShort.isShort_entry (short : AreShort entries) (name : String) :
    (entry entries name).IsShort := by
  unfold entry
  cases told : lookup? entries (.text name) with
  | none => exact isShort_null
  | some found => exact short.isShort_of_lookup? told

theorem IsShort.follow (short : value.IsShort) (path : List String) :
    (value.follow path).IsShort := by
  fun_induction Value.follow value path with
  | case1 => exact short
  | case2 key entries => exact (isShort_map_iff.mp short).isShort_entry key
  | case3 => exact isShort_null
  | case4 key rest _ entries found told => exact (isShort_map_iff.mp short).isShort_of_lookup? told
  | case5 key rest _ entries _ induction =>
      exact induction ((isShort_map_iff.mp short).isShort_entry key)
  | case6 => exact isShort_null

theorem IsShort.atPath (short : value.IsShort) (path : String) : (value.atPath path).IsShort :=
  short.follow _

end Value

/-! ## Severities -/

theorem Severity.exists_read {value : Value} (short : value.IsShort) (fallback : Severity) :
    ∃ severity, read value (some fallback) = .ok severity := by
  rcases short.exists_shownOrEmpty with ⟨content, shown⟩
  refine ⟨(ofName? (Text.lower (Text.trim content))).getD fallback,
    bind_eq_ok_iff.mpr ⟨content, shown, ?_⟩⟩
  dsimp only
  cases ofName? (Text.lower (Text.trim content)) <;> rfl

end ThreatWatch
