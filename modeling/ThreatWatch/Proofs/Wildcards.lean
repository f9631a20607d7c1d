import ThreatWatch.Proofs.Comparing
import ThreatWatch.Proofs.Texts

/-! Equality with stars. A star stands for any characters, and what stands between two
stars for itself in either letter case. A criterion of this kind accepts a value where all
of it is spelled by the pieces between the stars, or all of it but a line break at its
end. -/

namespace ThreatWatch

/-! ## What pieces spell -/

namespace Text

/-- A text is spelled by pieces where it consists of all of them in their order, each with
characters that agree with its own, and of any characters between two of them. -/
inductive Spells (agrees : Char → Char → Prop) : List (List Char) → List Char → Prop where
  | last {piece written : List Char} (same : List.Forall₂ agrees piece written) :
      Spells agrees [piece] written
  | gap {piece written skipped rest : List Char} {pieces : List (List Char)}
      (same : List.Forall₂ agrees piece written) (later : Spells agrees pieces rest) :
      Spells agrees (piece :: pieces) (written ++ skipped ++ rest)

variable {agrees : Char → Char → Prop} {piece : List Char} {pieces : List (List Char)}
  {content : List Char}

theorem spells_single_iff : Spells agrees [piece] content ↔ List.Forall₂ agrees piece content := by
  constructor
  · intro spells
    cases spells with
    | last same => exact same
    | gap _ later => cases later
  · exact .last

theorem spells_nil_cons_iff (more : pieces ≠ []) :
    Spells agrees ([] :: pieces) content ↔
      ∃ skipped rest, content = skipped ++ rest ∧ Spells agrees pieces rest := by
  constructor
  · intro spells
    cases spells with
    | last => exact absurd rfl more
    | @gap _ _ skipped rest _ same later =>
        cases same
        exact ⟨skipped, rest, rfl, later⟩
  · rintro ⟨skipped, rest, rfl, later⟩
    exact @Spells.gap agrees [] [] skipped rest pieces .nil later

theorem spells_cons_cons_iff {expected : Char} :
    Spells agrees ((expected :: piece) :: pieces) content ↔
      ∃ actual rest, content = actual :: rest ∧ agrees expected actual ∧
        Spells agrees (piece :: pieces) rest := by
  constructor
  · intro spells
    cases spells with
    | last same =>
        cases same with
        | @cons _ actual _ rest here others => exact ⟨actual, rest, rfl, here, .last others⟩
    | gap same later =>
        cases same with
        | cons here others => exact ⟨_, _, rfl, here, .gap others later⟩
  · rintro ⟨actual, rest, rfl, here, spells⟩
    cases spells with
    | last same => exact .last (.cons here same)
    | @gap piece written skipped rest pieces same later =>
        exact @Spells.gap agrees _ (actual :: written) skipped rest pieces (.cons here same) later

theorem Spells.append (spells : Spells agrees pieces content) (several : 1 < pieces.length)
    (empty : pieces.getLast? = some []) (more : List Char) :
    Spells agrees pieces (content ++ more) := by
  induction spells with
  | last => simp at several
  | @gap piece written skipped rest pieces same later induction =>
      cases later with
      | @last piece rest final =>
          obtain rfl : piece = [] := by simpa using empty
          cases final
          have followed :
              written ++ skipped ++ [] ++ more = written ++ (skipped ++ more) ++ [] := by simp
          rw [followed]
          exact .gap same (.last .nil)
      | @gap _ _ _ _ others _ furtherLater =>
          have remaining : 0 < others.length := by cases furtherLater <;> simp
          rw [List.append_assoc]
          exact .gap same (induction (by simpa using remaining) (by simpa using empty))

def SpellsLine (agrees : Char → Char → Prop) (pieces : List (List Char)) (content : List Char) :
    Prop :=
  ∃ written, Spells agrees pieces written ∧ (content = written ∨ content = written ++ ['\n'])

theorem spellsLine_nil_cons_iff (more : pieces ≠ []) :
    SpellsLine agrees ([] :: pieces) content ↔
      ∃ skipped rest, content = skipped ++ rest ∧ SpellsLine agrees pieces rest := by
  constructor
  · rintro ⟨written, spells, ended⟩
    rcases (spells_nil_cons_iff more).mp spells with ⟨skipped, rest, rfl, later⟩
    rcases ended with rfl | rfl
    · exact ⟨skipped, rest, rfl, rest, later, .inl rfl⟩
    · exact ⟨skipped, rest ++ ['\n'], List.append_assoc _ _ _, rest, later, .inr rfl⟩
  · rintro ⟨skipped, _, rfl, written, later, rfl | rfl⟩
    · exact ⟨_, (spells_nil_cons_iff more).mpr ⟨skipped, _, rfl, later⟩, .inl rfl⟩
    · exact ⟨_, (spells_nil_cons_iff more).mpr ⟨skipped, written, rfl, later⟩,
        .inr (List.append_assoc _ _ _).symm⟩

theorem spellsLine_cons_cons_iff {expected : Char} :
    SpellsLine agrees ((expected :: piece) :: pieces) content ↔
      ∃ actual rest, content = actual :: rest ∧ agrees expected actual ∧
        SpellsLine agrees (piece :: pieces) rest := by
  constructor
  · rintro ⟨written, spells, ended⟩
    rcases spells_cons_cons_iff.mp spells with ⟨actual, rest, rfl, here, later⟩
    rcases ended with rfl | rfl
    · exact ⟨actual, rest, rfl, here, rest, later, .inl rfl⟩
    · exact ⟨actual, rest ++ ['\n'], rfl, here, rest, later, .inr rfl⟩
  · rintro ⟨actual, _, rfl, here, written, later, rfl | rfl⟩
    · exact ⟨_, spells_cons_cons_iff.mpr ⟨actual, _, rfl, here, later⟩, .inl rfl⟩
    · exact ⟨_, spells_cons_cons_iff.mpr ⟨actual, written, rfl, here, later⟩, .inr rfl⟩

theorem spellsLine_iff_spells
    (apart : content.getLast? ≠ some '\n' ∨ 1 < pieces.length ∧ pieces.getLast? = some []) :
    SpellsLine agrees pieces content ↔ Spells agrees pieces content := by
  constructor
  · rintro ⟨written, spells, rfl | rfl⟩
    · exact spells
    · rcases apart with unbroken | ⟨several, empty⟩
      · simp at unbroken
      · exact spells.append several empty _
  · exact fun spells => ⟨content, spells, .inl rfl⟩

end Text

namespace Pattern

/-! ## Letters of the alphabet -/

theorem lowerPoint_of_ascii : ∀ point < 128,
    lowerPoint point = (Char.ofNat point).toLower.toNat := by
  decide +kernel

theorem lowerPoint_of_uncased : ∀ point < 128,
    isCasedPoint point = false → lowerPoint point = point := by
  decide +kernel

theorem isCasedPoint_lowerPoint : ∀ point < 128,
    isCasedPoint (lowerPoint point) = isCasedPoint point := by
  decide +kernel

theorem lowerPoint_lt : ∀ point < 128, lowerPoint point < 128 := by
  decide +kernel

theorem le_of_mem_variantsOf : ∀ point < 128, ∀ variant ∈ variantsOf (lowerPoint point),
    128 ≤ variant := by
  decide +kernel

theorem pointsAgree_iff_of_ascii {expected actual : Nat} (expectedAscii : expected < 128)
    (actualAscii : actual < 128) :
    pointsAgree expected actual = true ↔ lowerPoint expected = lowerPoint actual := by
  unfold pointsAgree
  split
  · rw [lowerForms, List.contains_iff_mem, List.mem_cons]
    constructor
    · rintro (same | variant)
      · exact same.symm
      · have beyond := le_of_mem_variantsOf expected expectedAscii _ variant
        have lowered := lowerPoint_lt actual actualAscii
        omega
    · exact fun same => .inl same.symm
  · next cased =>
      have uncased : isCasedPoint expected = false := by simpa using cased
      have fixed := lowerPoint_of_uncased expected expectedAscii uncased
      rw [beq_iff_eq]
      constructor
      · rintro rfl
        rfl
      · intro same
        have actualUncased : isCasedPoint actual = false := by
          rw [← isCasedPoint_lowerPoint actual actualAscii, ← same, fixed, uncased]
        rw [← fixed, same, lowerPoint_of_uncased actual actualAscii actualUncased]

theorem lettersAgree_iff_of_ascii {expected actual : Char} (expectedAscii : expected.toNat < 128)
    (actualAscii : actual.toNat < 128) :
    Glob.lettersAgree expected actual = true ↔ expected.toLower = actual.toLower := by
  rw [Glob.lettersAgree, pointsAgree_iff_of_ascii expectedAscii actualAscii,
    lowerPoint_of_ascii _ expectedAscii, lowerPoint_of_ascii _ actualAscii, Char.ofNat_toNat,
    Char.ofNat_toNat, Char.toNat_inj]

/-! ## What globs accept -/

namespace Glob

variable {agrees : Char → Char → Prop} {characters content : List Char}

theorem fits_ofCharacters_iff
    (alike : ∀ expected ∈ characters, ∀ actual ∈ content,
      lettersAgree expected actual = true ↔ agrees expected actual) :
    (ofCharacters characters).fits content = true ↔
      Text.SpellsLine agrees (Text.pieces '*' characters) content := by
  induction characters generalizing content with
  | nil => simp [ofCharacters, fits, atEnd, Text.pieces, Text.SpellsLine, Text.spells_single_iff]
  | cons expected rest induction =>
      have restAlike : ∀ other ∈ rest, ∀ actual ∈ content,
          lettersAgree other actual = true ↔ agrees other actual :=
        fun other member => alike other (List.mem_cons_of_mem _ member)
      rw [ofCharacters, List.map_cons, ← ofCharacters, Text.pieces]
      split
      · rw [fits, someRemainder_iff, Text.spellsLine_nil_cons_iff (Text.pieces_ne_nil _ _)]
        refine exists_congr fun skipped => exists_congr fun remainder => and_congr_right ?_
        rintro rfl
        exact induction fun other member actual among =>
          restAlike other member actual (List.mem_append_right _ among)
      · cases found : Text.pieces '*' rest with
        | nil => exact absurd found (Text.pieces_ne_nil _ _)
        | cons first others =>
            rw [found] at induction
            rw [Text.spellsLine_cons_cons_iff]
            cases content with
            | nil => simp [fits]
            | cons actual remainder =>
                have here := alike expected (by simp) actual (by simp)
                have later := induction fun other member among amongMember =>
                  restAlike other member among (List.mem_cons_of_mem _ amongMember)
                simp [fits, here, later]

end Glob

end Pattern

/-! ## Criteria -/

namespace Text

def IsAscii (text : String) : Prop :=
  ∀ character ∈ text.toList, character.toNat < 128

instance (text : String) : Decidable (IsAscii text) :=
  List.decidableBAll (fun character : Char => character.toNat < 128) text.toList

def SameLetter (expected actual : Char) : Prop :=
  expected.toLower = actual.toLower

instance : DecidableRel SameLetter :=
  fun expected actual => inferInstanceAs (Decidable (expected.toLower = actual.toLower))

end Text

namespace Criterion

open Text (IsAscii SameLetter Spells SpellsLine pieces)

def IsPlainKey (rawKey : Value) : Prop :=
  ∃ key shownKey requireAll, rawKey.shown = .ok key ∧ rawKey.quoted = .ok shownKey ∧
    (SelectionKey.ofText key).read shownKey = .ok (.equals, requireAll)

variable {rawKey : Value} {expected : String}

theorem prepare_of_star (star : '*' ∈ expected.toList) (shownKey : String) :
    prepare .equals shownKey (.text expected) =
      .ok (.glob (Pattern.Glob.ofCharacters expected.toList)) := by
  simp [prepare, Value.operandText, star, bind, Except.bind, pure, Except.pure]

theorem exists_compile_of_star (plain : IsPlainKey rawKey) (star : '*' ∈ expected.toList) :
    ∃ criterion, compile rawKey (.text expected) = .ok criterion ∧
      criterion.tests = [(.text expected, .glob (Pattern.Glob.ofCharacters expected.toList))] := by
  rcases plain with ⟨key, shownKey, requireAll, shown, quoted, read⟩
  refine ⟨⟨key, (SelectionKey.ofText key).field, .equals, requireAll, _⟩, ?_, rfl⟩
  simp [compile, shown, quoted, read, expectedValues, Value.items?, prepare_of_star star, bind,
    Except.bind, pure, Except.pure]

theorem passes_of_single {criterion : Criterion} {value actual : Value} {test : ValueTest}
    {answer : Bool} (single : criterion.tests = [(value, test)]) (present : actual.isNull = false)
    (tested : test.passes actual = .ok answer) : criterion.passes actual = .ok answer := by
  unfold passes
  rw [single, present]
  cases criterion.requireAll <;> cases answer <;>
    simp [anyPasses, allPass, tested, bind, Except.bind, pure, Except.pure]

/-- What stars ask of a value, where both consist of characters of the first half of the
octets: the criterion can be prepared and the value be compared, and it is accepted where
the pieces between the stars spell all of it or all of it but a line break at its end. Where
there is no such line break, or the last star may stand for it, the pieces spell all of the
value. -/
theorem wildcard_accepts_iff {actual : String} (plain : IsPlainKey rawKey)
    (star : '*' ∈ expected.toList) (expectedAscii : IsAscii expected)
    (actualAscii : IsAscii actual) :
    ∃ criterion answer, compile rawKey (.text expected) = .ok criterion ∧
      criterion.passes (.text actual) = .ok answer ∧
      (answer = true ↔ SpellsLine SameLetter (pieces '*' expected.toList) actual.toList) ∧
      (actual.toList.getLast? ≠ some '\n' ∨ expected.toList.getLast? = some '*' →
        (answer = true ↔ Spells SameLetter (pieces '*' expected.toList) actual.toList)) := by
  rcases exists_compile_of_star plain star with ⟨criterion, compiled, single⟩
  have tested : ValueTest.passes (.text actual)
      (.glob (Pattern.Glob.ofCharacters expected.toList)) =
        .ok ((Pattern.Glob.ofCharacters expected.toList).fits actual.toList) := rfl
  have accepted := Pattern.Glob.fits_ofCharacters_iff fun letter member other among =>
    Pattern.lettersAgree_iff_of_ascii (expectedAscii letter member) (actualAscii other among)
  refine ⟨criterion, _, compiled, passes_of_single single rfl tested, accepted, fun apart => ?_⟩
  refine accepted.trans (Text.spellsLine_iff_spells (apart.imp_right fun starred => ?_))
  -- A star at the end leaves an empty piece behind it.
  rcases List.getLast?_eq_some_iff.mp starred with ⟨before, parted⟩
  rw [parted, Text.pieces_append_separator, Text.pieces]
  have filled := List.length_pos_iff.mpr (Text.pieces_ne_nil '*' before)
  exact ⟨by simpa using filled, by simp⟩

theorem isPlainKey_image : IsPlainKey (.text "image") :=
  ⟨"image", _, false, rfl, rfl, by decide +kernel⟩

theorem pieces_star_exe : Text.pieces '*' "*.exe".toList = [[], ['.', 'e', 'x', 'e']] := by
  decide +kernel

theorem capital_name_is_accepted :
    IsPlainKey (.text "image") ∧ '*' ∈ "*.exe".toList ∧ Text.IsAscii "*.exe" ∧
      Text.IsAscii "CMD.EXE" ∧
      ∃ criterion, compile (.text "image") (.text "*.exe") = .ok criterion ∧
        criterion.passes (.text "CMD.EXE") = .ok true := by
  refine ⟨isPlainKey_image, by decide, by decide, by decide, ?_⟩
  have expectedAscii : Text.IsAscii "*.exe" := by decide
  have actualAscii : Text.IsAscii "CMD.EXE" := by decide
  rcases wildcard_accepts_iff isPlainKey_image (by decide) expectedAscii actualAscii with
    ⟨criterion, answer, compiled, passes, _, accepts⟩
  have spelled : Text.Spells Text.SameLetter (Text.pieces '*' "*.exe".toList)
      "CMD.EXE".toList := by
    rw [pieces_star_exe, Text.spells_nil_cons_iff (by simp)]
    exact ⟨['C', 'M', 'D'], ['.', 'E', 'X', 'E'], by decide, .last (by decide)⟩
  obtain rfl : answer = true := (accepts (.inl (by decide))).mpr spelled
  exact ⟨criterion, compiled, passes⟩

/-- A line break after the last piece is let through, though no piece spells it. -/
theorem line_break_is_let_through :
    (∃ criterion, compile (.text "image") (.text "*.exe") = .ok criterion ∧
      criterion.passes (.text "cmd.exe\n") = .ok true) ∧
    ¬Text.Spells Text.SameLetter (Text.pieces '*' "*.exe".toList) "cmd.exe\n".toList := by
  refine ⟨⟨_, rfl, by decide +kernel⟩, ?_⟩
  rw [pieces_star_exe, Text.spells_nil_cons_iff (by simp)]
  rintro ⟨skipped, rest, parted, spells⟩
  have written := Text.spells_single_iff.mp spells
  have lengths := congrArg List.length parted
  have fromFour := congrArg (List.drop 4) parted
  rw [List.length_append, ← written.length_eq] at lengths
  rw [List.drop_left' (by simpa using lengths.symm)] at fromFour
  rw [← fromFour] at written
  cases written with
  | cons differs => exact absurd differs (by decide)

end Criterion

end ThreatWatch
