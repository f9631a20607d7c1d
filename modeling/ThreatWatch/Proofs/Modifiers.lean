import Mathlib.Logic.Relation
import ThreatWatch.Proofs.Binding
import ThreatWatch.Proofs.Placements

/-! Modifiers as options. What the modifiers of a key ask for does not depend on their order, on
the case of their letters, on blanks around them, on empty ones among them or on how often all
values are required. Keys that differ in nothing else are refused alike, or give criteria that
pass the same values. -/

namespace ThreatWatch

/-! ## Letters in either case -/

namespace Text

variable {first second : Char} {left right before otherBefore : List Char}

theorem toLower_cases (character : Char) :
    character.toLower = character ∨ ∃ index < 26, character = Char.ofNat (65 + index) := by
  by_cases capital : character.val ≥ 'A'.val ∧ character.val ≤ 'Z'.val
  · have above : 65 ≤ character.toNat := capital.1
    have below : character.toNat ≤ 90 := capital.2
    refine .inr ⟨character.toNat - 65, by omega, ?_⟩
    rw [Nat.add_sub_cancel' above, Char.ofNat_toNat]
  · exact .inl (dif_neg capital)

theorem SameLetter.apply_eq {α : Type} (same : SameLetter first second) (reading : Char → α)
    (capitals : ∀ index < 26,
      reading (Char.ofNat (65 + index)).toLower = reading (Char.ofNat (65 + index))) :
    reading first = reading second := by
  have lowered (character : Char) : reading character.toLower = reading character := by
    rcases toLower_cases character with unchanged | ⟨index, small, rfl⟩
    · rw [unchanged]
    · exact capitals index small
  rw [← lowered first, same, lowered second]

theorem SameLetter.isBlank_eq (same : SameLetter first second) :
    isBlank first = isBlank second :=
  same.apply_eq _ (by decide)

theorem meetsCased_eq (same : List.Forall₂ SameLetter left right) :
    meetsCased left = meetsCased right := by
  induction same with
  | nil => rfl
  | cons here _ induction =>
      have ignored := here.apply_eq caseIgnorables.contains (by decide)
      have cased := here.apply_eq casedLetters.contains (by decide)
      unfold meetsCased at induction ⊢
      rw [List.dropWhile_cons, List.dropWhile_cons, ignored]
      cases caseIgnorables.contains _ with
      | true => exact induction
      | false => exact cased

theorem lowerForm_eq (same : SameLetter first second)
    (sameBefore : List.Forall₂ SameLetter before otherBefore)
    (sameAfter : List.Forall₂ SameLetter left right) :
    lowerForm before first left = lowerForm otherBefore second right := by
  have sigma : first = 'Σ' ↔ second = 'Σ' :=
    decide_eq_decide.mp (same.apply_eq (fun character => decide (character = 'Σ')) (by decide))
  have dotted : first = 'İ' ↔ second = 'İ' :=
    decide_eq_decide.mp (same.apply_eq (fun character => decide (character = 'İ')) (by decide))
  have simple : simpleLower first = simpleLower second := same.apply_eq _ (by decide +kernel)
  have final : isFinalSigma before left = isFinalSigma otherBefore right := by
    rw [isFinalSigma, isFinalSigma, meetsCased_eq sameBefore, meetsCased_eq sameAfter]
  simp only [lowerForm, sigma, dotted, simple, final]

theorem lowerAfter_eq (same : List.Forall₂ SameLetter left right)
    (sameBefore : List.Forall₂ SameLetter before otherBefore) :
    lowerAfter before left = lowerAfter otherBefore right := by
  induction same generalizing before otherBefore with
  | nil => rfl
  | cons here later induction =>
      rw [lowerAfter, lowerAfter, lowerForm_eq here sameBefore later,
        induction (.cons here sameBefore)]

theorem sameLetters_dropWhile (same : List.Forall₂ SameLetter left right) :
    List.Forall₂ SameLetter (left.dropWhile isBlank) (right.dropWhile isBlank) := by
  induction same with
  | nil => exact .nil
  | cons here later induction =>
      rw [List.dropWhile_cons, List.dropWhile_cons, here.isBlank_eq]
      split
      · exact induction
      · exact .cons here later

theorem sameLetters_trim (same : List.Forall₂ SameLetter left right) :
    List.Forall₂ SameLetter (trimCharacters left) (trimCharacters right) := by
  rw [trimCharacters, trimEnd, trimCharacters, trimEnd, List.forall₂_reverse_iff]
  exact sameLetters_dropWhile (List.forall₂_reverse_iff.mpr (sameLetters_dropWhile same))

end Text

/-! ## Ends of work -/

/-- Faults of one kind: the same fault, or faults of rules that belong to one family. -/
inductive Fault.SameKind : Fault → Fault → Prop where
  | same (fault : Fault) : SameKind fault fault
  | rule {left right : RuleFault} (family : left.cause.family = right.cause.family) :
      SameKind (.rule left) (.rule right)

/-- Two ends are alike: results that are related, or faults of one kind. -/
inductive EndsAlike {α β : Type} (related : α → β → Prop) :
    Except Fault α → Except Fault β → Prop where
  | ok {one : α} {other : β} (results : related one other) : EndsAlike related (.ok one) (.ok other)
  | error {fault again : Fault} (kind : fault.SameKind again) :
      EndsAlike related (.error fault) (.error again)

namespace EndsAlike

variable {α β γ δ : Type}

theorem refl (outcome : Except Fault α) : EndsAlike Eq outcome outcome := by
  cases outcome with
  | ok result => exact .ok rfl
  | error fault => exact .error (.same fault)

theorem bind {related : α → β → Prop} {further : γ → δ → Prop} {one : Except Fault α}
    {other : Except Fault β} {next : α → Except Fault γ} {after : β → Except Fault δ}
    (opening : EndsAlike related one other)
    (continuing : ∀ first second, related first second →
      EndsAlike further (next first) (after second)) :
    EndsAlike further (one >>= next) (other >>= after) := by
  cases opening with
  | ok results => exact continuing _ _ results
  | error kind => exact .error kind

theorem mapM {step other : α → Except Fault β} {items : List α}
    (steps : ∀ item ∈ items, EndsAlike Eq (step item) (other item)) :
    EndsAlike Eq (items.mapM step) (items.mapM other) := by
  induction items with
  | nil => exact refl _
  | cons item rest induction =>
      obtain ⟨here, later⟩ := List.forall_mem_cons.mp steps
      rw [List.mapM_cons, List.mapM_cons]
      refine here.bind ?_
      rintro first _ rfl
      refine (induction later).bind ?_
      rintro others _ rfl
      exact refl _

theorem of_ok_iff {one other : Except Fault α}
    (results : ∀ result, one = .ok result ↔ other = .ok result)
    (kinds : ∀ fault again, one = .error fault → other = .error again → fault.SameKind again) :
    EndsAlike Eq one other := by
  cases one with
  | ok result =>
      rw [(results result).mp rfl]
      exact refl _
  | error fault =>
      cases other with
      | ok result => cases (results result).mpr rfl
      | error again => exact .error (kinds fault again rfl rfl)

end EndsAlike

/-! ## Modifiers -/

namespace SelectionKey

def written (field : String) (modifiers : List String) : String :=
  Text.join "|" (field :: modifiers)

def asked? (modifier : String) : Option String :=
  if Text.trim modifier = "" then none else some (Text.lower (Text.trim modifier))

theorem asked?_eq_of_sameLetters {modifier other : String}
    (same : List.Forall₂ Text.SameLetter modifier.toList other.toList) :
    asked? modifier = asked? other := by
  have trimmed := Text.sameLetters_trim same
  have empty : Text.trim modifier = "" ↔ Text.trim other = "" := by
    rw [Text.trim, Text.trim, String.ofList_eq_empty_iff, String.ofList_eq_empty_iff]
    constructor
    · intro nothing
      exact List.forall₂_nil_left_iff.mp (nothing ▸ trimmed)
    · intro nothing
      exact List.forall₂_nil_right_iff.mp (nothing ▸ trimmed)
  have lowered : Text.lower (Text.trim modifier) = Text.lower (Text.trim other) := by
    rw [Text.lower, Text.lower, Text.trim, Text.trim, String.toList_ofList, String.toList_ofList,
      Text.lowerCharacters, Text.lowerCharacters, Text.lowerAfter_eq trimmed .nil]
  simp only [asked?, empty, lowered]

theorem ofText_written {field : String} {modifiers : List String} (plainField : '|' ∉ field.toList)
    (plain : ∀ modifier ∈ modifiers, '|' ∉ modifier.toList) :
    ofText (written field modifiers) = ⟨Text.trim field, modifiers.filterMap asked?⟩ := by
  have bar : "|".toList = ['|'] := rfl
  have parts : Text.splitOn '|' (written field modifiers) = field :: modifiers := by
    rw [Text.splitOn, written, Text.join, String.toList_intercalate, bar,
      Text.pieces_intercalate (by simp)
        (List.forall_mem_map.mpr (List.forall_mem_cons.mpr ⟨plainField, plain⟩)),
      List.map_map]
    exact List.map_id'' (fun part => String.ofList_toList) _
  rw [ofText, parts]
  dsimp only
  rw [List.filterMap_map]
  rfl

/-! ## What modifiers ask for -/

/-- One change to modifiers that leaves what they ask for. -/
inductive Rewrites : List String → List String → Prop where
  | order {modifiers others : List String} (perm : modifiers.Perm others) :
      Rewrites modifiers others
  | letterCase {modifier other : String} (rest : List String)
      (same : List.Forall₂ Text.SameLetter modifier.toList other.toList) :
      Rewrites (modifier :: rest) (other :: rest)
  | blanks {modifier other : String} (rest : List String)
      (same : Text.trim modifier = Text.trim other) : Rewrites (modifier :: rest) (other :: rest)
  | empty {modifier : String} (rest : List String) (nothing : Text.trim modifier = "") :
      Rewrites (modifier :: rest) rest
  | again (rest : List String) : Rewrites ("all" :: "all" :: rest) ("all" :: rest)

def Reworded : List String → List String → Prop :=
  Relation.EqvGen Rewrites

/-- Words that ask for the same: in some order the same ones but for `all`, and `all` or not. -/
structure AskAlike (words others : List String) : Prop where
  named : (words.filter (· ≠ "all")).Perm (others.filter (· ≠ "all"))
  all : "all" ∈ words ↔ "all" ∈ others

theorem AskAlike.of_eq {words others : List String} (same : words = others) :
    AskAlike words others :=
  same ▸ ⟨.refl _, .rfl⟩

theorem askAlike_of_rewrites {modifiers others : List String}
    (rewrites : Rewrites modifiers others) :
    AskAlike (modifiers.filterMap asked?) (others.filterMap asked?) := by
  cases rewrites with
  | order perm =>
      have asked := perm.filterMap asked?
      exact ⟨asked.filter _, asked.mem_iff⟩
  | letterCase rest same =>
      refine .of_eq ?_
      simp only [List.filterMap_cons, asked?_eq_of_sameLetters same]
  | blanks rest same =>
      refine .of_eq ?_
      simp only [List.filterMap_cons, asked?, same]
  | empty rest nothing => exact .of_eq (List.filterMap_cons_none (if_pos nothing))
  | again rest =>
      have asked : asked? "all" = some "all" := by decide +kernel
      rw [List.filterMap_cons_some asked, List.filterMap_cons_some asked]
      exact ⟨by simp, by simp⟩

theorem askAlike_of_reworded {modifiers others : List String}
    (reworded : Reworded modifiers others) :
    AskAlike (modifiers.filterMap asked?) (others.filterMap asked?) := by
  induction reworded with
  | rel _ _ rewrites => exact askAlike_of_rewrites rewrites
  | refl _ => exact .of_eq rfl
  | symm _ _ _ alike => exact ⟨alike.named.symm, alike.all.symm⟩
  | trans _ _ _ _ _ before after =>
      exact ⟨before.named.trans after.named, before.all.trans after.all⟩

/-! ## Reading keys -/

def IsKnown (word : String) : Prop :=
  word = "all" ∨ ∃ operator, Operator.ofModifier? word = some operator

theorem request_eq_ok_iff {shownKey : String} {words : List String} {asked : Request} :
    request shownKey words = .ok asked ↔ (∀ word ∈ words, IsKnown word) ∧
      asked = ⟨words.filterMap Operator.ofModifier?, decide ("all" ∈ words)⟩ := by
  induction words generalizing asked with
  | nil => simp [request, eq_comm]
  | cons word rest induction =>
      -- A known word changes what the words after it ask for.
      have after (change : Request → Request) :
          (request shownKey rest >>= fun asked => pure (change asked)) = .ok asked ↔
            (∀ word ∈ rest, IsKnown word) ∧
              asked = change ⟨rest.filterMap Operator.ofModifier?, decide ("all" ∈ rest)⟩ := by
        simp only [bind_eq_ok_iff, pure_eq_ok_iff, induction]
        constructor
        · rintro ⟨_, ⟨others, rfl⟩, rfl⟩
          exact ⟨others, rfl⟩
        · rintro ⟨others, rfl⟩
          exact ⟨_, ⟨others, rfl⟩, rfl⟩
      rw [List.forall_mem_cons, request]
      cases named : Operator.ofModifier? word with
      | some operator =>
          have known : IsKnown word := .inr ⟨operator, named⟩
          have other : "all" ≠ word := by
            rintro rfl
            cases named
          refine (after fun asked => { asked with operators := operator :: asked.operators }).trans ?_
          simp [known, List.filterMap_cons_some named, other]
      | none =>
          dsimp only
          split
          · next flag =>
              have known : IsKnown word := .inl flag
              have flagged : "all" ∈ word :: rest := flag ▸ List.mem_cons_self
              refine (after fun asked => { asked with requireAll := true }).trans ?_
              simp only [known, true_and, List.filterMap_cons_none named, decide_eq_true flagged]
          · next other =>
              have unknown : ¬IsKnown word := by
                rintro (flag | ⟨operator, found⟩)
                · exact other flag
                · cases named.symm.trans found
              simp [unknown]

def chosen? : List Operator → Option Operator
  | [] => some .equals
  | [operator] => some operator
  | _ => none

theorem chosen?_eq_of_perm {operators others : List Operator} (perm : operators.Perm others) :
    chosen? operators = chosen? others := by
  rcases operators with _ | ⟨first, _ | ⟨second, rest⟩⟩
  · rw [List.nil_perm.mp perm]
  · rw [List.singleton_perm.mp perm]
  · rcases others with _ | ⟨other, _ | ⟨another, more⟩⟩
    · cases perm.length_eq
    · cases perm.length_eq
    · rfl

theorem exists_chosen?_iff {operators : List Operator} :
    (∃ operator, chosen? operators = some operator) ↔ operators.length ≤ 1 := by
  rcases operators with _ | ⟨first, _ | ⟨second, rest⟩⟩ <;> simp [chosen?]

theorem eq_pattern_iff_of_chosen? {operators : List Operator} {operator : Operator}
    (chosen : chosen? operators = some operator) :
    operator = .pattern ↔ .pattern ∈ operators := by
  rcases operators with _ | ⟨first, _ | ⟨second, rest⟩⟩ <;> cases chosen
  · simp
  · simp [eq_comm]

theorem read_eq_ok_iff {key : SelectionKey} {shownKey : String} {operator : Operator}
    {requireAll : Bool} :
    key.read shownKey = .ok (operator, requireAll) ↔
      key.field ≠ "" ∧ (∀ word ∈ key.modifiers, IsKnown word) ∧
        chosen? (key.modifiers.filterMap Operator.ofModifier?) = some operator ∧
        requireAll = decide ("all" ∈ key.modifiers) := by
  constructor
  · intro ended
    unfold read at ended
    split at ended
    · cases ended
    · next named =>
        obtain ⟨_, requested, chosen⟩ := bind_eq_ok_iff.mp ended
        obtain ⟨known, rfl⟩ := request_eq_ok_iff.mp requested
        refine ⟨named, known, ?_⟩
        dsimp only at chosen
        split at chosen
        · next none =>
            cases chosen
            exact ⟨by rw [none]; rfl, rfl⟩
        · next single =>
            cases chosen
            exact ⟨by rw [single]; rfl, rfl⟩
        · cases chosen
  · rintro ⟨named, known, chosen, rfl⟩
    rw [read, if_neg named]
    refine bind_eq_ok_iff.mpr ⟨_, request_eq_ok_iff.mpr ⟨known, rfl⟩, ?_⟩
    dsimp only
    generalize key.modifiers.filterMap Operator.ofModifier? = operators at chosen
    rcases operators with _ | ⟨first, _ | ⟨second, rest⟩⟩ <;> cases chosen <;> rfl

theorem AskAlike.known_iff {words others : List String} (alike : AskAlike words others) :
    (∀ word ∈ words, IsKnown word) ↔ ∀ word ∈ others, IsKnown word := by
  have apart (listed : List String) : (∀ word ∈ listed, IsKnown word) ↔
      ∀ word ∈ listed.filter (· ≠ "all"), IsKnown word := by
    simp only [List.mem_filter, decide_eq_true_eq]
    constructor
    · exact fun each word member => each word member.1
    · intro each word member
      by_cases flag : word = "all"
      · exact .inl flag
      · exact each word ⟨member, flag⟩
  rw [apart words, apart others]
  exact forall_congr' fun word => imp_congr_left alike.named.mem_iff

theorem AskAlike.operators_perm {words others : List String} (alike : AskAlike words others) :
    (words.filterMap Operator.ofModifier?).Perm (others.filterMap Operator.ofModifier?) := by
  have apart (listed : List String) : (listed.filter (· ≠ "all")).filterMap Operator.ofModifier? =
      listed.filterMap Operator.ofModifier? := by
    rw [List.filterMap_filter]
    refine List.filterMap_congr fun word _ => ?_
    by_cases flag : word = "all"
    · rw [flag]
      rfl
    · simp [flag]
  rw [← apart words, ← apart others]
  exact alike.named.filterMap _

theorem read_endsAlike {field shownKey otherKey : String} {words others : List String}
    (alike : AskAlike words others) :
    EndsAlike Eq (read ⟨field, words⟩ shownKey) (read ⟨field, others⟩ otherKey) := by
  refine .of_ok_iff (fun ⟨operator, requireAll⟩ => ?_) fun fault again failed failedAgain => ?_
  · rw [read_eq_ok_iff, read_eq_ok_iff]
    dsimp only
    rw [alike.known_iff, chosen?_eq_of_perm alike.operators_perm, decide_eq_decide.mpr alike.all]
  · obtain ⟨cause, rfl, family⟩ := read_eq_error failed
    obtain ⟨otherCause, rfl, otherFamily⟩ := read_eq_error failedAgain
    exact .rule (family.trans otherFamily.symm)

end SelectionKey

/-! ## Criteria -/

namespace Criterion

open SelectionKey (asked? written Reworded IsKnown)

variable {value expected : Value} {operator : Operator} {field : String}
  {modifiers others : List String}

theorem prepare_endsAlike (shownKey otherKey : String) :
    EndsAlike Eq (prepare operator shownKey expected) (prepare operator otherKey expected) := by
  cases operator with
  | pattern =>
      refine (EndsAlike.refl expected.operandText).bind ?_
      rintro content _ rfl
      cases Pattern.Expression.parse content with
      | ok compiled => exact .refl _
      | error fault =>
          refine .error ?_
          cases fault with
          | malformed => exact .rule rfl
          | _ => exact .same _
  | _ => exact .refl _

theorem exists_prepare_iff (isWritten : ∃ text, expected.operandText = .ok text)
    (shownKey : String) :
    (∃ test, prepare operator shownKey expected = .ok test) ↔
      (operator = .pattern → ∃ text compiled, expected.operandText = .ok text ∧
        Pattern.Expression.parse text = .ok compiled) := by
  obtain ⟨text, told⟩ := isWritten
  cases operator with
  | pattern =>
      simp only [prepare, told, bind_eq_ok_iff, Except.ok.injEq, exists_eq_left', forall_const]
      cases parsed : Pattern.Expression.parse text <;> simp [parsed, pure_eq_ok_iff]
  | equals =>
      simp only [prepare, told, bind_eq_ok_iff, Except.ok.injEq, exists_eq_left', reduceCtorEq,
        false_implies, iff_true]
      split <;> exact ⟨_, rfl⟩
  | network => exact iff_of_true ⟨_, bind_eq_ok_iff.mpr ⟨text, told, rfl⟩⟩ (by simp)
  | _ => exact iff_of_true ⟨_, rfl⟩ (by simp)

theorem exists_compile_text_iff {key : String} :
    (∃ criterion, compile (.text key) value = .ok criterion) ↔
      ∃ operator requireAll,
        (SelectionKey.ofText key).read (Text.quoted key) = .ok (operator, requireAll) ∧
        ∀ expected ∈ expectedValues value, ∃ test,
          prepare operator (Text.quoted key) expected = .ok test := by
  constructor
  · rintro ⟨criterion, compiled⟩
    obtain ⟨_, _, shown, quoted, _, _, read, related⟩ := compile_eq_ok compiled
    cases shown
    cases quoted
    refine ⟨_, _, read, fun expected member => ?_⟩
    obtain ⟨test, _, _, prepared⟩ := exists_of_forall₂_left related member
    exact ⟨test.2, prepared⟩
  · rintro ⟨operator, requireAll, read, prepared⟩
    obtain ⟨tests, made⟩ : ∃ tests, ((expectedValues value).mapM fun expected => do
        return (expected, ← prepare operator (Text.quoted key) expected)) = .ok tests := by
      refine exists_mapM_eq_ok fun expected member => ?_
      obtain ⟨test, ready⟩ := prepared expected member
      exact ⟨(expected, test), bind_eq_ok_iff.mpr ⟨test, ready, rfl⟩⟩
    exact ⟨_, bind_eq_ok_iff.mpr ⟨key, rfl, bind_eq_ok_iff.mpr ⟨Text.quoted key, rfl,
      bind_eq_ok_iff.mpr ⟨_, read, bind_eq_ok_iff.mpr ⟨tests, made, rfl⟩⟩⟩⟩⟩

def operatorsOf (modifiers : List String) : List Operator :=
  (modifiers.filterMap asked?).filterMap Operator.ofModifier?

/-- What an entry needs to be prepared. -/
structure IsUsable (field : String) (modifiers : List String) (value : Value) : Prop where
  named : Text.trim field ≠ ""
  known : ∀ modifier ∈ modifiers, ∀ word, asked? modifier = some word → IsKnown word
  single : (operatorsOf modifiers).length ≤ 1
  compiles : .pattern ∈ operatorsOf modifiers → ∀ expected ∈ expectedValues value,
    ∃ text compiled, expected.operandText = .ok text ∧
      Pattern.Expression.parse text = .ok compiled

theorem exists_compile_written_iff (plainField : '|' ∉ field.toList)
    (plain : ∀ modifier ∈ modifiers, '|' ∉ modifier.toList)
    (areWritten : AreWritten (expectedValues value)) :
    (∃ criterion, compile (.text (written field modifiers)) value = .ok criterion) ↔
      IsUsable field modifiers value := by
  rw [exists_compile_text_iff, SelectionKey.ofText_written plainField plain]
  have known : (∀ word ∈ modifiers.filterMap asked?, IsKnown word) ↔
      ∀ modifier ∈ modifiers, ∀ word, asked? modifier = some word → IsKnown word := by
    simp only [List.mem_filterMap]
    exact ⟨fun each modifier member word asked => each word ⟨modifier, member, asked⟩,
      fun each word ⟨modifier, member, asked⟩ => each modifier member word asked⟩
  simp only [SelectionKey.read_eq_ok_iff, known]
  constructor
  · rintro ⟨operator, _, ⟨named, each, chosen, rfl⟩, prepared⟩
    refine ⟨named, each, SelectionKey.exists_chosen?_iff.mp ⟨operator, chosen⟩, ?_⟩
    intro asksPattern expected member
    have isPattern := (SelectionKey.eq_pattern_iff_of_chosen? chosen).mpr asksPattern
    exact (exists_prepare_iff (areWritten expected member) _).mp (prepared expected member) isPattern
  · rintro ⟨named, each, single, compiles⟩
    obtain ⟨operator, chosen⟩ := SelectionKey.exists_chosen?_iff.mpr single
    refine ⟨operator, _, ⟨named, each, chosen, rfl⟩, fun expected member => ?_⟩
    refine (exists_prepare_iff (areWritten expected member) _).mpr fun isPattern => ?_
    exact compiles ((SelectionKey.eq_pattern_iff_of_chosen? chosen).mp isPattern) expected member

/-- Modifiers are options: reworded, they end in faults of one kind or make criteria that pass
the same values. An entry can be prepared where it names a field, its modifiers are known and
name at most one operator, and the patterns that they ask for are well formed. -/
theorem modifiers_are_options (plainField : '|' ∉ field.toList)
    (plain : ∀ modifier ∈ modifiers, '|' ∉ modifier.toList)
    (othersPlain : ∀ modifier ∈ others, '|' ∉ modifier.toList)
    (reworded : Reworded modifiers others) (value : Value) :
    EndsAlike (fun one other => ∀ actual, one.passes actual = other.passes actual)
        (compile (.text (written field modifiers)) value)
        (compile (.text (written field others)) value) ∧
      (AreWritten (expectedValues value) →
        ((∃ criterion, compile (.text (written field modifiers)) value = .ok criterion) ↔
          IsUsable field modifiers value)) := by
  refine ⟨?_, exists_compile_written_iff plainField plain⟩
  have shown (key other : String) : EndsAlike (fun one again => one = key ∧ again = other)
      (Value.shown (.text key)) (Value.shown (.text other)) := .ok ⟨rfl, rfl⟩
  have quoted (key other : String) : EndsAlike (fun _ _ => True)
      (Value.quoted (.text key)) (Value.quoted (.text other)) := .ok trivial
  unfold compile
  refine (shown _ _).bind ?_
  rintro _ _ ⟨rfl, rfl⟩
  refine (quoted _ _).bind fun shownKey otherKey _ => ?_
  dsimp only
  rw [SelectionKey.ofText_written plainField plain,
    SelectionKey.ofText_written plainField othersPlain]
  refine (SelectionKey.read_endsAlike (SelectionKey.askAlike_of_reworded reworded)).bind ?_
  rintro ⟨operator, requireAll⟩ _ rfl
  refine (EndsAlike.mapM fun expected _ => ?_).bind ?_
  · refine (prepare_endsAlike _ _).bind ?_
    rintro test _ rfl
    exact .refl _
  · rintro tests _ rfl
    exact .ok fun actual => rfl

/-- The flag may come first or last, twice or once, and an empty modifier makes no difference. -/
theorem contains_all_is_reworded :
    Reworded ["Contains", " all "] ["all", "", "contains", "all"] ∧
      IsUsable "name" ["Contains", " all "] (.list [.text "a", .text "b"]) ∧
      ∃ criterion other,
        compile (.text "name|Contains| all ") (.list [.text "a", .text "b"]) = .ok criterion ∧
          compile (.text "name|all||contains|all") (.list [.text "a", .text "b"]) = .ok other ∧
          ∀ actual, criterion.passes actual = other.passes actual := by
  have once : Reworded ["all", "contains"] ["all", "", "contains", "all"] := by
    have flagsFirst : ["all", "", "contains", "all"].Perm ["all", "all", "", "contains"] := by decide
    have emptyFirst : ["all", "", "contains"].Perm ["", "all", "contains"] := by decide
    refine .symm _ _ (.trans _ _ _ (.rel _ _ (.order flagsFirst)) ?_)
    refine .trans _ _ _ (.rel _ _ (.again _)) (.trans _ _ _ (.rel _ _ (.order emptyFirst)) ?_)
    exact .rel _ _ (.empty _ (by decide))
  have plainly : Reworded ["Contains", " all "] ["all", "contains"] := by
    have lower : List.Forall₂ Text.SameLetter "Contains".toList "contains".toList := by decide
    have flagFirst : ["contains", " all "].Perm [" all ", "contains"] := by decide
    refine .trans _ _ _ (.rel _ _ (.letterCase _ lower)) ?_
    exact .trans _ _ _ (.rel _ _ (.order flagFirst)) (.rel _ _ (.blanks _ (by decide)))
  have reworded : Reworded ["Contains", " all "] ["all", "", "contains", "all"] :=
    .trans _ _ _ plainly once
  obtain ⟨alike, usable⟩ := modifiers_are_options (show '|' ∉ "name".toList by decide)
    (by decide) (by decide) reworded (.list [.text "a", .text "b"])
  have areWritten : AreWritten (expectedValues (.list [.text "a", .text "b"])) :=
    List.forall_mem_map.mpr fun text (_ : text ∈ ["a", "b"]) => ⟨text, rfl⟩
  have first : written "name" ["Contains", " all "] = "name|Contains| all " := by decide +kernel
  have second : written "name" ["all", "", "contains", "all"] = "name|all||contains|all" := by
    decide +kernel
  rw [first] at usable
  rw [first, second] at alike
  obtain ⟨criterion, compiled⟩ : ∃ criterion,
      compile (.text "name|Contains| all ") (.list [.text "a", .text "b"]) = .ok criterion :=
    ⟨_, rfl⟩
  refine ⟨reworded, (usable areWritten).mp ⟨criterion, compiled⟩, criterion, ?_⟩
  rw [compiled] at alike ⊢
  generalize compile (.text "name|all||contains|all") _ = outcome at alike ⊢
  cases alike with
  | ok same => exact ⟨_, rfl, rfl, same⟩

end Criterion

end ThreatWatch
