import ThreatWatch.Condition.Parser
import ThreatWatch.Proofs.Outcome

/-! Conditions as they are read. A condition that has been read mentions selections of
its rule alone, and its quantifiers hold the selections that their groups stand for.
Where a condition cannot be read this is a fault of the rule, except for a count that
is no decimal number of moderate length. -/

namespace ThreatWatch.Condition

/-! ## Groups -/

/-- Whether a name belongs to a group: to the group of all, or to one that ends in a
star and otherwise begins the name. -/
def inGroup (group name : String) : Bool :=
  keyword? group = some .wholeGroup || Text.startsWith group.toList.dropLast name.toList

theorem expandGroup_eq_ok {group : String} {names members : List String}
    (expanded : expandGroup group names = .ok members) :
    members = names.filter (inGroup group) := by
  unfold expandGroup at expanded
  split at expanded
  · next whole =>
      cases expanded
      exact (List.filter_eq_self.mpr fun name _ => by simp [inGroup, whole]).symm
  · next other =>
      split at expanded
      · dsimp only at expanded
        split at expanded
        · cases expanded
        · cases expanded
          exact List.filter_congr fun name _ => by simp [inGroup, other]
      · cases expanded

theorem expandGroup_eq_error {group : String} {names : List String} {fault : Fault}
    (failed : expandGroup group names = .error fault) : ∃ cause, fault = .ofCause cause := by
  unfold expandGroup at failed
  split at failed
  · cases failed
  · split at failed
    · dsimp only at failed
      split at failed <;> cases failed
      exact ⟨_, rfl⟩
    · cases failed
      exact ⟨_, rfl⟩

/-- The condition mentions some of the names, and its quantifiers hold those of them
that belong to their groups. -/
def IsOver (names : List String) : Condition → Prop
  | .selection name => name ∈ names
  | .negation operand => operand.IsOver names
  | .both left right => left.IsOver names ∧ right.IsOver names
  | .either left right => left.IsOver names ∧ right.IsOver names
  | .every members group => members = names.filter (inGroup group)
  | .atLeast count members group => 1 ≤ count ∧ members = names.filter (inGroup group)

theorem IsOver.mem_of_mem_names {names : List String} {condition : Condition}
    (isOver : condition.IsOver names) {name : String} (mentioned : name ∈ condition.names) :
    name ∈ names := by
  induction condition with
  | selection other => rwa [List.mem_singleton.mp mentioned]
  | negation operand induction => exact induction isOver mentioned
  | both left right leftInduction rightInduction | either left right leftInduction rightInduction =>
      rcases List.mem_append.mp mentioned with inLeft | inRight
      · exact leftInduction isOver.1 inLeft
      · exact rightInduction isOver.2 inRight
  | every members group =>
      have member : name ∈ members := mentioned
      rw [show members = _ from isOver] at member
      exact (List.mem_filter.mp member).1
  | atLeast count members group =>
      have member : name ∈ members := mentioned
      rw [isOver.2] at member
      exact (List.mem_filter.mp member).1

/-! ## Counts -/

def IsBadCount (token : String) (fault : Fault) : Prop :=
  isCount token = true ∧
    ((token.toList.all Text.isDecimal = false ∧ fault = .unreadableCount) ∨
      (token.toList.all Text.isDecimal = true ∧ Numeral.digitLimit < token.toList.length ∧
        fault = .tooManyDigits))

def MayFail (tokens : List String) (fault : Fault) : Prop :=
  (∃ cause, fault = .ofCause cause) ∨ ∃ token ∈ tokens, IsBadCount token fault

theorem MayFail.mono {tokens more : List String} {fault : Fault} (may : MayFail tokens fault)
    (among : ∀ token ∈ tokens, token ∈ more) : MayFail more fault := by
  rcases may with ofRule | ⟨token, member, bad⟩
  · exact .inl ofRule
  · exact .inr ⟨token, among token member, bad⟩

theorem mayFail_of_fail {α : Type} {tokens : List String} {cause : RuleCause} {fault : Fault}
    (failed : (fail cause : Except Fault α) = .error fault) : MayFail tokens fault := by
  cases failed
  exact .inl ⟨cause, rfl⟩

theorem isCount_ne_nil {token : String} (counts : isCount token = true) : token.toList ≠ [] := by
  intro empty
  simp [isCount, empty] at counts

theorem readCount_eq_ok {token : String} {count : Nat} (read : readCount token = .ok (some count)) :
    1 ≤ count := by
  unfold readCount at read
  split at read
  · cases read
  · split at read
    · cases read
    · split at read
      · cases read
      · split at read
        · cases read
        · cases read
          omega

theorem readCount_eq_error {token : String} {fault : Fault}
    (counts : isCount token = true ∨ keyword? token = some .every)
    (failed : readCount token = .error fault) : MayFail [token] fault := by
  unfold readCount at failed
  split at failed
  · cases failed
  · next notEvery =>
      have isNumber := counts.resolve_right notEvery
      split at failed
      · next notDecimal =>
          cases failed
          exact .inr ⟨token, by simp, isNumber, .inl ⟨by simpa using notDecimal, rfl⟩⟩
      · next decimal =>
          have allDecimal : token.toList.all Text.isDecimal = true := by simpa using decimal
          rw [Numeral.readInt_of_decimal (isCount_ne_nil isNumber) allDecimal] at failed
          split at failed
          · next unreadable =>
              cases failed
              split at unreadable
              · next long =>
                  exact .inr ⟨token, by simp, isNumber, .inr ⟨allDecimal, long, rfl⟩⟩
              · cases unreadable
          · split at failed
            · cases failed
              exact .inl ⟨_, rfl⟩
            · cases failed

/-! ## Readers -/

/-- What reading from tokens properly comes to: a condition over the names, with some
of the last tokens left over, or else a failure that may be. -/
def Proper (names tokens : List String) : Except Fault (Condition × List String) → Prop
  | .ok (condition, rest) => condition.IsOver names ∧ rest <:+ tokens
  | .error fault => MayFail tokens fault

section

variable {names tokens : List String}

theorem proper_fail (cause : RuleCause) : Proper names tokens (fail cause) :=
  .inl ⟨cause, rfl⟩

theorem proper_pure {condition : Condition} (isOver : condition.IsOver names) :
    Proper names tokens (pure (condition, tokens)) :=
  ⟨isOver, List.suffix_rfl⟩

theorem Proper.of_suffix {rest : List String} {outcome : Except Fault (Condition × List String)}
    (proper : Proper names rest outcome) (suffix : rest <:+ tokens) :
    Proper names tokens outcome := by
  cases outcome with
  | ok read => exact ⟨proper.1, proper.2.trans suffix⟩
  | error fault => exact MayFail.mono proper fun _ member => suffix.subset member

theorem proper_bind {α : Type} {step : Except Fault α}
    {next : α → Except Fault (Condition × List String)}
    (fails : ∀ fault, step = .error fault → MayFail tokens fault)
    (later : ∀ value, step = .ok value → Proper names tokens (next value)) :
    Proper names tokens (step >>= next) := by
  cases step with
  | ok value => exact later value rfl
  | error fault => exact fails fault rfl

theorem Proper.bind {outcome : Except Fault (Condition × List String)}
    {next : Condition × List String → Except Fault (Condition × List String)}
    (first : Proper names tokens outcome)
    (later : ∀ condition rest, condition.IsOver names →
      Proper names rest (next (condition, rest))) :
    Proper names tokens (outcome >>= next) := by
  refine proper_bind (fun fault failed => by rwa [failed] at first) fun read succeeded => ?_
  rw [succeeded] at first
  exact (later read.1 read.2 first.1).of_suffix first.2

theorem proper_readChain {joint : Keyword} {join : Condition → Condition → Condition}
    {operand : Reader} (operandProper : ∀ tokens, Proper names tokens (operand tokens))
    (joined : ∀ left right, left.IsOver names → right.IsOver names →
      (join left right).IsOver names) (fuel : Nat) {left : Condition}
    (isOver : left.IsOver names) :
    Proper names tokens (readChain joint join operand fuel left tokens) := by
  induction fuel generalizing left tokens with
  | zero => cases tokens <;> exact proper_pure isOver
  | succ fuel induction =>
      cases tokens with
      | nil => exact proper_pure isOver
      | cons token rest =>
          unfold readChain
          split
          · refine ((operandProper rest).bind ?_).of_suffix (List.suffix_cons token rest)
            exact fun right others rightOver => induction (joined left right isOver rightOver)
          · exact proper_pure isOver

theorem proper_readConjunction {operand : Reader} (tokens : List String)
    (operandProper : ∀ tokens, Proper names tokens (operand tokens)) :
    Proper names tokens (readConjunction operand tokens) := by
  have joined (left right : Condition) (leftOver : left.IsOver names)
      (rightOver : right.IsOver names) : (both left right).IsOver names := ⟨leftOver, rightOver⟩
  exact (operandProper tokens).bind fun _ rest isOver =>
    proper_readChain operandProper joined rest.length isOver

theorem proper_readDisjunction {operand : Reader} (tokens : List String)
    (operandProper : ∀ tokens, Proper names tokens (operand tokens)) :
    Proper names tokens (readDisjunction operand tokens) := by
  have joined (left right : Condition) (leftOver : left.IsOver names)
      (rightOver : right.IsOver names) : (either left right).IsOver names := ⟨leftOver, rightOver⟩
  exact (proper_readConjunction tokens operandProper).bind fun _ rest isOver =>
    proper_readChain (fun others => proper_readConjunction others operandProper) joined rest.length
      isOver

theorem proper_readName (token : String) : Proper names tokens (readName names token tokens) := by
  unfold readName
  split
  · exact proper_fail _
  · split
    · next known => exact ⟨by simpa [IsOver] using known, List.suffix_rfl⟩
    · exact proper_fail _

theorem proper_expectClosing {condition : Condition} (isOver : condition.IsOver names) :
    Proper names tokens (expectClosing condition tokens) := by
  unfold expectClosing
  split
  · exact proper_fail _
  · split
    · exact ⟨isOver, List.suffix_cons _ _⟩
    · exact proper_fail _

theorem proper_readQuantified {token : String}
    (counts : isCount token = true ∨ keyword? token = some .every) :
    Proper names (token :: tokens) (readQuantified names token tokens) := by
  unfold readQuantified
  refine proper_bind (fun fault failed => (readCount_eq_error counts failed).mono (by simp))
    fun count counted => ?_
  extract_lets afterOf
  have properAfterOf (rest : List String) : Proper names rest (afterOf rest) := by
    dsimp only [afterOf]
    split
    · exact proper_fail _
    · next group rest =>
        split
        · exact proper_fail _
        · refine proper_bind (fun fault failed => .inl (expandGroup_eq_error failed))
            fun members expanded => ?_
          have selected := expandGroup_eq_ok expanded
          split
          · exact proper_fail _
          · split
            · exact ⟨selected, List.suffix_cons _ _⟩
            · exact ⟨⟨readCount_eq_ok counted, selected⟩, List.suffix_cons _ _⟩
  split
  · exact proper_fail _
  · next found rest =>
      split
      · exact (properAfterOf rest).of_suffix ⟨[token, found], rfl⟩
      · exact proper_fail _

theorem proper_readOperand (fuel : Nat) : Proper names tokens (readOperand names fuel tokens) := by
  induction fuel generalizing tokens with
  | zero => cases tokens <;> exact proper_fail _
  | succ fuel induction =>
      cases tokens with
      | nil => exact proper_fail _
      | cons token rest =>
          have behind : rest <:+ token :: rest := List.suffix_cons token rest
          unfold readOperand
          split
          · have negated (operand : Condition) (others : List String)
                (isOver : operand.IsOver names) :
                Proper names others (pure (.negation operand, others)) := proper_pure isOver
            exact (induction.bind negated).of_suffix behind
          split
          · have inner := proper_readDisjunction rest fun _ => induction
            exact (inner.bind fun _ _ isOver => proper_expectClosing isOver).of_suffix behind
          split
          · exact proper_fail _
          split
          · next counts => exact proper_readQuantified counts
          split
          · exact proper_fail _
          · exact (proper_readName token).of_suffix behind

end

/-! ## Whole conditions -/

theorem proper_whole (tokens names : List String) :
    Proper names tokens (readDisjunction (readOperand names tokens.length) tokens) :=
  proper_readDisjunction tokens fun _ => proper_readOperand tokens.length

theorem parse_eq_ok {text : String} {names : List String} {condition : Condition}
    (parsed : parse text names = .ok condition) : condition.IsOver names := by
  unfold parse ofTokens at parsed
  split at parsed
  · cases parsed
  · rcases bind_eq_ok_iff.mp parsed with ⟨⟨found, rest⟩, read, ending⟩
    have proper := proper_whole (tokens text) names
    rw [read] at proper
    dsimp only at ending
    split at ending
    · cases ending
      exact proper.1
    · cases ending

theorem parse_eq_error {text : String} {names : List String} {fault : Fault}
    (failed : parse text names = .error fault) : MayFail (tokens text) fault := by
  unfold parse ofTokens at failed
  split at failed
  · exact mayFail_of_fail failed
  · rcases bind_eq_error_iff.mp failed with stopped | ⟨⟨found, rest⟩, read, ending⟩
    · have proper := proper_whole (tokens text) names
      rwa [stopped] at proper
    · dsimp only at ending
      split at ending
      · cases ending
      · exact mayFail_of_fail ending

end ThreatWatch.Condition
