import ThreatWatch.Proofs.Spelling

/-! The grammar of conditions and its reader. Negation binds tightest, then conjunction,
then disjunction, and both binary connectives group to the left. A list of tokens is
read as a condition exactly where the grammar derives the condition from it, and it
derives at most one. -/

namespace ThreatWatch.Condition

/-! ## The grammar -/

/-- What a group stands for: all selections, or those that begin like the group up to
its star. -/
inductive StandsFor (names : List String) (group : String) : List String → Prop where
  | whole (isWhole : keyword? group = some .wholeGroup) : StandsFor names group names
  | beginning {start : List Char} (starred : group.toList = start ++ ['*'])
      (plain : '*' ∉ start) (begun : ∃ name ∈ names, start <+: name.toList) :
      StandsFor names group (names.filter fun name => Text.startsWith start name.toList)

/-- A token that can name a selection. -/
structure IsName (token : String) : Prop where
  noKeyword : keyword? token = none
  noCount : isCount token = false
  noStar : '*' ∉ token.toList
  noOpening : token ≠ "("
  noClosing : token ≠ ")"

/-- The parts of a condition, from the one that binds loosest. -/
inductive Rank where
  | disjunction
  | conjunction
  | negation
  | atom
  deriving DecidableEq, Repr

/-- The tokens that make up a condition over the selections of a rule. A chain of one
connective is a shorter chain and the last operand, so that it groups to the left. -/
inductive Derives (names : List String) : Rank → List String → Condition → Prop where
  | conjunction {tokens : List String} {condition : Condition}
      (only : Derives names .conjunction tokens condition) :
      Derives names .disjunction tokens condition
  | either {joint : String} {left right : List String} {first last : Condition}
      (joins : keyword? joint = some .disjunction) (chain : Derives names .disjunction left first)
      (operand : Derives names .conjunction right last) :
      Derives names .disjunction (left ++ joint :: right) (.either first last)
  | negation {tokens : List String} {condition : Condition}
      (only : Derives names .negation tokens condition) :
      Derives names .conjunction tokens condition
  | both {joint : String} {left right : List String} {first last : Condition}
      (joins : keyword? joint = some .conjunction) (chain : Derives names .conjunction left first)
      (operand : Derives names .negation right last) :
      Derives names .conjunction (left ++ joint :: right) (.both first last)
  | atom {tokens : List String} {condition : Condition}
      (only : Derives names .atom tokens condition) : Derives names .negation tokens condition
  | not {token : String} {tokens : List String} {condition : Condition}
      (negates : keyword? token = some .negation)
      (operand : Derives names .negation tokens condition) :
      Derives names .negation (token :: tokens) (.negation condition)
  | parentheses {tokens : List String} {condition : Condition}
      (inside : Derives names .disjunction tokens condition) :
      Derives names .atom ("(" :: tokens ++ [")"]) condition
  | name {token : String} (isName : IsName token) (known : token ∈ names) :
      Derives names .atom [token] (.selection token)
  | atLeast {token joint group : String} {count : Nat} {members : List String}
      (writes : Writes token count) (positive : 1 ≤ count)
      (joins : keyword? joint = some .quantifier) (stands : StandsFor names group members)
      (nonempty : members ≠ []) :
      Derives names .atom [token, joint, group] (.atLeast count members group)
  | every {token joint group : String} {members : List String}
      (all : keyword? token = some .every) (joins : keyword? joint = some .quantifier)
      (stands : StandsFor names group members) (nonempty : members ≠ []) :
      Derives names .atom [token, joint, group] (.every members group)

theorem Derives.ne_nil {names tokens : List String} {rank : Rank} {condition : Condition}
    (derives : Derives names rank tokens condition) : tokens ≠ [] := by
  induction derives with
  | conjunction _ induction | negation _ induction | atom _ induction => exact induction
  | either | both | not | parentheses | name | atLeast | every => simp

/-! ## Groups and quantifiers -/

theorem StandsFor.not_parenthesis {names members : List String} {group : String}
    (stands : StandsFor names group members) : ¬(group = "(" ∨ group = ")") := by
  cases stands with
  | whole isWhole =>
      rintro (rfl | rfl) <;> revert isWhole <;> decide
  | beginning starred =>
      have ends : group.toList.getLast? = some '*' := by simp [starred]
      rintro (rfl | rfl) <;> revert ends <;> decide

theorem expandGroup_eq_ok_iff {names members : List String} {group : String} (nonempty : members ≠ []) :
    expandGroup group names = .ok members ↔ StandsFor names group members := by
  constructor
  · intro expanded
    unfold expandGroup at expanded
    split at expanded
    · next isWhole =>
        cases expanded
        exact .whole isWhole
    · split at expanded
      · next starred =>
          dsimp only at expanded
          split at expanded
          · cases expanded
          · next plain =>
              cases expanded
              rcases List.exists_mem_of_ne_nil _ nonempty with ⟨name, member⟩
              rcases List.mem_filter.mp member with ⟨known, begins⟩
              refine .beginning (List.dropLast_append_getLast? _ starred).symm ?_
                ⟨name, known, List.isPrefixOf_iff_prefix.mp begins⟩
              simpa using plain
      · cases expanded
  · intro stands
    cases stands with
    | whole isWhole => simp [expandGroup, isWhole]
    | beginning starred plain =>
        have noKeyword : keyword? group = none := keyword?_of_star (by simp [starred])
        simp [expandGroup, noKeyword, starred, plain]

/-- What a quantifier with a count, or with none where it is for all, comes to. -/
def quantified (members : List String) (group : String) : Option Nat → Condition
  | none => .every members group
  | some count => .atLeast count members group

theorem readQuantified_eq_ok_iff {names tokens rest : List String} {token : String}
    {condition : Condition} :
    readQuantified names token tokens = .ok (condition, rest) ↔
      ∃ count joint group members, readCount token = .ok count ∧
        tokens = joint :: group :: rest ∧ keyword? joint = some .quantifier ∧
        StandsFor names group members ∧ members ≠ [] ∧
        condition = quantified members group count := by
  constructor
  · intro read
    rcases bind_eq_ok_iff.mp read with ⟨count, counted, afterCount⟩
    extract_lets afterOf at afterCount
    split at afterCount
    · cases afterCount
    · next joint behind =>
        split at afterCount
        · next joins =>
            rcases bind_eq_ok_iff.mp afterCount with ⟨others, same, grouped⟩
            cases same
            dsimp only [afterOf] at grouped
            split at grouped
            · cases grouped
            · next group remaining =>
                split at grouped
                · cases grouped
                · rcases bind_eq_ok_iff.mp grouped with ⟨members, expanded, made⟩
                  split at made
                  · cases made
                  · next notEmpty =>
                      have nonempty : members ≠ [] := by simpa using notEmpty
                      have stands := (expandGroup_eq_ok_iff nonempty).mp expanded
                      split at made <;> cases made <;>
                        exact ⟨_, joint, group, members, counted, rfl, joins, stands, nonempty, rfl⟩
        · cases afterCount
  · rintro ⟨count, joint, group, members, counted, rfl, joins, stands, nonempty, rfl⟩
    have expanded := (expandGroup_eq_ok_iff nonempty).mpr stands
    unfold readQuantified
    simp only [counted, joins, expanded, if_neg stands.not_parenthesis, bind, Except.bind, if_true]
    rw [if_neg (by simpa using nonempty)]
    cases count <;> rfl

/-! ## What is read is derived -/

def Obeys (names : List String) (rank : Rank) (reader : Reader) : Prop :=
  ∀ tokens condition rest, reader tokens = .ok (condition, rest) →
    ∃ used, tokens = used ++ rest ∧ Derives names rank used condition

section

variable {names : List String}

theorem derives_of_readChain {joint : Keyword} {join : Condition → Condition → Condition}
    {operand : Reader} {upper lower : Rank} (obeys : Obeys names lower operand)
    (joined : ∀ {token left right first last}, keyword? token = some joint →
      Derives names upper left first → Derives names lower right last →
      Derives names upper (left ++ token :: right) (join first last))
    {fuel : Nat} {used tokens rest : List String} {left condition : Condition}
    (before : Derives names upper used left)
    (read : readChain joint join operand fuel left tokens = .ok (condition, rest)) :
    ∃ more, tokens = more ++ rest ∧ Derives names upper (used ++ more) condition := by
  induction fuel generalizing used left tokens with
  | zero =>
      cases tokens <;> cases read <;> exact ⟨[], rfl, by simpa using before⟩
  | succ fuel induction =>
      cases tokens with
      | nil =>
          cases read
          exact ⟨[], rfl, by simpa using before⟩
      | cons token others =>
          unfold readChain at read
          split at read
          · next joins =>
              rcases bind_eq_ok_iff.mp read with ⟨⟨right, behind⟩, readRight, readMore⟩
              rcases obeys _ _ _ readRight with ⟨usedRight, rfl, derivesRight⟩
              rcases induction (joined joins before derivesRight) readMore with
                ⟨more, rfl, derives⟩
              exact ⟨token :: usedRight ++ more, by simp, by simpa using derives⟩
          · cases read
            exact ⟨[], rfl, by simpa using before⟩

theorem obeys_readConjunction {operand : Reader} (obeys : Obeys names .negation operand) :
    Obeys names .conjunction (readConjunction operand) := by
  intro tokens condition rest read
  rcases bind_eq_ok_iff.mp read with ⟨⟨left, behind⟩, readLeft, readMore⟩
  rcases obeys _ _ _ readLeft with ⟨used, rfl, derivesLeft⟩
  rcases derives_of_readChain obeys .both (.negation derivesLeft) readMore with
    ⟨more, rfl, derives⟩
  exact ⟨used ++ more, by simp, derives⟩

theorem obeys_readDisjunction {operand : Reader} (obeys : Obeys names .negation operand) :
    Obeys names .disjunction (readDisjunction operand) := by
  intro tokens condition rest read
  rcases bind_eq_ok_iff.mp read with ⟨⟨left, behind⟩, readLeft, readMore⟩
  have obeysOperand := obeys_readConjunction obeys
  rcases obeysOperand _ _ _ readLeft with ⟨used, rfl, derivesLeft⟩
  rcases derives_of_readChain obeysOperand .either (.conjunction derivesLeft) readMore with
    ⟨more, rfl, derives⟩
  exact ⟨used ++ more, by simp, derives⟩

theorem derives_of_readQuantified {token : String} {tokens rest : List String}
    {condition : Condition} (counts : isCount token = true ∨ keyword? token = some .every)
    (read : readQuantified names token tokens = .ok (condition, rest)) :
    ∃ used, tokens = used ++ rest ∧ Derives names .atom (token :: used) condition := by
  rcases readQuantified_eq_ok_iff.mp read with
    ⟨count, joint, group, members, counted, rfl, joins, stands, nonempty, rfl⟩
  refine ⟨[joint, group], rfl, ?_⟩
  by_cases all : keyword? token = some .every
  · rw [readCount, if_pos all] at counted
    cases counted
    exact .every all joins stands nonempty
  · cases count with
    | none => exact absurd counted (readCount_ne_none all)
    | some number =>
        have written := (readCount_eq_ok_some_iff (counts.resolve_right all)).mp counted
        exact .atLeast written.1 written.2 joins stands nonempty

theorem obeys_readOperand (fuel : Nat) : Obeys names .negation (readOperand names fuel) := by
  induction fuel with
  | zero =>
      intro tokens condition rest read
      cases tokens <;> cases read
  | succ fuel induction =>
      intro tokens condition rest read
      cases tokens with
      | nil => cases read
      | cons token others =>
          unfold readOperand at read
          split at read
          · next negates =>
              rcases bind_eq_ok_iff.mp read with ⟨⟨operand, behind⟩, readInner, made⟩
              rcases induction _ _ _ readInner with ⟨used, rfl, derives⟩
              cases made
              exact ⟨token :: used, rfl, .not negates derives⟩
          split at read
          · next opens =>
              rcases bind_eq_ok_iff.mp read with ⟨⟨inner, behind⟩, readInner, closed⟩
              rcases obeys_readDisjunction induction _ _ _ readInner with ⟨used, rfl, derives⟩
              subst opens
              dsimp only at closed
              unfold expectClosing at closed
              split at closed
              · cases closed
              · split at closed
                · next closes =>
                    cases closed
                    subst closes
                    exact ⟨"(" :: used ++ [")"], by simp, .atom (.parentheses derives)⟩
                · cases closed
          split at read
          · cases read
          split at read
          · next counts =>
              rcases derives_of_readQuantified counts read with ⟨used, rfl, derives⟩
              exact ⟨token :: used, rfl, .atom derives⟩
          split at read
          · cases read
          · next noOpening noClosing noCount noKeyword =>
              unfold readName at read
              split at read
              · cases read
              · next noStar =>
                  split at read
                  · next known =>
                      cases read
                      refine ⟨[token], rfl, .atom (.name ⟨?_, ?_, ?_, noOpening, noClosing⟩ ?_)⟩
                      · simpa using noKeyword
                      · simpa using fun counts => noCount (.inl counts)
                      · simpa using noStar
                      · simpa using known
                  · cases read

/-! ## What is derived is read -/

def Halts (keyword : Keyword) (tokens : List String) : Prop :=
  ∀ token ∈ tokens.head?, keyword? token ≠ some keyword

theorem readChain_of_halts {joint : Keyword} {join : Condition → Condition → Condition}
    {operand : Reader} {fuel : Nat} {left : Condition} {rest : List String}
    (halts : Halts joint rest) : readChain joint join operand fuel left rest = .ok (left, rest) := by
  cases rest with
  | nil => cases fuel <;> rfl
  | cons token others =>
      cases fuel with
      | zero => rfl
      | succ fuel => rw [readChain, if_neg (halts token rfl)]

theorem Obeys.length_le {rank : Rank} {reader : Reader} (obeys : Obeys names rank reader)
    {tokens rest : List String} {condition : Condition}
    (read : reader tokens = .ok (condition, rest)) : rest.length ≤ tokens.length := by
  rcases obeys _ _ _ read with ⟨used, rfl, -⟩
  simp

theorem readChain_congr_fuel {joint : Keyword} {join : Condition → Condition → Condition}
    {operand : Reader} {rank : Rank} (obeys : Obeys names rank operand) {fuel more : Nat}
    {left : Condition} {tokens : List String} (enough : tokens.length ≤ fuel)
    (enoughMore : tokens.length ≤ more) :
    readChain joint join operand fuel left tokens =
      readChain joint join operand more left tokens := by
  induction fuel generalizing more left tokens with
  | zero =>
      have empty : tokens = [] := List.eq_nil_of_length_eq_zero (Nat.le_zero.mp enough)
      subst empty
      cases more <;> rfl
  | succ fuel induction =>
      cases tokens with
      | nil => cases more <;> rfl
      | cons token others =>
          rw [List.length_cons] at enough enoughMore
          obtain ⟨more, rfl⟩ : ∃ less, more = less + 1 := ⟨more - 1, by omega⟩
          unfold readChain
          split
          · cases read : operand others with
            | error fault => rfl
            | ok found =>
                have shorter : found.2.length ≤ others.length := obeys.length_le read
                exact induction (by omega) (by omega)
          · rfl

theorem readChain_joint {joint : Keyword} {join : Condition → Condition → Condition}
    {operand : Reader} {rank : Rank} (obeys : Obeys names rank operand) {token : String}
    {left right : Condition} {tokens rest : List String} (joins : keyword? token = some joint)
    (read : operand tokens = .ok (right, rest)) :
    readChain joint join operand (token :: tokens).length left (token :: tokens) =
      readChain joint join operand rest.length (join left right) rest := by
  have shorter := obeys.length_le read
  rw [List.length_cons, readChain, if_pos joins, read]
  exact readChain_congr_fuel obeys shorter (Nat.le_refl _)

/-- How the readers read the tokens of a condition, whatever comes after them. A part of
a chain leaves the rest of the chain to be read. -/
def Readable (names : List String) : Rank → List String → Condition → Prop
  | .disjunction, tokens, condition => ∀ fuel rest, tokens.length ≤ fuel → Halts .conjunction rest →
      readDisjunction (readOperand names fuel) (tokens ++ rest) =
        readChain .disjunction .either (readConjunction (readOperand names fuel)) rest.length
          condition rest
  | .conjunction, tokens, condition => ∀ fuel rest, tokens.length ≤ fuel →
      readConjunction (readOperand names fuel) (tokens ++ rest) =
        readChain .conjunction .both (readOperand names fuel) rest.length condition rest
  | .negation, tokens, condition | .atom, tokens, condition => ∀ fuel rest, tokens.length ≤ fuel →
      readOperand names fuel (tokens ++ rest) = .ok (condition, rest)

theorem halts_of_keyword? {keyword other : Keyword} {token : String} {tokens : List String}
    (found : keyword? token = some other) (different : other ≠ keyword) :
    Halts keyword (token :: tokens) := by
  intro first isFirst equal
  cases isFirst
  rw [found] at equal
  exact different (Option.some.inj equal)

theorem halts_closing (keyword : Keyword) (tokens : List String) :
    Halts keyword (")" :: tokens) := by
  intro first isFirst
  cases isFirst
  cases keyword <;> decide

theorem readConjunction_of_readable {tokens rest : List String} {condition : Condition}
    (readable : Readable names .conjunction tokens condition) {fuel : Nat}
    (enough : tokens.length ≤ fuel) (halts : Halts .conjunction rest) :
    readConjunction (readOperand names fuel) (tokens ++ rest) = .ok (condition, rest) := by
  rw [readable fuel rest enough, readChain_of_halts halts]

theorem readable_conjunction {tokens : List String} {condition : Condition}
    (only : Readable names .conjunction tokens condition) :
    Readable names .disjunction tokens condition := by
  intro fuel rest enough halts
  rw [readDisjunction, readConjunction_of_readable only enough halts]
  rfl

theorem readable_either {joint : String} {left right : List String} {first last : Condition}
    (joins : keyword? joint = some .disjunction) (chain : Readable names .disjunction left first)
    (operand : Readable names .conjunction right last) :
    Readable names .disjunction (left ++ joint :: right) (.either first last) := by
  intro fuel rest enough halts
  have lengths : (left ++ joint :: right).length = left.length + right.length + 1 := by
    simp [Nat.add_assoc]
  have obeys : Obeys names .conjunction (readConjunction (readOperand names fuel)) :=
    obeys_readConjunction (obeys_readOperand fuel)
  rw [List.append_assoc, List.cons_append,
    chain fuel _ (by omega) (halts_of_keyword? joins (by decide))]
  exact readChain_joint obeys joins (readConjunction_of_readable operand (by omega) halts)

theorem readable_negation {tokens : List String} {condition : Condition}
    (only : Readable names .negation tokens condition) :
    Readable names .conjunction tokens condition := by
  intro fuel rest enough
  rw [readConjunction, only fuel rest enough]
  rfl

theorem readable_both {joint : String} {left right : List String} {first last : Condition}
    (joins : keyword? joint = some .conjunction) (chain : Readable names .conjunction left first)
    (operand : Readable names .negation right last) :
    Readable names .conjunction (left ++ joint :: right) (.both first last) := by
  intro fuel rest enough
  have lengths : (left ++ joint :: right).length = left.length + right.length + 1 := by
    simp [Nat.add_assoc]
  rw [List.append_assoc, List.cons_append, chain fuel _ (by omega)]
  exact readChain_joint (obeys_readOperand fuel) joins (operand fuel rest (by omega))

theorem readable_not {token : String} {tokens : List String} {condition : Condition}
    (negates : keyword? token = some .negation)
    (operand : Readable names .negation tokens condition) :
    Readable names .negation (token :: tokens) (.negation condition) := by
  intro fuel rest enough
  rw [List.length_cons] at enough
  obtain ⟨fuel, rfl⟩ : ∃ less, fuel = less + 1 := ⟨fuel - 1, by omega⟩
  rw [List.cons_append, readOperand, if_pos negates, operand fuel rest (by omega)]
  rfl

theorem readable_parentheses {tokens : List String} {condition : Condition}
    (inside : Readable names .disjunction tokens condition) :
    Readable names .atom ("(" :: tokens ++ [")"]) condition := by
  intro fuel rest enough
  have lengths : ("(" :: tokens ++ [")"]).length = tokens.length + 2 := by simp
  obtain ⟨fuel, rfl⟩ : ∃ less, fuel = less + 1 := ⟨fuel - 1, by omega⟩
  have noNegation : keyword? "(" ≠ some .negation := by decide
  rw [List.append_assoc, List.cons_append, readOperand, if_neg noNegation, if_pos rfl,
    List.singleton_append, inside fuel _ (by omega) (halts_closing _ _),
    readChain_of_halts (halts_closing _ _)]
  rfl

theorem readable_name {token : String} (isName : IsName token) (known : token ∈ names) :
    Readable names .atom [token] (.selection token) := by
  intro fuel rest enough
  obtain ⟨fuel, rfl⟩ : ∃ less, fuel = less + 1 := ⟨fuel - 1, by simp at enough; omega⟩
  simp [readOperand, readName, isName.noKeyword, isName.noCount, isName.noStar, isName.noOpening,
    isName.noClosing, known]

theorem readable_quantified {token joint group : String} {members : List String}
    {count : Option Nat} (counts : isCount token = true ∨ keyword? token = some .every)
    (noNegation : keyword? token ≠ some .negation) (counted : readCount token = .ok count)
    (joins : keyword? joint = some .quantifier) (stands : StandsFor names group members)
    (nonempty : members ≠ []) :
    Readable names .atom [token, joint, group] (quantified members group count) := by
  intro fuel rest enough
  obtain ⟨fuel, rfl⟩ : ∃ less, fuel = less + 1 := ⟨fuel - 1, by simp at enough; omega⟩
  have noParenthesis : token ≠ "(" ∧ token ≠ ")" := by
    constructor <;> rintro rfl <;> revert counts <;> decide
  rw [List.cons_append, readOperand, if_neg noNegation, if_neg noParenthesis.1,
    if_neg noParenthesis.2, if_pos counts]
  exact readQuantified_eq_ok_iff.mpr
    ⟨count, joint, group, members, counted, rfl, joins, stands, nonempty, rfl⟩

theorem readable_of_derives {rank : Rank} {tokens : List String} {condition : Condition}
    (derives : Derives names rank tokens condition) : Readable names rank tokens condition := by
  induction derives with
  | conjunction _ only => exact readable_conjunction only
  | either joins _ _ chain operand => exact readable_either joins chain operand
  | negation _ only => exact readable_negation only
  | both joins _ _ chain operand => exact readable_both joins chain operand
  | atom _ only => exact only
  | not negates _ operand => exact readable_not negates operand
  | parentheses _ inside => exact readable_parentheses inside
  | name isName known => exact readable_name isName known
  | atLeast writes positive joins stands nonempty =>
      have counted := (readCount_eq_ok_some_iff writes.isCount).mpr ⟨writes, positive⟩
      exact readable_quantified (.inl writes.isCount) (by simp [writes.keyword?_eq_none]) counted
        joins stands nonempty
  | every all joins stands nonempty =>
      exact readable_quantified (.inr all) (by simp [all]) (if_pos all) joins stands nonempty

end

/-! ## Whole conditions -/

theorem ofTokens_eq_ok_iff {tokens names : List String} {condition : Condition} :
    ofTokens tokens names = .ok condition ↔ Derives names .disjunction tokens condition := by
  have obeysOperand : Obeys names .negation (readOperand names tokens.length) :=
    obeys_readOperand tokens.length
  have obeys := obeys_readDisjunction obeysOperand
  constructor
  · intro read
    unfold ofTokens at read
    split at read
    · cases read
    · rcases bind_eq_ok_iff.mp read with ⟨⟨found, rest⟩, begins, ends⟩
      rcases obeys _ _ _ begins with ⟨used, whole, derives⟩
      dsimp only at ends
      split at ends
      · next nothing =>
          cases ends
          rw [List.isEmpty_iff.mp nothing, List.append_nil] at whole
          rwa [whole]
      · cases ends
  · intro derives
    have halts : Halts .conjunction [] := by simp [Halts]
    have read := readable_of_derives derives tokens.length [] (Nat.le_refl _) halts
    rw [List.append_nil] at read
    simp [ofTokens, derives.ne_nil, read, readChain, bind, Except.bind, pure, Except.pure]

/-- The reader gives a condition exactly where the grammar derives it from all of the
tokens. The grammar derives at most one, and where it derives none the reader fails. -/
theorem ofTokens_reads_grammar (tokens names : List String) :
    (∀ condition, ofTokens tokens names = .ok condition ↔
      Derives names .disjunction tokens condition) ∧
    ((∃! condition, Derives names .disjunction tokens condition) ∨
      (∀ condition, ¬Derives names .disjunction tokens condition) ∧
        ∃ fault, ofTokens tokens names = .error fault) := by
  refine ⟨fun condition => ofTokens_eq_ok_iff, ?_⟩
  cases read : ofTokens tokens names with
  | ok condition =>
      refine .inl ⟨condition, ofTokens_eq_ok_iff.mp read, fun other derives => ?_⟩
      have readOther := ofTokens_eq_ok_iff.mpr derives
      rw [read] at readOther
      exact (Except.ok.inj readOther).symm
  | error fault =>
      refine .inr ⟨fun condition derives => ?_, fault, rfl⟩
      have readSome := ofTokens_eq_ok_iff.mpr derives
      rw [read] at readSome
      cases readSome

/-- A group of all selections stands for none where the rule has none, and then the
quantifier is refused. -/
theorem group_of_no_selections_refused :
    keyword? "all" = some .every ∧ keyword? "of" = some .quantifier ∧ StandsFor [] "them" [] ∧
      ofTokens ["all", "of", "them"] [] = .error (.ofCause (.emptyGroup "them")) :=
  ⟨rfl, rfl, .whole rfl, rfl⟩

end ThreatWatch.Condition
