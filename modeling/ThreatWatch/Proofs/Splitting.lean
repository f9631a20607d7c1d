import ThreatWatch.Proofs.Tokens

/-! Tokens and the text that they come from. Joined, they are the text without its blanks; each
is a parenthesis or a word, and two words in a row stand apart. Cutting a text beside a blank or
a parenthesis cuts its tokens at the same place. -/

namespace ThreatWatch.Condition

/-- A token that is no parenthesis: at least one character, each of which can stand in a
word. -/
def IsWord (token : String) : Prop :=
  token ≠ "" ∧ ∀ character ∈ token.toList, isOfWord character = true

theorem not_isWord_singleton {character : Char} (isOne : isParenthesis character = true) :
    ¬IsWord (String.singleton character) := by
  rintro ⟨_, ofWord⟩
  have here := ofWord character (by simp)
  simp [isOfWord, isOne] at here

namespace LaysOut

variable {characters others : List Char} {tokens more before after : List String} {token : String}

/-! ## What the tokens are -/

theorem toList_join (laysOut : LaysOut characters tokens) :
    (String.join tokens).toList = characters.filter fun character => !Text.isBlank character := by
  rw [String.toList_join]
  induction laysOut with
  | nothing => rfl
  | blank isBlank _ induction => rw [List.filter_cons_of_neg (by simp [isBlank]), induction]
  | parenthesis isOne _ induction =>
      rw [List.filter_cons_of_pos (by simp [isBlank_of_isParenthesis isOne]), List.flatMap_cons,
        induction, String.toList_singleton, List.singleton_append]
  | word _ ofWord _ _ induction =>
      have solid := List.filter_eq_self.mpr fun character member =>
        (Bool.and_eq_true_iff.mp (ofWord character member)).1
      rw [List.filter_append, solid, List.flatMap_cons, induction, String.toList_ofList]

theorem parenthesis_or_isWord (laysOut : LaysOut characters tokens) :
    ∀ token ∈ tokens, token = "(" ∨ token = ")" ∨ IsWord token := by
  induction laysOut with
  | nothing => simp
  | blank _ _ induction => exact induction
  | parenthesis isOne _ induction =>
      refine List.forall_mem_cons.mpr ⟨?_, induction⟩
      simp only [isParenthesis, Bool.or_eq_true, beq_iff_eq] at isOne
      rcases isOne with rfl | rfl
      · exact .inl rfl
      · exact .inr (.inl rfl)
  | word nonempty ofWord _ _ induction =>
      refine List.forall_mem_cons.mpr ⟨.inr (.inr ⟨?_, ?_⟩), induction⟩
      · simpa [String.ofList_eq_empty_iff] using nonempty
      · simpa using ofWord

theorem blank_of_mem (laysOut : LaysOut characters []) :
    ∀ character ∈ characters, Text.isBlank character = true := by
  have nothing := laysOut.toList_join
  simpa using nothing.symm

/-! ## Where the tokens stand -/

/-- A token has its place in the text, between what the tokens before it come from and what
the tokens after it come from. -/
theorem split_token (laysOut : LaysOut characters (before ++ token :: after)) :
    ∃ left right, characters = left ++ token.toList ++ right ∧ LaysOut left before ∧
      LaysOut right after ∧
      (IsWord token → ∀ character ∈ right.head?, isOfWord character = false) := by
  generalize all : before ++ token :: after = tokens at laysOut
  induction laysOut generalizing before with
  | nothing => exact absurd all (by simp)
  | blank isBlank _ induction =>
      rcases induction all with ⟨left, right, rfl, ofLeft, ofRight, apart⟩
      exact ⟨_, right, rfl, .blank isBlank ofLeft, ofRight, apart⟩
  | @parenthesis character rest tokens isOne ofRest induction =>
      cases before with
      | nil =>
          rcases List.cons.inj all with ⟨rfl, rfl⟩
          exact ⟨[], rest, by simp, .nothing, ofRest,
            fun isWord => absurd isWord (not_isWord_singleton isOne)⟩
      | cons first earlier =>
          rcases List.cons.inj all with ⟨rfl, others⟩
          rcases induction others with ⟨left, right, rfl, ofLeft, ofRight, apart⟩
          exact ⟨_, right, rfl, .parenthesis isOne ofLeft, ofRight, apart⟩
  | @word word rest tokens nonempty ofWord wordApart ofRest induction =>
      cases before with
      | nil =>
          rcases List.cons.inj all with ⟨rfl, rfl⟩
          exact ⟨[], rest, by simp, .nothing, ofRest, fun _ => wordApart⟩
      | cons first earlier =>
          rcases List.cons.inj all with ⟨rfl, others⟩
          rcases induction others with ⟨left, right, rfl, ofLeft, ofRight, apart⟩
          refine ⟨word ++ left, right, by simp, .word nonempty ofWord ?_ ofLeft, ofRight, apart⟩
          cases left with
          | nil => simp
          | cons next _ => exact wordApart

theorem split_tokens {first second : String}
    (laysOut : LaysOut characters (before ++ first :: second :: after)) :
    ∃ left gap right, characters = left ++ first.toList ++ gap ++ second.toList ++ right ∧
      LaysOut left before ∧ LaysOut right after ∧
      (∀ character ∈ gap, Text.isBlank character = true) ∧
      (IsWord first → IsWord second → gap ≠ []) := by
  rcases laysOut.split_token with ⟨left, rest, rfl, ofLeft, ofRest, apart⟩
  rw [← List.nil_append (second :: after)] at ofRest
  rcases ofRest.split_token with ⟨gap, right, rfl, ofGap, ofRight, _⟩
  refine ⟨left, gap, right, by simp, ofLeft, ofRight, ofGap.blank_of_mem, ?_⟩
  rintro firstIsWord ⟨nonempty, ofWord⟩ rfl
  rcases List.exists_cons_of_ne_nil (show second.toList ≠ [] by simpa using nonempty) with
    ⟨character, others, isSecond⟩
  have here := ofWord character (by simp [isSecond])
  have there := apart firstIsWord character (by simp [isSecond])
  rw [here] at there
  cases there

/-! ## Texts one after the other -/

theorem append (first : LaysOut characters tokens) (second : LaysOut others more)
    (cut : (∀ character ∈ characters.getLast?, isOfWord character = false) ∨
      ∀ character ∈ others.head?, isOfWord character = false) :
    LaysOut (characters ++ others) (tokens ++ more) := by
  induction first with
  | nothing => exact second
  | @blank character rest _ isBlank _ induction =>
      refine .blank isBlank (induction (cut.imp_left fun cut => ?_))
      cases rest with
      | nil => simp
      | cons next rest => simpa using cut
  | @parenthesis character rest _ isOne _ induction =>
      refine .parenthesis isOne (induction (cut.imp_left fun cut => ?_))
      cases rest with
      | nil => simp
      | cons next rest => simpa using cut
  | @word word rest _ nonempty ofWord apart _ induction =>
      rw [List.append_assoc]
      cases rest with
      | nil =>
          have beside : ∀ character ∈ others.head?, isOfWord character = false := by
            refine cut.resolve_left fun cut => ?_
            have last := cut (word.getLast nonempty)
              (by simp [List.getLast?_eq_some_getLast nonempty])
            rw [ofWord _ (List.getLast_mem nonempty)] at last
            cases last
          exact .word nonempty ofWord beside (induction (.inr beside))
      | cons next rest =>
          refine .word nonempty ofWord (by simpa using apart) (induction (cut.imp_left ?_))
          intro cut
          simpa using cut

end LaysOut

/-! ## Texts -/

theorem laysOut_tokens (text : String) : LaysOut text.toList (tokens text) :=
  tokens_eq_iff.mp rfl

/-- Joined, the tokens of a text are the text without its blanks. Each of them is a parenthesis
or a word; two in a row have blanks alone between them, and some if both are words. Where a text
ends in a blank or a parenthesis, or what follows it begins with one, both together have the
tokens of the one and then those of the other. -/
theorem tokens_split_without_loss (text : String) :
    String.join (tokens text) =
      String.ofList (text.toList.filter fun character => !Text.isBlank character) ∧
    (∀ token ∈ tokens text, token = "(" ∨ token = ")" ∨ IsWord token) ∧
    (∀ before first second after, tokens text = before ++ first :: second :: after →
      ∃ left gap right, text = left ++ first ++ gap ++ second ++ right ∧
        tokens left = before ∧ tokens right = after ∧
        (∀ character ∈ gap.toList, Text.isBlank character = true) ∧
        (IsWord first → IsWord second → gap ≠ "")) ∧
    ∀ other : String,
      ((∀ character ∈ text.toList.getLast?, isOfWord character = false) ∨
        ∀ character ∈ other.toList.head?, isOfWord character = false) →
      tokens (text ++ other) = tokens text ++ tokens other := by
  have laysOut := laysOut_tokens text
  refine ⟨?_, laysOut.parenthesis_or_isWord, ?_, fun other cut => ?_⟩
  · rw [← laysOut.toList_join, String.ofList_toList]
  · intro before first second after all
    rw [all] at laysOut
    rcases laysOut.split_tokens with ⟨left, gap, right, isText, ofLeft, ofRight, blank, apart⟩
    refine ⟨String.ofList left, String.ofList gap, String.ofList right, ?_,
      tokens_eq_iff.mpr (by simpa using ofLeft), tokens_eq_iff.mpr (by simpa using ofRight),
      by simpa using blank, by simpa using apart⟩
    rw [← String.toList_inj, isText]
    simp
  · rw [tokens_eq_iff, String.toList_append]
    exact laysOut.append (laysOut_tokens other) cut

/-- A condition that is cut behind its parenthesis, with a no-break space between its words. -/
theorem cut_condition_is_split :
    tokens "not\u00a0all(" = ["not", "all", "("] ∧
      (∃ left gap right, "not\u00a0all(" = left ++ "not" ++ gap ++ "all" ++ right ∧
        tokens left = [] ∧ tokens right = ["("] ∧ gap ≠ "") ∧
      tokens ("not\u00a0all(" ++ "of them)") = ["not", "all", "(", "of", "them", ")"] := by
  have here : tokens "not\u00a0all(" = ["not", "all", "("] := by decide +kernel
  have there : tokens "of them)" = ["of", "them", ")"] := by decide +kernel
  have notIsWord : IsWord "not" := ⟨by decide, List.all_eq_true.mp (by decide +kernel)⟩
  have allIsWord : IsWord "all" := ⟨by decide, List.all_eq_true.mp (by decide +kernel)⟩
  have cutBehind : "not\u00a0all(".toList.getLast?.all (!isOfWord ·) = true := by decide +kernel
  rcases tokens_split_without_loss "not\u00a0all(" with ⟨_, _, apart, cut⟩
  rcases apart [] "not" "all" ["("] here with ⟨left, gap, right, isText, ofLeft, ofRight, _, gapped⟩
  refine ⟨here, ⟨left, gap, right, isText, ofLeft, ofRight, gapped notIsWord allIsWord⟩, ?_⟩
  rw [cut "of them)" (.inl (by simpa using cutBehind)), here, there]
  rfl

end ThreatWatch.Condition
