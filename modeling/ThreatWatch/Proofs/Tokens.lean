import ThreatWatch.Condition.Token

/-! The tokens of a text are the one list that the text lays out: words and parentheses
in their order, with blanks between them, where two words stand apart. -/

namespace ThreatWatch.Condition

def isOfWord (character : Char) : Bool :=
  !Text.isBlank character && !isParenthesis character

/-- Tokens and the ways to set them in a text. After a word comes the end of the text, a
blank or a parenthesis. -/
inductive LaysOut : List Char → List String → Prop where
  | nothing : LaysOut [] []
  | blank {character : Char} {characters : List Char} {tokens : List String}
      (isBlank : Text.isBlank character = true) (rest : LaysOut characters tokens) :
      LaysOut (character :: characters) tokens
  | parenthesis {character : Char} {characters : List Char} {tokens : List String}
      (isOne : isParenthesis character = true) (rest : LaysOut characters tokens) :
      LaysOut (character :: characters) (String.singleton character :: tokens)
  | word {word characters : List Char} {tokens : List String} (nonempty : word ≠ [])
      (ofWord : ∀ character ∈ word, isOfWord character = true)
      (apart : ∀ character ∈ characters.head?, isOfWord character = false)
      (rest : LaysOut characters tokens) :
      LaysOut (word ++ characters) (String.ofList word :: tokens)

theorem isBlank_of_isParenthesis {character : Char} (isOne : isParenthesis character = true) :
    Text.isBlank character = false := by
  simp only [isParenthesis, Bool.or_eq_true, beq_iff_eq] at isOne
  rcases isOne with rfl | rfl <;> rfl

/-! ## Scanning -/

theorem scanTokens_blank {character : Char} (isBlank : Text.isBlank character = true)
    (word rest : List Char) :
    scanTokens word (character :: rest) = closeWord word (scanTokens [] rest) := by
  rw [scanTokens, if_pos isBlank]

theorem scanTokens_parenthesis {character : Char} (isOne : isParenthesis character = true)
    (word rest : List Char) :
    scanTokens word (character :: rest) = closeWord word ([character] :: scanTokens [] rest) := by
  rw [scanTokens, if_neg (by simp [isBlank_of_isParenthesis isOne]), if_pos isOne]

theorem scanTokens_ofWord {character : Char} (ofWord : isOfWord character = true)
    (word rest : List Char) :
    scanTokens word (character :: rest) = scanTokens (character :: word) rest := by
  simp only [isOfWord, Bool.and_eq_true, Bool.not_eq_true'] at ofWord
  rw [scanTokens, if_neg (by simp [ofWord.1]), if_neg (by simp [ofWord.2])]

theorem scanTokens_append {word : List Char}
    (ofWord : ∀ character ∈ word, isOfWord character = true) (before rest : List Char) :
    scanTokens before (word ++ rest) = scanTokens (word.reverse ++ before) rest := by
  induction word generalizing before with
  | nil => rfl
  | cons character others induction =>
      rcases List.forall_mem_cons.mp ofWord with ⟨here, later⟩
      rw [List.cons_append, scanTokens_ofWord here, induction later, List.reverse_cons,
        List.append_assoc, List.singleton_append]

theorem scanTokens_apart {characters : List Char}
    (apart : ∀ character ∈ characters.head?, isOfWord character = false) (word : List Char) :
    scanTokens word characters = closeWord word (scanTokens [] characters) := by
  cases characters with
  | nil => rfl
  | cons character rest =>
      by_cases isBlank : Text.isBlank character = true
      · rw [scanTokens_blank isBlank, scanTokens_blank isBlank]
        rfl
      · have isOne : isParenthesis character = true := by
          simpa [isOfWord, isBlank] using apart character rfl
        rw [scanTokens_parenthesis isOne, scanTokens_parenthesis isOne]
        rfl

theorem scanTokens_of_laysOut {characters : List Char} {tokens : List String}
    (laysOut : LaysOut characters tokens) :
    scanTokens [] characters = tokens.map String.toList := by
  induction laysOut with
  | nothing => rfl
  | blank isBlank _ induction => rw [scanTokens_blank isBlank, induction]; rfl
  | parenthesis isOne _ induction =>
      rw [scanTokens_parenthesis isOne, induction, List.map_cons, String.toList_singleton]
      rfl
  | word nonempty ofWord apart _ induction =>
      rw [scanTokens_append ofWord, List.append_nil, scanTokens_apart apart, induction,
        closeWord, if_neg (by simpa using nonempty), List.reverse_reverse, List.map_cons,
        String.toList_ofList]

theorem laysOut_closeWord {word characters : List Char} {tokens : List (List Char)}
    (ofWord : ∀ character ∈ word, isOfWord character = true)
    (apart : ∀ character ∈ characters.head?, isOfWord character = false)
    (rest : LaysOut characters (tokens.map String.ofList)) :
    LaysOut (word.reverse ++ characters) ((closeWord word tokens).map String.ofList) := by
  unfold closeWord
  split
  · next empty => simpa [List.isEmpty_iff.mp empty] using rest
  · next nonempty =>
      refine .word ?_ ?_ apart rest
      · simpa using nonempty
      · simpa using ofWord

theorem laysOut_scanTokens {word : List Char}
    (ofWord : ∀ character ∈ word, isOfWord character = true) (characters : List Char) :
    LaysOut (word.reverse ++ characters) ((scanTokens word characters).map String.ofList) := by
  induction characters generalizing word with
  | nil => exact laysOut_closeWord ofWord (by simp) .nothing
  | cons character rest induction =>
      have others : LaysOut rest ((scanTokens [] rest).map String.ofList) := by
        have noWord : ∀ character ∈ ([] : List Char), isOfWord character = true := by simp
        exact induction noWord
      by_cases isBlank : Text.isBlank character = true
      · rw [scanTokens_blank isBlank]
        exact laysOut_closeWord ofWord (by simp [isOfWord, isBlank]) (.blank isBlank others)
      by_cases isOne : isParenthesis character = true
      · rw [scanTokens_parenthesis isOne]
        exact laysOut_closeWord ofWord (by simp [isOfWord, isOne]) (.parenthesis isOne others)
      · have ofWordHere : isOfWord character = true := by simp [isOfWord, isBlank, isOne]
        have longer := induction (List.forall_mem_cons.mpr ⟨ofWordHere, ofWord⟩)
        rw [scanTokens_ofWord ofWordHere]
        simpa using longer

theorem tokens_eq_iff {text : String} {expected : List String} :
    tokens text = expected ↔ LaysOut text.toList expected := by
  constructor
  · rintro rfl
    have noWord : ∀ character ∈ ([] : List Char), isOfWord character = true := by simp
    exact laysOut_scanTokens noWord text.toList
  · intro laysOut
    rw [tokens, scanTokens_of_laysOut laysOut, List.map_map]
    exact (List.map_congr_left fun token _ => String.ofList_toList).trans (List.map_id _)

end ThreatWatch.Condition
