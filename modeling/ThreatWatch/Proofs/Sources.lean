import ThreatWatch.Proofs.Drafting

/-! Where the values of an event come from. The body of a raw mapping is a mapping as it stands or
a text that holds a JSON object; the fields of its event data are added at its end. A target of
the table of mappings takes the first filled value among its paths. -/

namespace ThreatWatch

/-! ## Texts that hold JSON objects -/

namespace Text

theorem head?_trimCharacters (characters : List Char) :
    (trimCharacters characters).head? = (characters.dropWhile isBlank).head? := by
  unfold trimCharacters trimEnd
  cases started : characters.dropWhile isBlank with
  | nil => rfl
  | cons first rest =>
      have solid : isBlank first = false := by
        have found := List.head?_dropWhile_not isBlank characters
        simpa [started] using found
      rw [List.reverse_cons, List.dropWhile_append]
      split
      · simp [solid]
      · simp

end Text

namespace Json

variable {characters rest after : List Char} {value : Value} {first : Char}

theorem isBlank_of_isBlank (blank : isBlank first = true) : Text.isBlank first = true := by
  simp only [isBlank, Bool.or_eq_true, beq_iff_eq] at blank
  rcases blank with ((rfl | rfl) | rfl) | rfl <;> decide

theorem dropWhile_skipBlank (characters : List Char) :
    (skipBlank characters).dropWhile Text.isBlank = characters.dropWhile Text.isBlank := by
  induction characters with
  | nil => rfl
  | cons first rest induction =>
      unfold skipBlank at induction ⊢
      rw [List.dropWhile_cons]
      split
      · next blank => rw [induction, List.dropWhile_cons, if_pos (isBlank_of_isBlank blank)]
      · rfl

theorem solid_of_readWord? {result : Value × List Char}
    (read : readWord? (first :: rest) = some result) :
    Text.isBlank first = false ∧ ∀ entries, result.1 ≠ .map entries := by
  obtain ⟨entry, found, rfl⟩ := Option.map_eq_some_iff.mp read
  have starts := List.find?_some found
  have member := List.mem_of_find?_eq_some found
  simp only [words, List.mem_cons, List.not_mem_nil, or_false] at member
  rcases member with rfl | rfl | rfl | rfl | rfl | rfl
  all_goals
    simp only [Text.startsWith] at starts
    obtain ⟨same, _⟩ := Bool.and_eq_true_iff.mp starts
    rw [← beq_iff_eq.mp same]
    exact ⟨by decide, by simp⟩

theorem solid_of_readNumber (read : readNumber (first :: rest) = .ok (value, after)) :
    Text.isBlank first = false ∧ ∀ entries, value ≠ .map entries := by
  unfold readNumber at read
  dsimp only at read
  split at read
  · cases read
  · next whole unread told =>
      obtain ⟨unsigned, plain, filled⟩ := wholeDigits_eq_some told
      have digit : ∀ character ∈ whole, Text.isBlank character = false :=
        Numeral.forall_of_plain plain (by decide)
      constructor
      · by_cases sign : first = '-'
        · rw [sign]
          decide
        · obtain ⟨start, others, rfl⟩ := List.exists_cons_of_ne_nil filled
          split at unsigned
          · next signed =>
              cases signed
              exact absurd rfl sign
          · cases unsigned
            exact digit first List.mem_cons_self
      · split at read <;> split at read <;> cases read <;> simp

theorem solid_of_readValue {fuel : Nat} (read : readValue fuel characters = .ok (value, after)) :
    ∃ first rest, characters = first :: rest ∧ Text.isBlank first = false ∧
      (first = '\x7b' ↔ ∃ entries, value = .map entries) := by
  cases fuel with
  | zero => cases read
  | succ fuel =>
      unfold readValue at read
      split at read
      · obtain ⟨_, _, made⟩ := bind_eq_ok_iff.mp read
        cases made
        exact ⟨_, _, rfl, by decide, by simp⟩
      · obtain ⟨_, _, made⟩ := bind_eq_ok_iff.mp read
        cases made
        exact ⟨_, _, rfl, by decide, by simp⟩
      · obtain ⟨_, _, made⟩ := bind_eq_ok_iff.mp read
        cases made
        exact ⟨_, _, rfl, by decide, by simp⟩
      · next noText noMap noList =>
          cases characters with
          | nil => cases read
          | cons first rest =>
              have noBrace : first ≠ '\x7b' := fun brace => noMap rest (by rw [brace])
              have isSolid : Text.isBlank first = false ∧ ∀ entries, value ≠ .map entries := by
                split at read
                · next found =>
                    cases read
                    exact solid_of_readWord? found
                · exact solid_of_readNumber read
              refine ⟨first, rest, rfl, isSolid.1, ?_⟩
              simp [noBrace, isSolid.2]

theorem head?_trim_eq_brace_iff {content : String} (told : read content = .ok value) :
    (Text.trim content).toList.head? = some '\x7b' ↔ ∃ entries, value = .map entries := by
  obtain ⟨⟨found, after⟩, here, ended⟩ := bind_eq_ok_iff.mp told
  obtain ⟨first, rest, started, solid, brace⟩ := solid_of_readValue here
  dsimp only at ended
  split at ended
  · cases ended
    rw [← brace, Text.trim, String.toList_ofList, Text.head?_trimCharacters, ← dropWhile_skipBlank,
      started, List.dropWhile_cons, if_neg (by simp [solid]), List.head?_cons, Option.some.injEq]
  · cases ended

end Json

namespace EventMapping

variable {raw mappings expanded mapped entries : Entries} {body read : Value}

/-! ## Bodies -/

def missingFrom (entries : Entries) : Entries → Entries
  | [] => []
  | entry :: rest =>
      if (Value.lookup? entries entry.1).isSome then missingFrom entries rest
      else entry :: missingFrom (entries ++ [entry]) rest

def withEventData (entries : Entries) : Entries :=
  match Value.entry entries "EventData" with
  | .map data => entries ++ missingFrom entries data
  | _ => entries

/-- What a body counts as: a mapping, or a text that holds one in JSON, counts with its event
data, and anything else as it is. -/
inductive CountsAs : Value → Value → Prop where
  | parsed {content : String} {entries : Entries}
      (object : Json.read content = .ok (.map entries)) :
      CountsAs (.text content) (.map (withEventData entries))
  | mapping (entries : Entries) : CountsAs (.map entries) (.map (withEventData entries))
  | other {body : Value} (noMapping : ∀ entries, body ≠ .map entries)
      (noObject : ∀ content entries, body = .text content →
        Json.read content ≠ .ok (.map entries)) : CountsAs body body

/-- Raw entries with their body, if they have one, as what it counts as. -/
inductive Expands (raw : Entries) : Entries → Prop where
  | bodiless (absent : Value.lookup? raw (.text bodyKey) = none) : Expands raw raw
  | body {body final : Value} (found : Value.lookup? raw (.text bodyKey) = some body)
      (counts : CountsAs body final) : Expands raw (Value.putEntry (.text bodyKey) final raw)

theorem CountsAs.unique {first second : Value} (one : CountsAs body first)
    (other : CountsAs body second) : first = second := by
  cases one with
  | parsed object =>
      cases other with
      | parsed again => cases object.symm.trans again; rfl
      | other _ noObject => exact absurd object (noObject _ _ rfl)
  | mapping entries =>
      cases other with
      | mapping _ => rfl
      | other noMapping _ => exact absurd rfl (noMapping entries)
  | other noMapping noObject =>
      cases other with
      | parsed object => exact absurd object (noObject _ _ rfl)
      | mapping entries => exact absurd rfl (noMapping entries)
      | other _ _ => rfl

theorem Expands.unique {others : Entries} (one : Expands raw expanded)
    (other : Expands raw others) : expanded = others := by
  cases one with
  | bodiless absent =>
      cases other with
      | bodiless _ => rfl
      | body found _ => cases absent.symm.trans found
  | body found counts =>
      cases other with
      | bodiless absent => cases absent.symm.trans found
      | body again countsAgain =>
          cases found.symm.trans again
          rw [counts.unique countsAgain]

theorem putEntry_of_lookup?_eq_none {key value : Value}
    (absent : Value.lookup? entries key = none) :
    Value.putEntry key value entries = entries ++ [(key, value)] := by
  unfold Value.lookup? at absent
  induction entries with
  | nil => rfl
  | cons first rest induction =>
      rw [Option.map_eq_none_iff, List.find?_cons] at absent
      split at absent
      · cases absent
      · next different =>
          rw [Value.putEntry, different, induction (Option.map_eq_none_iff.mpr absent)]
          rfl

theorem foldl_putMissing (data entries : Entries) :
    data.foldl (fun entries entry => putMissing entry.1 entry.2 entries) entries =
      entries ++ missingFrom entries data := by
  induction data generalizing entries with
  | nil => exact (List.append_nil _).symm
  | cons entry rest induction =>
      rw [List.foldl_cons, induction, missingFrom, putMissing]
      split
      · rfl
      · next absent =>
          rw [Option.not_isSome_iff_eq_none] at absent
          rw [putEntry_of_lookup?_eq_none absent, List.append_assoc]
          rfl

theorem liftEventData_map (entries : Entries) :
    liftEventData (.map entries) = .map (withEventData entries) := by
  unfold liftEventData withEventData
  dsimp only
  cases Value.entry entries "EventData" with
  | map data =>
      dsimp only
      rw [foldl_putMissing]
  | _ => rfl

theorem countsAs_of_readBody (told : readBody body = .ok read) :
    CountsAs body (liftEventData read) := by
  cases body with
  | text content =>
      have keeps (noObject : ∀ entries, Json.read content ≠ .ok (.map entries)) :
          CountsAs (.text content) (liftEventData (.text content)) := by
        refine .other (by simp) ?_
        rintro _ entries ⟨rfl⟩
        exact noObject entries
      unfold readBody at told
      dsimp only at told
      split at told
      · next looksLike =>
          split at told
          · next value object =>
              cases told
              obtain ⟨entries, rfl⟩ := (Json.head?_trim_eq_brace_iff object).mp looksLike
              rw [liftEventData_map]
              exact .parsed object
          · next unread =>
              cases told
              exact keeps (by simp [unread])
          · cases told
      · next looksOther =>
          cases told
          refine keeps fun entries object => ?_
          exact looksOther ((Json.head?_trim_eq_brace_iff object).mpr ⟨entries, rfl⟩)
  | map entries =>
      cases told
      rw [liftEventData_map]
      exact .mapping entries
  | _ =>
      cases told
      exact .other (by simp) (by simp)

theorem expands_of_expand (told : expand raw = .ok expanded) : Expands raw expanded := by
  unfold expand at told
  split at told
  · next absent =>
      cases told
      exact .bodiless absent
  · next body found =>
      obtain ⟨read, readTold, made⟩ := bind_eq_ok_iff.mp told
      cases made
      exact .body found (countsAs_of_readBody readTold)

theorem Expands.entry_of_ne (expands : Expands raw expanded) {name : String}
    (apart : name ≠ bodyKey) : Value.entry expanded name = Value.entry raw name := by
  cases expands with
  | bodiless _ => rfl
  | body _ _ => exact Value.entry_putEntry_of_ne apart

/-! ## Mapped values -/

def valueAt (expanded source : Value) : Option Value :=
  if source.isNull then none
  else (pathsOf source).toOption.bind fun paths => (paths.map expanded.atPath).find? isFilled

theorem firstFilled_eq_find? (expanded : Value) (paths : List String) :
    firstFilled expanded paths = (paths.map expanded.atPath).find? isFilled := by
  induction paths with
  | nil => rfl
  | cons path rest induction =>
      rw [firstFilled, List.map_cons, List.find?_cons, induction]
      cases isFilled (expanded.atPath path) <;> rfl

theorem valueAt_text (expanded : Value) (path : String) :
    valueAt expanded (.text path) = firstFilled expanded [path] :=
  (firstFilled_eq_find? expanded [path]).symm

theorem applied_eq {expanded : Value} (told : applied expanded mappings = .ok mapped) :
    mapped = mappings.filterMap fun entry =>
      (valueAt expanded entry.2).map fun value => (entry.1, value) := by
  induction mappings generalizing mapped with
  | nil =>
      cases told
      rfl
  | cons first rest induction =>
      obtain ⟨target, source⟩ := first
      rw [List.filterMap_cons, valueAt]
      unfold applied at told
      split at told
      · next null =>
          rw [if_pos null]
          exact induction told
      · next given =>
          obtain ⟨paths, pathsTold, afterPaths⟩ := bind_eq_ok_iff.mp told
          obtain ⟨others, othersTold, made⟩ := bind_eq_ok_iff.mp afterPaths
          cases made
          rw [if_neg given, pathsTold, firstFilled_eq_find?, ← induction othersTold]
          dsimp only [Except.toOption, Option.bind_some]
          cases (paths.map expanded.atPath).find? isFilled <;> rfl

end EventMapping

end ThreatWatch
