import Mathlib.Data.List.Forall2

/-! What it takes for a sequence of steps, each of which may fail, to succeed:
every step succeeds. -/

namespace ThreatWatch

variable {α : Type u} {β : Type u} {ε : Type v}

theorem bind_eq_ok_iff {outcome : Except ε α} {next : α → Except ε β} {result : β} :
    outcome >>= next = .ok result ↔
      ∃ value, outcome = .ok value ∧ next value = .ok result := by
  cases outcome <;> simp [Bind.bind, Except.bind]

theorem bind_eq_error_iff {outcome : Except ε α} {next : α → Except ε β} {failure : ε} :
    outcome >>= next = .error failure ↔
      outcome = .error failure ∨ ∃ value, outcome = .ok value ∧ next value = .error failure := by
  cases outcome <;> simp [Bind.bind, Except.bind]

theorem pure_eq_ok_iff {value result : α} :
    (pure value : Except ε α) = .ok result ↔ value = result := by
  simp [pure, Except.pure]

theorem eq_error_of_bind_pure {outcome : Except ε α} {change : α → β} {failure : ε}
    (failed : (outcome >>= fun value => pure (change value)) = .error failure) :
    outcome = .error failure := by
  rcases bind_eq_error_iff.mp failed with stopped | ⟨_, _, later⟩
  · exact stopped
  · cases later

theorem map_eq_ok_iff {outcome : Except ε α} {change : α → β} {result : β} :
    outcome.map change = .ok result ↔ ∃ value, outcome = .ok value ∧ change value = result := by
  cases outcome <;> simp [Except.map]

theorem map_eq_error_iff {outcome : Except ε α} {change : α → β} {failure : ε} :
    outcome.map change = .error failure ↔ outcome = .error failure := by
  cases outcome <;> simp [Except.map]

theorem toOption_eq_some_iff {outcome : Except ε α} {result : α} :
    outcome.toOption = some result ↔ outcome = .ok result := by
  cases outcome <;> simp [Except.toOption]

theorem toOption_eq_map {first second : Except ε α} {change : α → α}
    (onward : ∀ result, first = .ok result → second = .ok (change result))
    (back : ∀ result, second = .ok result → ∃ earlier, first = .ok earlier) :
    second.toOption = first.toOption.map change := by
  cases ended : first with
  | ok result =>
      rw [onward result ended]
      rfl
  | error failure =>
      cases other : second with
      | error failure => rfl
      | ok result =>
          rcases back result other with ⟨earlier, succeeded⟩
          cases ended.symm.trans succeeded

theorem mapM_eq_ok_iff {step : α → Except ε β} {items : List α} {results : List β} :
    items.mapM step = .ok results ↔
      List.Forall₂ (fun item result => step item = .ok result) items results := by
  induction items generalizing results with
  | nil => rw [List.mapM_nil, pure_eq_ok_iff, List.forall₂_nil_left_iff, eq_comm]
  | cons item rest induction =>
      rw [List.mapM_cons, bind_eq_ok_iff]
      constructor
      · rintro ⟨first, firstStep, others⟩
        rcases bind_eq_ok_iff.mp others with ⟨later, laterSteps, equal⟩
        rw [← pure_eq_ok_iff.mp equal]
        exact .cons firstStep (induction.mp laterSteps)
      · intro related
        cases related with
        | @cons _ first _ later firstStep laterSteps =>
            exact ⟨first, firstStep,
              bind_eq_ok_iff.mpr ⟨later, induction.mpr laterSteps, pure_eq_ok_iff.mpr rfl⟩⟩

theorem exists_mapM_eq_ok {step : α → Except ε β} {items : List α}
    (steps : ∀ item ∈ items, ∃ result, step item = .ok result) :
    ∃ results, items.mapM step = .ok results := by
  induction items with
  | nil => exact ⟨[], rfl⟩
  | cons item rest induction =>
      rcases List.forall_mem_cons.mp steps with ⟨⟨first, firstStep⟩, others⟩
      rcases induction others with ⟨later, laterSteps⟩
      rw [mapM_eq_ok_iff] at laterSteps
      exact ⟨first :: later, mapM_eq_ok_iff.mpr (.cons firstStep laterSteps)⟩

theorem exists_mapM_eq_some {step : α → Option β} {items : List α}
    (steps : ∀ item ∈ items, ∃ result, step item = some result) :
    ∃ results, items.mapM step = some results := by
  induction items with
  | nil => exact ⟨[], rfl⟩
  | cons item rest induction =>
      rcases List.forall_mem_cons.mp steps with ⟨⟨first, firstStep⟩, others⟩
      rcases induction others with ⟨later, laterSteps⟩
      exact ⟨first :: later, by simp [List.mapM_cons, firstStep, laterSteps]⟩

theorem mapM_eq_ok {step : α → Except ε β} {expected : α → β} {items : List α}
    (steps : ∀ item ∈ items, step item = .ok (expected item)) :
    items.mapM step = .ok (items.map expected) := by
  rw [mapM_eq_ok_iff, List.forall₂_map_right_iff, List.forall₂_same]
  exact steps

theorem mapM_congr {step other : α → Except ε β} {items : List α}
    (equal : ∀ item ∈ items, step item = other item) : items.mapM step = items.mapM other := by
  induction items with
  | nil => rfl
  | cons item rest induction =>
      rcases List.forall_mem_cons.mp equal with ⟨here, others⟩
      rw [List.mapM_cons, List.mapM_cons, here, induction others]

theorem exists_mapM_through {α β γ : Type u} {step : α → Except ε β} {view : α → Option γ}
    {next : γ → Except ε β} {items : List α} {results : List β}
    (through : ∀ item result, step item = .ok result →
      ∃ value, view item = some value ∧ next value = .ok result)
    (steps : items.mapM step = .ok results) :
    ∃ values, items.mapM view = some values ∧ values.mapM next = .ok results := by
  have related := mapM_eq_ok_iff.mp steps
  clear steps
  induction related with
  | nil => exact ⟨[], rfl, rfl⟩
  | cons here _ induction =>
      rcases through _ _ here with ⟨value, seen, stepped⟩
      rcases induction with ⟨values, seenAll, steppedAll⟩
      refine ⟨value :: values, by simp [List.mapM_cons, seen, seenAll], ?_⟩
      exact mapM_eq_ok_iff.mpr (.cons stepped (mapM_eq_ok_iff.mp steppedAll))

theorem exists_of_mapM_eq_error {step : α → Except ε β} {items : List α} {failure : ε}
    (failed : items.mapM step = .error failure) : ∃ item ∈ items, step item = .error failure := by
  induction items with
  | nil => cases failed
  | cons item rest induction =>
      rw [List.mapM_cons] at failed
      rcases bind_eq_error_iff.mp failed with here | ⟨first, _, later⟩
      · exact ⟨item, by simp, here⟩
      · rcases bind_eq_error_iff.mp later with there | ⟨others, _, impossible⟩
        · rcases induction there with ⟨other, member, stepFailed⟩
          exact ⟨other, List.mem_cons_of_mem _ member, stepFailed⟩
        · cases impossible

theorem mapM_eq_error_iff {step : α → Except ε β} {items : List α} {failure : ε} :
    items.mapM step = .error failure ↔
      ∃ before item after, items = before ++ item :: after ∧
        (∀ other ∈ before, ∃ result, step other = .ok result) ∧ step item = .error failure := by
  induction items with
  | nil => simp [pure, Except.pure]
  | cons first rest induction =>
      rw [List.mapM_cons, bind_eq_error_iff]
      constructor
      · rintro (here | ⟨result, succeeded, later⟩)
        · exact ⟨[], first, rest, rfl, by simp, here⟩
        · rcases induction.mp (eq_error_of_bind_pure later) with
            ⟨before, item, after, rfl, others, failed⟩
          exact ⟨first :: before, item, after, rfl,
            List.forall_mem_cons.mpr ⟨⟨result, succeeded⟩, others⟩, failed⟩
      · rintro ⟨before, item, after, split, others, failed⟩
        cases before with
        | nil =>
            cases split
            exact .inl failed
        | cons other before =>
            cases split
            rcases List.forall_mem_cons.mp others with ⟨⟨result, succeeded⟩, others⟩
            refine .inr ⟨result, succeeded, bind_eq_error_iff.mpr (.inl ?_)⟩
            exact induction.mpr ⟨before, item, after, rfl, others, failed⟩

theorem map_eq_of_mapM_eq_ok {γ : Type w} {step : α → Except ε β} {items : List α}
    {results : List β} (view : β → γ) (expected : α → γ) (steps : items.mapM step = .ok results)
    (tells : ∀ item result, step item = .ok result → view result = expected item) :
    results.map view = items.map expected := by
  have related := mapM_eq_ok_iff.mp steps
  induction related with
  | nil => rfl
  | cons firstStep _ induction =>
      rw [List.map_cons, List.map_cons, tells _ _ firstStep, induction]
      exact mapM_eq_ok_iff.mpr ‹_›

theorem exists_of_forall₂_left {related : α → β → Prop} {items : List α} {results : List β}
    (pairs : List.Forall₂ related items results) {item : α} (member : item ∈ items) :
    ∃ result ∈ results, related item result := by
  induction pairs with
  | nil => cases member
  | @cons _ first _ _ here _ induction =>
      rcases List.mem_cons.mp member with rfl | member
      · exact ⟨first, by simp, here⟩
      · rcases induction member with ⟨result, resultMember, there⟩
        exact ⟨result, List.mem_cons_of_mem _ resultMember, there⟩

theorem exists_of_forall₂_right {related : α → β → Prop} {items : List α} {results : List β}
    (pairs : List.Forall₂ related items results) {result : β} (member : result ∈ results) :
    ∃ item ∈ items, related item result := by
  rcases exists_of_forall₂_left pairs.flip member with ⟨item, itemMember, here⟩
  exact ⟨item, itemMember, here⟩

theorem exists_of_mapM_eq_ok {step : α → Except ε β} {items : List α} {results : List β}
    (steps : items.mapM step = .ok results) {item : α} (member : item ∈ items) :
    ∃ result, step item = .ok result := by
  rcases exists_of_forall₂_left (mapM_eq_ok_iff.mp steps) member with ⟨result, _, succeeded⟩
  exact ⟨result, succeeded⟩

theorem exists_of_mem_of_mapM_eq_ok {step : α → Except ε β} {items : List α}
    {results : List β} (steps : items.mapM step = .ok results) {result : β}
    (member : result ∈ results) : ∃ item ∈ items, step item = .ok result :=
  exists_of_forall₂_right (mapM_eq_ok_iff.mp steps) member

/-! ## Kinds of failures -/

def FailsOnly (kind : ε → Prop) (outcome : Except ε α) : Prop :=
  ∀ failure, outcome = .error failure → kind failure

section

variable {kind other : ε → Prop} {outcome : Except ε α}

theorem failsOnly_ok (result : α) : FailsOnly kind (.ok result) := by
  intro failure failed
  cases failed

theorem failsOnly_error {failure : ε} (isKind : kind failure) :
    FailsOnly kind (.error failure : Except ε α) := by
  intro found failed
  cases failed
  exact isKind

theorem FailsOnly.imp (fails : FailsOnly kind outcome)
    (among : ∀ failure, kind failure → other failure) : FailsOnly other outcome :=
  fun failure failed => among failure (fails failure failed)

theorem FailsOnly.bind {next : α → Except ε β} (first : FailsOnly kind outcome)
    (later : ∀ result, outcome = .ok result → FailsOnly kind (next result)) :
    FailsOnly kind (outcome >>= next) := by
  intro failure failed
  rcases bind_eq_error_iff.mp failed with stopped | ⟨result, reached, stopped⟩
  · exact first failure stopped
  · exact later result reached failure stopped

theorem FailsOnly.map (fails : FailsOnly kind outcome) (change : α → β) :
    FailsOnly kind (outcome.map change) :=
  fun failure failed => fails failure (map_eq_error_iff.mp failed)

theorem FailsOnly.change (fails : FailsOnly kind outcome) (change : α → β) :
    FailsOnly kind (outcome >>= fun result => pure (change result)) :=
  fails.bind fun result _ => failsOnly_ok (change result)

theorem failsOnly_mapM {step : α → Except ε β} {items : List α}
    (fails : ∀ item ∈ items, FailsOnly kind (step item)) : FailsOnly kind (items.mapM step) := by
  intro failure failed
  rcases exists_of_mapM_eq_error failed with ⟨item, member, stopped⟩
  exact fails item member failure stopped

end

end ThreatWatch
