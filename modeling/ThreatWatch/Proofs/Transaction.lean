import ThreatWatch.Correlation.Transaction
import ThreatWatch.Proofs.Outcome

/-! Work in a transaction, seen from the stores before and after it. What the
calls were and which obstacles they might have met is left open; each call is
known by what it does to the store when it meets none. -/

namespace ThreatWatch

namespace Work

variable {α β : Type} {surroundings : Surroundings} {store after : Store}

/-- The work reaches its end: begun on one store, after whatever calls, it gives a
value and leaves another store. -/
def Reaches (work : Work α) (surroundings : Surroundings) (store : Store) (value : α)
    (after : Store) : Prop :=
  ∃ calls later,
    (work surroundings).run ⟨store, calls⟩ = .ok (value, (⟨after, later⟩ : Transaction))

theorem Reaches.bind {work : Work α} {next : α → Work β} {value : β}
    (reaches : Reaches (work >>= next) surroundings store value after) :
    ∃ middle between, Reaches work surroundings store middle between ∧
      Reaches (next middle) surroundings between value after := by
  rcases reaches with ⟨calls, later, ended⟩
  rcases bind_eq_ok_iff.mp ended with ⟨⟨middle, between⟩, first, second⟩
  exact ⟨middle, between.store, ⟨calls, between.calls, first⟩, between.calls, later, second⟩

theorem Reaches.pure {value result : α}
    (reaches : Reaches (pure value) surroundings store result after) :
    result = value ∧ after = store := by
  rcases reaches with ⟨calls, later, ended⟩
  cases ended
  exact ⟨rfl, rfl⟩

theorem Reaches.ofExcept {outcome : Except Fault α} {value : α}
    (reaches : Reaches (Work.ofExcept outcome) surroundings store value after) :
    outcome = .ok value ∧ after = store := by
  rcases reaches with ⟨calls, later, ended⟩
  cases outcome with
  | ok result =>
      cases ended
      exact ⟨rfl, rfl⟩
  | error fault => cases ended

theorem perform_run (call : StoreCall) (surroundings : Surroundings) (transaction : Transaction) :
    (perform call surroundings).run transaction =
      match surroundings.obstacle (call :: transaction.calls) with
      | some fault => .error fault
      | none => .ok ((), { transaction with calls := call :: transaction.calls }) := by
  have unfolded : (perform call surroundings).run transaction =
      (match surroundings.obstacle (call :: transaction.calls) with
        | some fault => (throw fault : Work Unit)
        | none => modify fun (current : Transaction) =>
            ⟨current.store, call :: transaction.calls⟩)
      surroundings transaction := rfl
  rw [unfolded]
  cases surroundings.obstacle (call :: transaction.calls) <;> rfl

theorem Reaches.perform {call : StoreCall} {value : Unit}
    (reaches : Reaches (perform call) surroundings store value after) : after = store := by
  rcases reaches with ⟨calls, later, ended⟩
  rw [perform_run] at ended
  split at ended
  · cases ended
  · cases ended
    rfl

theorem Reaches.unclustered {since : Calendar.Moment} {value : List Threat}
    (reaches : Reaches (Work.unclustered since) surroundings store value after) :
    store.unclustered since = .ok value ∧ after = store := by
  rcases reaches.bind with ⟨_, between, performed, rest⟩
  rw [performed.perform] at rest
  rcases rest with ⟨calls, later, ended⟩
  exact Reaches.ofExcept ⟨calls, later, ended⟩

theorem Reaches.campaign? {id : String} {value : Option Campaign}
    (reaches : Reaches (Work.campaign? id) surroundings store value after) :
    value = store.campaign? id ∧ after = store := by
  rcases reaches.bind with ⟨_, between, performed, rest⟩
  rw [performed.perform] at rest
  rcases rest with ⟨calls, later, ended⟩
  cases ended
  exact ⟨rfl, rfl⟩

theorem Reaches.replaceStore {outcome : Except Fault Store} {value : Unit}
    (reaches : Reaches (Work.replaceStore outcome) surroundings store value after) :
    outcome = .ok after := by
  rcases reaches.bind with ⟨replaced, between, outcomeReaches, rest⟩
  rcases rest with ⟨calls, later, ended⟩
  cases ended
  exact outcomeReaches.ofExcept.1

theorem Reaches.save {campaign : Campaign} {value : Unit}
    (reaches : Reaches (Work.save campaign) surroundings store value after) :
    store.save surroundings.now campaign = .ok after := by
  rcases reaches.bind with ⟨_, between, performed, rest⟩
  rw [performed.perform] at rest
  rcases rest with ⟨calls, later, ended⟩
  exact Reaches.replaceStore ⟨calls, later, ended⟩

theorem Reaches.tag {campaign : String} {ids : List Int} {value : Unit}
    (reaches : Reaches (Work.tag campaign ids) surroundings store value after) :
    store.tag campaign ids = .ok after := by
  rcases reaches.bind with ⟨_, between, performed, rest⟩
  rw [performed.perform] at rest
  rcases rest with ⟨calls, later, ended⟩
  exact Reaches.replaceStore ⟨calls, later, ended⟩

/-! ## Without obstacles -/

/-- The work comes to its end from every transaction on the store, whatever calls
were made before. -/
def Completes (work : Work α) (surroundings : Surroundings) (store : Store) (value : α)
    (after : Store) : Prop :=
  ∀ calls, ∃ later,
    (work surroundings).run ⟨store, calls⟩ = .ok (value, (⟨after, later⟩ : Transaction))

theorem Completes.bind {work : Work α} {next : α → Work β} {middle : α} {between : Store}
    {value : β} (first : Completes work surroundings store middle between)
    (second : Completes (next middle) surroundings between value after) :
    Completes (work >>= next) surroundings store value after := by
  intro calls
  rcases first calls with ⟨made, firstEnds⟩
  rcases second made with ⟨later, secondEnds⟩
  exact ⟨later, bind_eq_ok_iff.mpr ⟨(middle, ⟨between, made⟩), firstEnds, secondEnds⟩⟩

theorem completes_pure (value : α) : Completes (Pure.pure value) surroundings store value store :=
  fun calls => ⟨calls, rfl⟩

theorem completes_ofExcept {outcome : Except Fault α} {value : α} (told : outcome = .ok value) :
    Completes (ofExcept outcome) surroundings store value store := by
  rw [told]
  exact fun calls => ⟨calls, rfl⟩

theorem completes_perform (clear : ∀ calls, surroundings.obstacle calls = none)
    (call : StoreCall) : Completes (perform call) surroundings store () store := by
  intro calls
  refine ⟨call :: calls, ?_⟩
  rw [perform_run, clear]

theorem completes_unclustered (clear : ∀ calls, surroundings.obstacle calls = none)
    {since : Calendar.Moment} {threats : List Threat}
    (told : store.unclustered since = .ok threats) :
    Completes (unclustered since) surroundings store threats store := by
  refine (completes_perform clear .fetch).bind fun calls => ?_
  have tells : Completes (ofExcept (store.unclustered since)) surroundings store threats store :=
    completes_ofExcept told
  exact tells calls

theorem completes_campaign? (clear : ∀ calls, surroundings.obstacle calls = none) (id : String) :
    Completes (campaign? id) surroundings store (store.campaign? id) store :=
  (completes_perform clear .find).bind fun calls => ⟨calls, rfl⟩

theorem completes_replaceStore {outcome : Except Fault Store} (told : outcome = .ok after) :
    Completes (replaceStore outcome) surroundings store () after :=
  (completes_ofExcept told).bind fun calls => ⟨calls, rfl⟩

theorem completes_save (clear : ∀ calls, surroundings.obstacle calls = none) {campaign : Campaign}
    (saved : store.save surroundings.now campaign = .ok after) :
    Completes (save campaign) surroundings store () after :=
  (completes_perform clear .save).bind (completes_replaceStore saved)

theorem completes_tag (clear : ∀ calls, surroundings.obstacle calls = none) {campaign : String}
    {ids : List Int} (tagged : store.tag campaign ids = .ok after) :
    Completes (tag campaign ids) surroundings store () after :=
  (completes_perform clear .tag).bind (completes_replaceStore tagged)

/-! ## Whole transactions -/

theorem run_eq_map (work : Work α) (surroundings : Surroundings) (store : Store) :
    work.run surroundings store =
      (((work >>= fun value => perform .commit >>= fun _ => Pure.pure value) surroundings).run
        ⟨store, []⟩).map fun reached => (reached.1, reached.2.store) := rfl

theorem reaches_of_run {work : Work α} {value : α}
    (kept : work.run surroundings store = .ok (value, after)) :
    Reaches work surroundings store value after := by
  rcases bind_eq_ok_iff.mp kept with ⟨⟨result, transaction⟩, whole, equal⟩
  cases equal
  have ended : Reaches (work >>= fun value => perform .commit >>= fun _ => Pure.pure value)
      surroundings store value transaction.store := ⟨[], transaction.calls, whole⟩
  rcases ended.bind with ⟨middle, between, reaches, rest⟩
  rcases rest.bind with ⟨_, last, committed, returned⟩
  rcases returned.pure with ⟨rfl, unchanged⟩
  rw [unchanged, committed.perform]
  exact reaches

theorem run_of_completes (clear : ∀ calls, surroundings.obstacle calls = none)
    {work : Work α} {value : α} (completes : Completes work surroundings store value after) :
    work.run surroundings store = .ok (value, after) := by
  have whole : Completes (work >>= fun value => perform .commit >>= fun _ => Pure.pure value)
      surroundings store value after :=
    completes.bind ((completes_perform clear .commit).bind (completes_pure value))
  rcases whole [] with ⟨later, ended⟩
  exact bind_eq_ok_iff.mpr ⟨_, ended, rfl⟩

end Work

end ThreatWatch
