import ThreatWatch.Correlation.Scan
import ThreatWatch.Proofs.Transaction

/-! Courses of work: the calls that work makes in a transaction, in their order, and
how it ends where none of them meets an obstacle. Among obstacles the work ends in the
fault of the first of its calls that meets one, and takes its course where none
does. -/

namespace ThreatWatch

namespace Work

/-- The fault of the first call that meets an obstacle, where other calls, the latest
one first, have been made before. -/
def firstFault (obstacle : List StoreCall → Option Fault) (made : List StoreCall) :
    List StoreCall → Option Fault
  | [] => none
  | call :: rest =>
      match obstacle (call :: made) with
      | some fault => some fault
      | none => firstFault obstacle (call :: made) rest

theorem firstFault_append (obstacle : List StoreCall → Option Fault)
    (made calls more : List StoreCall) :
    firstFault obstacle made (calls ++ more) =
      match firstFault obstacle made calls with
      | some fault => some fault
      | none => firstFault obstacle (calls.reverse ++ made) more := by
  induction calls generalizing made with
  | nil => rfl
  | cons call rest induction =>
      rw [List.cons_append, firstFault, firstFault]
      cases obstacle (call :: made) with
      | some fault => rfl
      | none => simp [induction (call :: made)]

theorem firstFault_clear (made calls : List StoreCall) :
    firstFault (fun _ => none) made calls = none := by
  induction calls generalizing made with
  | nil => rfl
  | cons call rest induction => exact induction (call :: made)

/-! ## Courses -/

structure Course (α : Type) where
  /-- The calls, the first one first. -/
  calls : List StoreCall
  /-- The end where no call meets an obstacle. -/
  ending : Except Fault (α × Store)

def Course.among {α : Type} (course : Course α) (obstacle : List StoreCall → Option Fault)
    (made : List StoreCall) : Except Fault (α × Transaction) :=
  match firstFault obstacle made course.calls with
  | some fault => .error fault
  | none => course.ending.map fun (value, store) => (value, ⟨store, course.calls.reverse ++ made⟩)

variable {α β : Type} {written : Calendar.Moment} {store between : Store}

def Takes (work : Work α) (written : Calendar.Moment) (store : Store) (course : Course α) : Prop :=
  ∀ obstacle made, (work ⟨written, obstacle⟩).run ⟨store, made⟩ = course.among obstacle made

theorem takes_pure (value : α) :
    Takes (Pure.pure value) written store ⟨[], .ok (value, store)⟩ :=
  fun _ _ => rfl

theorem takes_ofExcept (outcome : Except Fault α) :
    Takes (ofExcept outcome) written store ⟨[], outcome.map fun value => (value, store)⟩ := by
  intro obstacle made
  cases outcome <;> rfl

theorem takes_perform (call : StoreCall) :
    Takes (perform call) written store ⟨[call], .ok ((), store)⟩ := by
  intro obstacle made
  rw [perform_run]
  simp only [Course.among, firstFault]
  cases obstacle (call :: made) <;> rfl

theorem Takes.bind {work : Work α} {next : α → Work β} {calls : List StoreCall} {middle : α}
    {rest : Course β} (first : Takes work written store ⟨calls, .ok (middle, between)⟩)
    (second : Takes (next middle) written between rest) :
    Takes (work >>= next) written store ⟨calls ++ rest.calls, rest.ending⟩ := by
  intro obstacle made
  have opened : ((work >>= next) ⟨written, obstacle⟩).run ⟨store, made⟩ =
      ((⟨calls, .ok (middle, between)⟩ : Course α).among obstacle made) >>= fun reached =>
        (next reached.1 ⟨written, obstacle⟩).run reached.2 := by
    rw [← first obstacle made]
    rfl
  rw [opened, Course.among, Course.among, firstFault_append]
  cases firstFault obstacle made calls with
  | some fault => rfl
  | none =>
      refine (second obstacle (calls.reverse ++ made)).trans ?_
      rw [Course.among, List.reverse_append, List.append_assoc]

theorem Takes.bind_error {work : Work α} {next : α → Work β} {calls : List StoreCall}
    {fault : Fault} (first : Takes work written store ⟨calls, .error fault⟩) :
    Takes (work >>= next) written store ⟨calls, .error fault⟩ := by
  intro obstacle made
  have opened : ((work >>= next) ⟨written, obstacle⟩).run ⟨store, made⟩ =
      ((⟨calls, .error fault⟩ : Course α).among obstacle made) >>= fun reached =>
        (next reached.1 ⟨written, obstacle⟩).run reached.2 := by
    rw [← first obstacle made]
    rfl
  rw [opened, Course.among, Course.among]
  cases firstFault obstacle made calls <;> rfl

/-! ## The calls of completed work -/

/-- The work takes a course from every store, and where it completes its value and its
calls are related. -/
def Makes (work : Work α) (written : Calendar.Moment) (related : α → List StoreCall → Prop) :
    Prop :=
  ∀ store, ∃ course, Takes work written store course ∧
    ∀ value after, course.ending = .ok (value, after) → related value course.calls

variable {related : α → List StoreCall → Prop}

theorem makes_pure {value : α} (holds : related value []) :
    Makes (Pure.pure value) written related := by
  refine fun store => ⟨_, takes_pure value, fun result after ended => ?_⟩
  cases ended
  exact holds

theorem makes_ofExcept (outcome : Except Fault α) :
    Makes (ofExcept outcome) written fun _ calls => calls = [] :=
  fun _ => ⟨_, takes_ofExcept outcome, fun _ _ _ => rfl⟩

theorem makes_perform (call : StoreCall) :
    Makes (perform call) written fun _ calls => calls = [call] :=
  fun _ => ⟨_, takes_perform call, fun _ _ _ => rfl⟩

theorem Makes.bind {work : Work α} {next : α → Work β} {further : β → List StoreCall → Prop}
    (first : Makes work written related)
    (second : ∀ middle calls, related middle calls →
      Makes (next middle) written fun value more => further value (calls ++ more)) :
    Makes (work >>= next) written further := by
  intro store
  rcases first store with ⟨⟨calls, ending⟩, takes, holds⟩
  cases ending with
  | error fault => exact ⟨_, takes.bind_error, fun _ _ ended => by cases ended⟩
  | ok reached =>
      rcases second reached.1 calls (holds _ _ rfl) reached.2 with ⟨rest, goesOn, later⟩
      exact ⟨_, takes.bind goesOn, later⟩

theorem makes_unclustered (since : Calendar.Moment) :
    Makes (unclustered since) written fun _ calls => calls = [.fetch] := by
  refine (makes_perform .fetch).bind fun _ calls made => ?_
  subst made
  exact fun store => ⟨_, takes_ofExcept (store.unclustered since), fun _ _ _ => rfl⟩

theorem makes_campaign? (id : String) :
    Makes (campaign? id) written fun _ calls => calls = [.find] := by
  refine (makes_perform .find).bind fun _ calls made => ?_
  subst made
  exact fun store => ⟨⟨[], .ok (store.campaign? id, store)⟩, fun _ _ => rfl, fun _ _ _ => rfl⟩

theorem takes_replaceStore (outcome : Except Fault Store) :
    Takes (replaceStore outcome) written store ⟨[], outcome.map fun after => ((), after)⟩ := by
  intro obstacle made
  cases outcome <;> rfl

theorem makes_save (campaign : Campaign) :
    Makes (save campaign) written fun _ calls => calls = [.save] := by
  refine (makes_perform .save).bind fun _ calls made => ?_
  subst made
  exact fun store => ⟨_, takes_replaceStore (store.save written campaign), fun _ _ _ => rfl⟩

theorem makes_tag (campaign : String) (ids : List Int) :
    Makes (tag campaign ids) written fun _ calls => calls = [.tag] := by
  refine (makes_perform .tag).bind fun _ calls made => ?_
  subst made
  exact fun store => ⟨_, takes_replaceStore (store.tag campaign ids), fun _ _ _ => rfl⟩

/-! ## Whole transactions -/

/-- A transaction makes certain calls on a store, the last of them being its commit
where it completes. Among obstacles it ends in the fault of the first of its calls that
meets one. -/
theorem Makes.exists_calls {work : Work α} (makes : Makes work written related) (store : Store) :
    ∃ calls,
      (∀ obstacle, work.run ⟨written, obstacle⟩ store =
        match firstFault obstacle [] calls with
        | some fault => .error fault
        | none => work.run { now := written } store) ∧
      ∀ value after, work.run { now := written } store = .ok (value, after) →
        ∃ before, related value before ∧ calls = before ++ [.commit] := by
  have whole : Makes (work >>= fun value => perform .commit >>= fun _ => Pure.pure value) written
      fun value calls => ∃ before, related value before ∧ calls = before ++ [.commit] := by
    refine makes.bind fun value before holds => (makes_perform .commit).bind fun _ last made => ?_
    subst made
    exact makes_pure ⟨before, holds, rfl⟩
  rcases whole store with ⟨course, takes, holds⟩
  have ends : ∀ obstacle, work.run ⟨written, obstacle⟩ store =
      (course.among obstacle []).map fun reached => (reached.1, reached.2.store) := by
    intro obstacle
    rw [Work.run_eq_map, takes obstacle []]
  refine ⟨course.calls, fun obstacle => ?_, fun value after completed => ?_⟩
  · rw [ends, ends, Course.among, Course.among, firstFault_clear]
    cases firstFault obstacle [] course.calls <;> rfl
  · rw [ends, Course.among, firstFault_clear] at completed
    cases ended : course.ending with
    | error fault => rw [ended] at completed; cases completed
    | ok reached =>
        rw [ended] at completed
        cases completed
        exact holds _ _ ended

end Work

/-! ## Scans -/

namespace Scan

variable {written : Calendar.Moment}

def keepingCalls (kept : Nat) : List StoreCall :=
  (List.replicate kept [.find, .save, .tag]).flatten

theorem keepingCalls_add (first second : Nat) :
    keepingCalls (first + second) = keepingCalls first ++ keepingCalls second := by
  rw [keepingCalls, List.replicate_add, List.flatten_append, keepingCalls, keepingCalls]

theorem makes_keep (found : FoundCampaign) :
    Work.Makes (keep found) written fun report calls =>
      calls = keepingCalls 1 ∧ report.created + report.updated = 1 := by
  refine (Work.makes_campaign? _).bind fun known calls asked => ?_
  subst asked
  -- a new campaign is saved as it is, a known one after it has been merged
  cases known with
  | none =>
      refine (Work.makes_save _).bind fun _ calls saved => ?_
      subst saved
      rw [pure_bind]
      refine (Work.makes_tag _ _).bind fun _ calls tagged => ?_
      subst tagged
      exact Work.makes_pure ⟨rfl, rfl⟩
  | some existing =>
      refine (Work.makes_ofExcept _).bind fun merged calls none => ?_
      subst none
      refine (Work.makes_save _).bind fun _ calls saved => ?_
      subst saved
      rw [pure_bind]
      refine (Work.makes_tag _ _).bind fun _ calls tagged => ?_
      subst tagged
      exact Work.makes_pure ⟨rfl, rfl⟩

theorem makes_keepAll (founds : List FoundCampaign) :
    Work.Makes (keepAll founds) written fun report calls =>
      calls = keepingCalls (report.created + report.updated) := by
  induction founds with
  | nil => exact Work.makes_pure rfl
  | cons found rest induction =>
      refine (makes_keep found).bind fun report calls ⟨kept, one⟩ => ?_
      refine induction.bind fun others more keptMore => Work.makes_pure ?_
      rw [kept, keptMore, List.append_nil, ← one, ← keepingCalls_add]
      congr 1
      simp only [ScanReport.join]
      omega

theorem makes_work (settings : CorrelationSettings) (now : Calendar.Moment) :
    Work.Makes (work settings now) written fun report calls =>
      calls = .fetch :: keepingCalls (report.created + report.updated) := by
  refine (Work.makes_ofExcept _).bind fun since calls none => ?_
  subst none
  refine (Work.makes_ofExcept _).bind fun reading calls none => ?_
  subst none
  refine (Work.makes_unclustered _).bind fun threats calls fetched => ?_
  subst fetched
  split
  · exact Work.makes_pure rfl
  · refine (Work.makes_ofExcept _).bind fun byAddress calls none => ?_
    subst none
    refine (makes_keepAll _).bind fun report calls kept => ?_
    refine (Work.makes_ofExcept _).bind fun byPattern none isNone => ?_
    subst isNone
    refine (makes_keepAll _).bind fun others more keptMore => Work.makes_pure ?_
    subst kept keptMore
    simp only [List.nil_append, List.append_nil, List.singleton_append, ← keepingCalls_add]
    congr 2
    simp only [ScanReport.join]
    omega

end Scan

end ThreatWatch
