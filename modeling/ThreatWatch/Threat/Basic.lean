import ThreatWatch.Calendar.Span
import ThreatWatch.Grouping
import ThreatWatch.Sorting
import ThreatWatch.Value

/-! Threats: observed attacks after enrichment, and how they are put in order of
time and grouped. What an observation does not tell is missing in its
record. -/

namespace ThreatWatch

inductive ThreatSource where
  | guard
  | trap
  | externalFeed
  deriving DecidableEq, Repr

namespace ThreatSource

def all : List ThreatSource := [.guard, .trap, .externalFeed]

def name : ThreatSource → String
  | .guard => "guard"
  | .trap => "trap"
  | .externalFeed => "external_feed"

def ofName? (name : String) : Option ThreatSource :=
  all.find? fun source => source.name = name

@[simp] theorem ofName?_name (source : ThreatSource) : ofName? source.name = some source := by
  cases source <;> rfl

theorem all_names : all.map name = Fault.sourceTypes := rfl

def ofValue (value : Value) : Except Fault ThreatSource :=
  match value.text?.bind ofName? with
  | some source => .ok source
  | none => do .error (.invalidSourceType (← value.quoted))

end ThreatSource

structure Threat where
  /-- The number that the store gave it. -/
  id : Option Int := none
  source : ThreatSource
  address : Option String
  attack : Option String
  time : Option Calendar.Moment
  hash : Option String
  techniques : Option (List String) := some []
  sigmaRule : Option String := some ""
  region : Option String := some ""
  confidence : Option Amount := some (.real .zero)
  severity : Option String := some "medium"
  industry : Option String := none
  service : Option String := none
  skill : Option String := none
  intent : Option String := none
  tools : Option (List String) := none
  receivedAt : Option Calendar.Moment := none
  campaign : Option String := none
  deriving DecidableEq, Repr

namespace Threat

/-- The techniques, none where the record tells nothing of them. -/
def knownTechniques (threat : Threat) : List String :=
  threat.techniques.getD []

/-! ## Order of time -/

def instant (threat : Threat) : Int :=
  (threat.time.map Calendar.Moment.instant).getD 0

/-- Whether a clock reading stands on the line of universal time, on that of a
clock with unknown offset, or on none. -/
def clock (threat : Threat) : Option Bool :=
  threat.time.map Calendar.Moment.isAware

/-- Threats can be ordered when all their times are on one line; a single one
needs none. -/
def orderable : List Threat → Bool
  | [] | [_] => true
  | threat :: others => threat.clock.isSome && others.all fun other => other.clock == threat.clock

def noLaterThan (left right : Threat) : Bool :=
  decide (left.instant ≤ right.instant)

def sorted (threats : List Threat) : List Threat :=
  sortBy noLaterThan threats

def sortedByTime (threats : List Threat) : Except Fault (List Threat) :=
  if orderable threats then .ok (sorted threats) else .error .notOrdered

theorem noLaterThan_isOrdering : IsOrdering noLaterThan where
  total left right := by simp only [noLaterThan, decide_eq_true_eq]; omega
  trans first second third := by simp only [noLaterThan, decide_eq_true_eq]; omega

theorem sorted_perm (threats : List Threat) : (sorted threats).Perm threats :=
  sortBy_perm noLaterThan threats

theorem pairwise_sorted (threats : List Threat) :
    (sorted threats).Pairwise fun left right => left.instant ≤ right.instant := by
  simpa [sorted, noLaterThan] using noLaterThan_isOrdering.pairwise_sortBy threats

theorem sorted_eq_self {threats : List Threat}
    (inOrder : threats.Pairwise fun left right => left.instant ≤ right.instant) :
    sorted threats = threats :=
  sortBy_eq_self (by simpa [noLaterThan] using inOrder)

theorem filter_sorted (keeps : Threat → Bool) (threats : List Threat) :
    (sorted threats).filter keeps = sorted (threats.filter keeps) :=
  noLaterThan_isOrdering.filter_sortBy keeps threats

theorem sorted_map {change : Threat → Threat}
    (same : ∀ threat, (change threat).instant = threat.instant) (threats : List Threat) :
    sorted (threats.map change) = (sorted threats).map change :=
  sortBy_map (fun left right => by rw [noLaterThan, same, same, noLaterThan]) threats

theorem pairwise_sorted_of_stable {related : Threat → Threat → Prop} {threats : List Threat}
    (inOrder : threats.Pairwise related) :
    (sorted threats).Pairwise fun left right =>
      left.instant < right.instant ∨ (left.instant = right.instant ∧ related left right) := by
  refine (noLaterThan_isOrdering.pairwise_sortBy_of_stable inOrder).imp fun {left right} ordered => ?_
  simp only [noLaterThan, decide_eq_true_eq] at ordered
  by_cases later : left.instant < right.instant
  · exact .inl later
  · exact .inr ⟨by omega, ordered.2 (by omega)⟩

/-! ## Clusters of time -/

def within (span : Int) (anchor threat : Threat) : Bool :=
  decide (threat.instant - anchor.instant ≤ span)

/-- The clusters of ordered threats: a cluster takes the threats within the span
of its first one. -/
def clustersWithin (span : Int) (ordered : List Threat) : List (List Threat) :=
  runsFrom (within span) ordered

def clusters (minutes : Amount) (threats : List Threat) : Except Fault (List (List Threat)) :=
  if threats.isEmpty then .ok []
  else do
    let ordered ← sortedByTime threats
    return clustersWithin (← Calendar.spanOf Calendar.microsPerMinute minutes) ordered

/-! ## Patterns -/

def shownField (field : Option String) : String :=
  field.getD Value.missingText

def pattern (threat : Threat) : String :=
  let ordered := sortBy (fun left right => !Text.precedes right left) threat.knownTechniques
  shownField threat.attack ++ "|" ++ Text.join "," ordered

def attackOfPattern (pattern : String) : String :=
  String.ofList (pattern.toList.takeWhile (· ≠ '|'))

end Threat

end ThreatWatch
