import ThreatWatch.Proofs.Answering

/-! Batches of events. Matching one event with a rule set ends with the first rule that
cannot be compared with it, while the evaluation of a batch passes over such a rule. The
alerts of a batch are what live matching finds in each event among the rules that can be
compared with it, and where every rule can, they are what it finds among all. -/

namespace ThreatWatch

namespace BoundRule

def answersTo (event : SecurityEvent) (bound : BoundRule) : Bool :=
  match bound.matchEvent event with
  | .ok _ => true
  | .error _ => false

theorem answersTo_eq_true_iff {event : SecurityEvent} {bound : BoundRule} :
    answersTo event bound = true ↔ ∃ outcome, bound.matchEvent event = .ok outcome := by
  unfold answersTo
  cases bound.matchEvent event <;> simp

theorem matchAll_cons_eq_ok {bound : BoundRule} {rest : List BoundRule} {event : SecurityEvent}
    {found : List RuleMatch} (matched : matchAll (bound :: rest) event = .ok found) :
    ∃ outcome later, bound.matchEvent event = .ok outcome ∧ matchAll rest event = .ok later ∧
      found = outcome.toList ++ later := by
  rcases bind_eq_ok_iff.mp matched with ⟨outcomes, each, equal⟩
  cases equal
  rw [List.mapM_cons] at each
  rcases bind_eq_ok_iff.mp each with ⟨outcome, here, others⟩
  rcases bind_eq_ok_iff.mp others with ⟨later, there, equal⟩
  cases equal
  refine ⟨outcome, later.reduceOption, here, bind_eq_ok_iff.mpr ⟨later, there, rfl⟩, ?_⟩
  cases outcome <;> rfl

end BoundRule

theorem Alert.record_eq (found : RuleMatch) (event : SecurityEvent) :
    Alert.record ⟨found, event⟩ =
      found.record ++ [("event_id", .text event.id), ("event_host", .text event.host)] := by
  rfl

namespace RuleSet

def answering (set : RuleSet) (event : SecurityEvent) : RuleSet :=
  { set with rules := set.rules.filter (BoundRule.answersTo event) }

theorem exists_matchEvent_answering (set : RuleSet) (event : SecurityEvent) :
    ∃ found, (set.answering event).matchEvent event = .ok found :=
  BoundRule.exists_matchAll fun _ member =>
    BoundRule.answersTo_eq_true_iff.mp (List.mem_filter.mp member).2

theorem answering_eq_self {set : RuleSet} {event : SecurityEvent}
    (answers : ∀ bound ∈ set.rules, ∃ outcome, bound.matchEvent event = .ok outcome) :
    set.answering event = set := by
  have kept : set.rules.filter (BoundRule.answersTo event) = set.rules :=
    List.filter_eq_self.mpr fun bound member =>
      BoundRule.answersTo_eq_true_iff.mpr (answers bound member)
  rw [answering, kept]

theorem alertsOf_eq {set : RuleSet} {event : SecurityEvent} {found : List RuleMatch}
    (matched : (set.answering event).matchEvent event = .ok found) :
    set.alertsOf event = found.map fun one => ⟨one, event⟩ := by
  unfold alertsOf
  unfold answering matchEvent at matched
  dsimp only at matched
  generalize set.rules = rules at matched ⊢
  induction rules generalizing found with
  | nil =>
      cases matched
      rfl
  | cons bound rest induction =>
      cases here : bound.matchEvent event with
      | error fault =>
          have dropped : ¬BoundRule.answersTo event bound = true := by
            simp [BoundRule.answersTo, here]
          rw [List.filter_cons_of_neg dropped] at matched
          rw [List.filterMap_cons_none (by rw [here])]
          exact induction matched
      | ok outcome =>
          have kept : BoundRule.answersTo event bound = true :=
            BoundRule.answersTo_eq_true_iff.mpr ⟨outcome, here⟩
          rw [List.filter_cons_of_pos kept] at matched
          rcases BoundRule.matchAll_cons_eq_ok matched with ⟨told, later, again, others, rfl⟩
          rw [here] at again
          cases again
          cases outcome with
          | none =>
              rw [List.filterMap_cons_none (by rw [here])]
              exact induction others
          | some one =>
              rw [List.filterMap_cons_some (by rw [here]), induction others]
              rfl

/-- Evaluating a batch agrees with matching its events one by one: in order of the events
and of the rules, it reports every match that is found among the rules that can be
compared with an event, together with the id and the host of the event. Where all rules
can be compared, these are the matches that are found among all. -/
theorem evaluate_agrees_with_matching (set : RuleSet) (events : List SecurityEvent) :
    ∃ found : SecurityEvent → List RuleMatch,
      (∀ event, (set.answering event).matchEvent event = .ok (found event)) ∧
      (∀ event, (∀ bound ∈ set.rules, ∃ outcome, bound.matchEvent event = .ok outcome) →
        set.matchEvent event = .ok (found event)) ∧
      set.evaluate events = events.flatMap (fun event =>
        (found event).map fun one => ⟨one, event⟩) ∧
      (set.evaluate events).map Alert.record = events.flatMap fun event =>
        (found event).map fun one =>
          one.record ++ [("event_id", .text event.id), ("event_host", .text event.host)] := by
  choose found matched using exists_matchEvent_answering set
  have evaluated : set.evaluate events = events.flatMap fun event =>
      (found event).map fun one => ⟨one, event⟩ := by
    unfold evaluate
    exact congrArg (events.flatMap ·) (funext fun event => alertsOf_eq (matched event))
  refine ⟨found, matched, fun event answers => ?_, evaluated, ?_⟩
  · have among := matched event
    rwa [answering_eq_self answers] at among
  · rw [evaluated, List.map_flatMap]
    simp only [List.map_map, Function.comp_def, Alert.record_eq]

end RuleSet

def SecurityEvent.hugeChangeByAdmin : SecurityEvent :=
  { changeByAdmin with metadata := ("n", .int (10 ^ 400)) :: changeByAdmin.metadata }

/-- Two rules of which the first cannot be compared with the sample change. -/
def RuleSet.exceedingOneThenAdministration : RuleSet :=
  { rules := [.exceedingOne "n|gt", .administration] }

theorem RuleSet.failing_rule_hides_no_alert :
    (BoundRule.exceedingOne "n|gt").matchEvent .hugeChangeByAdmin = .error .integerTooLarge ∧
      exceedingOneThenAdministration.evaluate [.hugeChangeByAdmin] =
        [⟨⟨.administration, ["sel_user"]⟩, .hugeChangeByAdmin⟩] ∧
      ∃ found : SecurityEvent → List RuleMatch,
        (∀ event, (exceedingOneThenAdministration.answering event).matchEvent event =
          .ok (found event)) ∧
        (∀ event, (∀ bound ∈ exceedingOneThenAdministration.rules,
            ∃ outcome, bound.matchEvent event = .ok outcome) →
          exceedingOneThenAdministration.matchEvent event = .ok (found event)) ∧
        exceedingOneThenAdministration.evaluate [.hugeChangeByAdmin] =
          [.hugeChangeByAdmin].flatMap (fun event => (found event).map fun one => ⟨one, event⟩) ∧
        (exceedingOneThenAdministration.evaluate [.hugeChangeByAdmin]).map Alert.record =
          [.hugeChangeByAdmin].flatMap fun event => (found event).map fun one =>
            one.record ++ [("event_id", .text event.id), ("event_host", .text event.host)] := by
  have asks : SelectionKey.ofText "n|gt" = ⟨"n", ["gt"]⟩ := by decide +kernel
  have held : SecurityEvent.hugeChangeByAdmin.fieldValue (SelectionKey.ofText "n|gt").field =
      .int (10 ^ 400) := by
    rw [asks]
    rfl
  have fails := BoundRule.matchEvent_exceedingOne held (by decide +kernel)
  have matched : BoundRule.administration.matchEvent .hugeChangeByAdmin =
      .ok (some ⟨.administration, ["sel_user"]⟩) := rfl
  refine ⟨fails, ?_, evaluate_agrees_with_matching _ _⟩
  simp [evaluate, alertsOf, exceedingOneThenAdministration, fails, matched]

end ThreatWatch
