import ThreatWatch.Detection.RuleSet
import ThreatWatch.Proofs.Documents

/-! Rules and the files that they come from. A rule tells the path of its file, and this is all
that it has of the path: a text gives the same rule, bound alike and matched by the same events,
whatever file it stands in. -/

namespace ThreatWatch

namespace Rule

def onFile (file : Option String) (rule : Rule) : Rule :=
  { rule with file := file }

theorem checkDetection_of_ok {place : String} {detection : Document}
    (checked : checkDetection place detection = .ok ()) (other : String) :
    checkDetection other detection = .ok () := by
  unfold checkDetection at checked ⊢
  split at checked
  · next isMapping =>
      rw [if_pos isMapping]
      split at checked
      · next content isText =>
          split at checked
          · cases checked
          · next filled => exact if_neg filled
      · cases checked
  · cases checked

theorem readLevel_of_ok {place : String} {held : Document} {level : String}
    (read : readLevel place held = .ok level) (other : String) :
    readLevel other held = .ok level := by
  rcases bind_eq_ok_iff.mp read with ⟨shown, told, chosen⟩
  refine bind_eq_ok_iff.mpr ⟨shown, told, ?_⟩
  split at chosen
  · next known =>
      rw [if_pos known]
      exact chosen
  · rcases bind_eq_ok_iff.mp chosen with ⟨_, _, failed⟩
    cases failed

theorem ofDocument_onFile {document : Document} {file : Option String} {rule : Rule}
    (read : ofDocument document file = .ok rule) (other : Option String) :
    ofDocument document other = .ok (rule.onFile other) := by
  unfold ofDocument at read ⊢
  dsimp only at read ⊢
  split at read
  · next isMapping =>
    -- The place that is read from stands in the texts of faults alone.
    rw [if_pos isMapping]
    rcases bind_eq_ok_iff.mp read with ⟨title, ofTitle, read⟩
    refine bind_eq_ok_iff.mpr ⟨title, ofTitle, ?_⟩
    split at read
    · cases read
    · next titled =>
        rw [if_neg titled]
        rcases bind_eq_ok_iff.mp read with ⟨_, checked, read⟩
        rcases bind_eq_ok_iff.mp read with ⟨level, ofLevel, read⟩
        refine bind_eq_ok_iff.mpr ⟨(), checkDetection_of_ok checked _, ?_⟩
        refine bind_eq_ok_iff.mpr ⟨level, readLevel_of_ok ofLevel _, ?_⟩
        rcases bind_eq_ok_iff.mp read with ⟨id, ofId, read⟩
        rcases bind_eq_ok_iff.mp read with ⟨status, ofStatus, read⟩
        rcases bind_eq_ok_iff.mp read with ⟨named, ofNames, read⟩
        rcases bind_eq_ok_iff.mp read with ⟨description, ofDescription, read⟩
        rcases bind_eq_ok_iff.mp read with ⟨author, ofAuthor, read⟩
        rcases bind_eq_ok_iff.mp read with ⟨date, ofDate, read⟩
        rcases bind_eq_ok_iff.mp read with ⟨tags, ofTags, read⟩
        rcases bind_eq_ok_iff.mp read with ⟨falsePositives, ofFalsePositives, read⟩
        rcases bind_eq_ok_iff.mp read with ⟨references, ofReferences, read⟩
        rcases bind_eq_ok_iff.mp read with ⟨table, sealedAll, equal⟩
        cases equal
        simp only [ofId, ofStatus, ofNames, ofDescription, ofAuthor, ofDate, ofTags,
          ofFalsePositives, ofReferences, sealedAll, bind, Except.bind]
        rfl
  · cases read

theorem ofText_onFile {content : String} {file : Option String} {rule : Rule}
    (read : ofText content file = .ok rule) (other : Option String) :
    ofText content other = .ok (rule.onFile other) := by
  unfold ofText fromText at read ⊢
  split at read
  · exact ofDocument_onFile read other
  · cases read
  · cases read

theorem toOption_ofText {content : String} (file : Option String) :
    (ofText content file).toOption = (ofText content none).toOption.map (onFile file) :=
  toOption_eq_map (fun _ read => ofText_onFile read file)
    fun _ read => ⟨_, ofText_onFile read none⟩

theorem accepts_onFile (settings : DetectionSettings) (rule : Rule) (file : Option String) :
    settings.accepts (rule.onFile file) = settings.accepts rule :=
  rfl

end Rule

namespace BoundRule

def onFile (file : Option String) (bound : BoundRule) : BoundRule :=
  { bound with rule := bound.rule.onFile file }

theorem ofRule_onFile {rule : Rule} {bound : BoundRule} (binds : ofRule rule = .ok bound)
    (file : Option String) : ofRule (rule.onFile file) = .ok (bound.onFile file) := by
  rcases ofRule_eq_ok binds with ⟨rfl, compiled, parsed⟩
  exact ofRule_of_parts compiled parsed

theorem toOption_ofRule_onFile {rule : Rule} (file : Option String) :
    (ofRule (rule.onFile file)).toOption = (ofRule rule).toOption.map (onFile file) :=
  toOption_eq_map (fun _ binds => ofRule_onFile binds file)
    fun _ binds => ⟨_, ofRule_onFile binds rule.file⟩

def raises (event : SecurityEvent) (bound : BoundRule) : Bool :=
  match bound.matchEvent event with
  | .ok (some _) => true
  | _ => false

theorem rule_of_matchEvent {bound : BoundRule} {event : SecurityEvent} {found : RuleMatch}
    (matched : bound.matchEvent event = .ok (some found)) : found.rule = bound.rule := by
  rcases bind_eq_ok_iff.mp matched with ⟨outcomes, _, answer⟩
  split at answer
  · cases answer
    rfl
  · cases answer

theorem raises_onFile (event : SecurityEvent) (bound : BoundRule) (file : Option String) :
    (bound.onFile file).raises event = bound.raises event := by
  have outcomes : (bound.onFile file).outcomes event = bound.outcomes event := rfl
  unfold raises matchEvent
  rw [outcomes]
  cases bound.outcomes event with
  | error fault => rfl
  | ok table =>
      have condition : (bound.onFile file).condition = bound.condition := rfl
      simp only [bind, Except.bind, condition]
      cases bound.condition.evaluate fun name => (table.get? name).getD false <;> rfl

end BoundRule

end ThreatWatch
