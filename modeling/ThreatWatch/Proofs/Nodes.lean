import ThreatWatch.Yaml.Grammar

/-! What can go wrong when nodes are read from tokens. Whatever the tokens are, the only
faults are that they make up no document and a fault that one of them holds. -/

namespace ThreatWatch.Yaml

namespace Grammar

/-- The faults that reading tokens can meet. -/
inductive Meets (tokens : List Token) : Fault → Prop where
  | malformed : Meets tokens .yaml
  | broken {fault : Fault} (held : .broken fault ∈ tokens) : Meets tokens fault

def Safe {α : Type} (tokens : List Token) (reader : Reader α) : Prop :=
  ∀ reading : Reading, reading.tokens ⊆ tokens →
    match reader.run reading with
    | .ok (_, after) => after.tokens ⊆ tokens
    | .error fault => Meets tokens fault

section

variable {α β : Type} {tokens : List Token}

/-! ## Steps -/

theorem safe_pure (value : α) : Safe tokens (pure value : Reader α) :=
  fun _ part => part

theorem Safe.bind {reader : Reader α} {next : α → Reader β} (first : Safe tokens reader)
    (later : ∀ value, Safe tokens (next value)) : Safe tokens (reader >>= next) := by
  intro reading part
  have here := first reading part
  rw [StateT.run_bind]
  cases ran : reader.run reading with
  | error fault =>
      rw [ran] at here
      exact here
  | ok result =>
      rw [ran] at here
      exact later result.1 result.2 here

theorem safe_throw {fault : Fault} (meets : Meets tokens fault) :
    Safe tokens (throw fault : Reader α) :=
  fun _ _ => meets

theorem safe_get : Safe tokens (get : Reader Reading) :=
  fun _ part => part

theorem safe_modify {change : Reading → Reading}
    (keeps : ∀ reading, (change reading).tokens ⊆ reading.tokens) :
    Safe tokens (modify change : Reader Unit) :=
  fun reading part => List.Subset.trans (keeps reading) part

theorem safe_peek_bind {next : Token → Reader α} (atEnd : Safe tokens (next .streamEnd))
    (atToken : ∀ token ∈ tokens, Safe tokens (next token)) : Safe tokens (peek >>= next) := by
  intro reading part
  cases left : reading.tokens with
  | nil =>
      have ran : (peek >>= next).run reading = (next .streamEnd).run reading := by
        simp [peek, left]
      rw [ran]
      exact atEnd reading part
  | cons token others =>
      have ran : (peek >>= next).run reading = (next token).run reading := by
        simp [peek, left]
      rw [ran]
      exact atToken token (part (by simp [left])) reading part

theorem safe_peek : Safe tokens peek :=
  safe_get.bind fun _ => safe_pure _

theorem safe_drop : Safe tokens drop :=
  safe_modify fun _ => (List.tail_sublist _).subset

theorem safe_refuse : Safe tokens (refuse : Reader α) := by
  unfold refuse
  refine safe_peek_bind (safe_throw .malformed) fun token member => ?_
  split
  · exact safe_throw (.broken member)
  · exact safe_throw .malformed

theorem safe_accept (token : Token) : Safe tokens (accept token) := by
  unfold accept
  refine safe_peek.bind fun next => ?_
  split
  · exact safe_drop.bind fun _ => safe_pure true
  · exact safe_pure false

theorem safe_expect (token : Token) : Safe tokens (expect token) := by
  unfold expect
  refine (safe_accept token).bind fun accepted => ?_
  split
  · exact safe_refuse
  · exact safe_pure ()

theorem safe_orEmpty (ends : List Token) {read : Reader Node} (safe : Safe tokens read) :
    Safe tokens (orEmpty ends read) := by
  unfold orEmpty
  refine safe_peek.bind fun next => ?_
  split
  · exact safe_pure _
  · exact safe

/-! ## Properties and anchors -/

theorem safe_tagName (handle : Option String) (suffix : String) :
    Safe tokens (tagName handle suffix) := by
  cases handle with
  | none => exact safe_pure suffix
  | some handle =>
      refine safe_get.bind fun reading => ?_
      split
      · exact safe_pure _
      · exact safe_throw .malformed

theorem safe_readAnchor : Safe tokens readAnchor := by
  unfold readAnchor
  refine safe_peek.bind fun next => ?_
  split
  · exact safe_drop.bind fun _ => safe_pure _
  · exact safe_pure none

theorem safe_readTag : Safe tokens readTag := by
  unfold readTag
  refine safe_peek.bind fun next => ?_
  split
  · exact safe_drop.bind fun _ => safe_pure _
  · exact safe_pure none

theorem safe_readProperties : Safe tokens readProperties := by
  have safeEnd (anchor : Option String) (tag : Option String × String) : Safe tokens (do
      let name ← tagName tag.1 tag.2
      return (⟨anchor, some name⟩ : Properties)) :=
    (safe_tagName _ _).bind fun _ => safe_pure _
  unfold readProperties
  refine safe_readAnchor.bind fun early => safe_readTag.bind fun tag => ?_
  -- an anchor may come after a tag where none came before it
  cases tag with
  | none => cases early <;> exact (safe_pure _).bind fun _ => safe_pure _
  | some tag =>
      cases early with
      | none => exact safe_readAnchor.bind fun anchor => safeEnd anchor tag
      | some anchor => exact (safe_pure _).bind fun anchor => safeEnd anchor tag

theorem safe_openAnchor (mark : Nat) (anchor : Option String) :
    Safe tokens (openAnchor mark anchor) := by
  cases anchor with
  | none => exact safe_pure ()
  | some name =>
      refine safe_get.bind fun reading => ?_
      split
      · exact safe_throw .malformed
      · exact safe_modify fun _ => List.Subset.refl _

theorem safe_closeAnchor (node : Node) (anchor : Option String) :
    Safe tokens (closeAnchor node anchor) := by
  cases anchor with
  | none => exact safe_pure node
  | some name => exact (safe_modify fun _ => List.Subset.refl _).bind fun _ => safe_pure node

theorem safe_aliased (name : String) : Safe tokens (aliased name) := by
  unfold aliased
  refine safe_get.bind fun reading => ?_
  split
  · exact safe_pure _
  · exact safe_throw .malformed

theorem safe_complete (properties : Properties) {build : Tag → α → Node} (usual : Tag)
    {content : Reader α} (safeContent : Safe tokens content) :
    Safe tokens (complete properties build usual content) := by
  unfold complete
  exact safe_get.bind fun _ => (safe_openAnchor _ _).bind fun _ => safeContent.bind fun _ =>
    safe_closeAnchor _ _

theorem safe_completeScalar (properties : Properties) (scalar : Node) :
    Safe tokens (completeScalar properties scalar) := by
  unfold completeScalar
  exact (safe_openAnchor _ _).bind fun _ => safe_closeAnchor _ _

theorem safe_readEmpty (properties : Properties) : Safe tokens (readEmpty properties) := by
  unfold readEmpty
  split
  · exact safe_refuse
  · exact safe_completeScalar _ _

/-! ## Collections -/

variable {node : NodeReader} (safe : ∀ position, Safe tokens (node position))

include safe

theorem safe_readBlockSequence (fuel : Nat) : Safe tokens (readBlockSequence node fuel) := by
  induction fuel with
  | zero => exact safe_refuse
  | succ fuel induction =>
      unfold readBlockSequence
      refine (safe_accept _).bind fun accepted => ?_
      split
      · exact (safe_orEmpty _ (safe _)).bind fun item => induction.bind fun _ => safe_pure _
      · exact (safe_expect _).bind fun _ => safe_pure _

theorem safe_readOpenSequence (fuel : Nat) : Safe tokens (readOpenSequence node fuel) := by
  induction fuel with
  | zero => exact safe_pure []
  | succ fuel induction =>
      unfold readOpenSequence
      refine (safe_accept _).bind fun accepted => ?_
      split
      · exact (safe_orEmpty _ (safe _)).bind fun item => induction.bind fun _ => safe_pure _
      · exact safe_pure _

theorem safe_readBlockValue : Safe tokens (readBlockValue node) := by
  unfold readBlockValue
  refine (safe_accept _).bind fun accepted => ?_
  split
  · exact safe_orEmpty _ (safe _)
  · exact safe_pure _

theorem safe_readBlockMapping (fuel : Nat) : Safe tokens (readBlockMapping node fuel) := by
  induction fuel with
  | zero => exact safe_refuse
  | succ fuel induction =>
      unfold readBlockMapping
      refine (safe_accept _).bind fun accepted => ?_
      split
      · exact (safe_orEmpty _ (safe _)).bind fun key =>
          (safe_readBlockValue safe).bind fun value => induction.bind fun _ => safe_pure _
      · exact (safe_expect _).bind fun _ => safe_pure _

theorem safe_readFlowValue (closing : Token) : Safe tokens (readFlowValue node closing) := by
  unfold readFlowValue
  refine (safe_accept _).bind fun accepted => ?_
  split
  · exact safe_orEmpty _ (safe _)
  · exact safe_pure _

theorem safe_readFlowPair (closing : Token) : Safe tokens (readFlowPair node closing) := by
  unfold readFlowPair
  exact (safe_orEmpty _ (safe _)).bind fun key =>
    (safe_readFlowValue safe closing).bind fun value => safe_pure _

theorem safe_readFlowItem : Safe tokens (readFlowItem node) := by
  unfold readFlowItem
  refine (safe_accept _).bind fun accepted => ?_
  split
  · exact safe_complete _ _ ((safe_readFlowPair safe _).bind fun pair => safe_pure _)
  · exact safe _

theorem safe_readFlowEntry : Safe tokens (readFlowEntry node) := by
  unfold readFlowEntry
  refine (safe_accept _).bind fun accepted => ?_
  split
  · exact safe_readFlowPair safe _
  · exact (safe _).bind fun key => safe_pure _

omit safe in
theorem safe_readFlow (closing : Token) {item : Reader α} (safeItem : Safe tokens item)
    (fuel : Nat) (first : Bool) : Safe tokens (readFlow closing item fuel first) := by
  induction fuel generalizing first with
  | zero => exact safe_refuse
  | succ fuel induction =>
      unfold readFlow
      refine (safe_accept _).bind fun closed => ?_
      split
      · exact safe_pure _
      · have safeRest : Safe tokens (do
            if ← accept closing then return []
            else
              let item' ← item
              return item' :: (← readFlow closing item fuel false)) := by
          refine (safe_accept _).bind fun closedAfter => ?_
          split
          · exact safe_pure _
          · exact safeItem.bind fun _ => (induction false).bind fun _ => safe_pure _
        split
        · exact (safe_expect _).bind fun _ => safeRest
        · exact safeRest

/-! ## Nodes -/

theorem safe_readContent (fuel : Nat) (position : Position) (properties : Properties) :
    Safe tokens (readContent node fuel position properties) := by
  have safeEmpty : Safe tokens (readEmpty properties) := safe_readEmpty properties
  unfold readContent
  refine safe_peek_bind safeEmpty fun token member => ?_
  split
  · exact safe_drop.bind fun _ => safe_completeScalar _ _
  · exact safe_drop.bind fun _ => safe_completeScalar _ _
  · exact safe_drop.bind fun _ => safe_complete _ _
      (safe_readFlow _ (safe_readFlowItem safe) _ _)
  · exact safe_drop.bind fun _ => safe_complete _ _
      (safe_readFlow _ (safe_readFlowEntry safe) _ _)
  · split
    · exact safe_complete _ _ (safe_readOpenSequence safe _)
    · exact safeEmpty
  · split
    · exact safe_drop.bind fun _ => safe_complete _ _ (safe_readBlockSequence safe _)
    · exact safeEmpty
  · split
    · exact safe_drop.bind fun _ => safe_complete _ _ (safe_readBlockMapping safe _)
    · exact safeEmpty
  · exact safe_throw (.broken member)
  · exact safeEmpty

omit safe in
theorem safe_readNode (fuel : Nat) (position : Position) :
    Safe tokens (readNode fuel position) := by
  induction fuel generalizing position with
  | zero => exact safe_refuse
  | succ fuel induction =>
      have safeOther : Safe tokens (do
          let properties ← readProperties
          readContent (readNode fuel) (fuel + 1) position properties) :=
        safe_readProperties.bind fun properties => safe_readContent induction _ _ _
      unfold readNode
      refine safe_peek_bind safeOther fun token member => ?_
      split
      · exact safe_drop.bind fun _ => safe_aliased _
      · exact safeOther

omit safe

/-! ## Documents -/

theorem safe_declare (declarations : Declarations) (directive : Directive) :
    Safe tokens (declare declarations directive) := by
  unfold declare
  split
  · split
    · exact safe_throw .malformed
    · exact safe_pure _
  · split
    · exact safe_throw .malformed
    · exact safe_pure _
  · exact safe_pure _

theorem safe_readDirectives (fuel : Nat) (declarations : Declarations) :
    Safe tokens (readDirectives fuel declarations) := by
  induction fuel generalizing declarations with
  | zero => exact safe_pure declarations
  | succ fuel induction =>
      unfold readDirectives
      refine safe_peek.bind fun next => ?_
      split
      · exact safe_drop.bind fun _ => (safe_declare _ _).bind induction
      · exact safe_pure _

theorem safe_readMarkedDocument (fuel : Nat) : Safe tokens (readMarkedDocument fuel) := by
  have safeHandles (handles : Table String) :
      Safe tokens (modify fun reading => { reading with handles := handles }) :=
    safe_modify fun _ => List.Subset.refl _
  unfold readMarkedDocument
  refine (safe_readDirectives _ _).bind fun declarations => (safe_expect _).bind fun _ =>
    (safeHandles _).bind fun _ => safe_peek.bind fun next => ?_
  split
  · exact safe_pure _
  · exact safe_readNode _ _

theorem safe_skipDocumentEnds (fuel : Nat) : Safe tokens (skipDocumentEnds fuel) := by
  induction fuel with
  | zero => exact safe_pure ()
  | succ fuel induction =>
      unfold skipDocumentEnds
      refine (safe_accept _).bind fun accepted => ?_
      split
      · exact induction
      · exact safe_pure ()

theorem safe_readStream (fuel : Nat) : Safe tokens (readStream fuel) := by
  have safeEnd (root : Node) : Safe tokens (do
      skipDocumentEnds fuel
      expect .streamEnd
      return some root) :=
    (safe_skipDocumentEnds _).bind fun _ => (safe_expect _).bind fun _ => safe_pure _
  unfold readStream
  refine safe_peek.bind fun next => ?_
  split
  · exact safe_pure none
  · split
    · exact (safe_readMarkedDocument _).bind safeEnd
    · exact (safe_readMarkedDocument _).bind safeEnd
    · exact (safe_readNode _ _).bind safeEnd

end

end Grammar

theorem Node.ofText?_eq_error {text : String} {fault : Fault}
    (failed : Node.ofText? text = .error fault) : Grammar.Meets (tokens text) fault := by
  have safe : Grammar.Safe (tokens text) (Grammar.readStream ((tokens text).length + 1)) :=
    Grammar.safe_readStream _
  have here := safe { tokens := tokens text, handles := Grammar.usualHandles } (List.Subset.refl _)
  cases ran : (Grammar.readStream ((tokens text).length + 1)).run
      { tokens := tokens text, handles := Grammar.usualHandles } with
  | ok result =>
      have read : Node.ofText? text = .ok result.1 := congrArg (Except.map Prod.fst) ran
      cases read.symm.trans failed
  | error found =>
      have read : Node.ofText? text = .error found := congrArg (Except.map Prod.fst) ran
      rw [ran] at here
      cases read.symm.trans failed
      exact here

end ThreatWatch.Yaml
