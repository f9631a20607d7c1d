import ThreatWatch.Proofs.Admission
import ThreatWatch.Proofs.Directory
import ThreatWatch.Proofs.Documents
import ThreatWatch.Proofs.Locating
import ThreatWatch.Proofs.Origins

/-! Roots that overlap. A rule set reads the rule files below each of its roots, one root after the
other, and does not ask whether it has read a file before: it holds the rule of a file as often as
a root leads to a directory around the file, whatever the roots are spelled like. -/

namespace ThreatWatch

/-! ## Rule sets by their files -/

namespace RuleSet

def ruleOf? : FileContent → Option Rule
  | .octets octets => (Rule.ofText (FileTree.lenientText octets) none).toOption
  | .unreadable _ => none

def boundOf? (settings : DetectionSettings) (content : FileContent) : Option BoundRule :=
  (ruleOf? content).bind fun rule =>
    if (settings.accepts rule).toOption = some true then (BoundRule.ofRule rule).toOption else none

def given (settings : DetectionSettings) (file : Rule.RuleFile) : Option BoundRule :=
  (boundOf? settings file.2).map (BoundRule.onFile (some file.1))

def filesOf (tree : FileTree) : Value → List Rule.RuleFile
  | .text path => Rule.filesAt tree path true
  | _ => []

def boundsOf (settings : DetectionSettings) (candidates : List Rule) : List BoundRule :=
  (settings.admitted candidates).filterMap fun rule => (BoundRule.ofRule rule).toOption

section

variable {settings : DetectionSettings} {tree : FileTree} {loaded : Rule.Collection}

theorem left_of_fromFile {file : Rule.RuleFile} {outcome : Rule ⊕ String}
    (given : Rule.fromFile Yaml.load file = .ok outcome) :
    outcome.getLeft? = (ruleOf? file.2).map (Rule.onFile (some file.1)) := by
  cases Rule.fromFile_eq_ok_iff.mp given with
  | @rule path octets rule read =>
      rw [ruleOf?, ← Rule.toOption_ofText (some path), Rule.ofText, read]
      rfl
  | @report path octets fault failed =>
      rw [ruleOf?, ← Rule.toOption_ofText (some path), Rule.ofText, failed]
      rfl
  | unreadable => rfl

theorem rules_of_fromFiles {files : List Rule.RuleFile}
    (read : Rule.fromFiles Yaml.load files = .ok loaded) :
    loaded.rules = files.filterMap fun file =>
      (ruleOf? file.2).map (Rule.onFile (some file.1)) := by
  rcases bind_eq_ok_iff.mp read with ⟨outcomes, told, equal⟩
  cases equal
  have views := map_eq_of_mapM_eq_ok Sum.getLeft? _ told fun file outcome => left_of_fromFile
  have lefts := congrArg (List.filterMap id) views
  rw [List.filterMap_map, List.filterMap_map] at lefts
  exact lefts

theorem rules_of_loadRoot {root : Value} (loads : loadRoot tree root = .ok loaded) :
    loaded.rules = (filesOf tree root).filterMap fun file =>
      (ruleOf? file.2).map (Rule.onFile (some file.1)) := by
  unfold loadRoot at loads
  split at loads
  · exact rules_of_fromFiles loads
  all_goals
    cases loads
    try rfl

theorem filesOf_of_absent {root : Value} (absent : ¬root.isPresent = true) :
    filesOf tree root = [] := by
  cases root with
  | text path =>
      have blank : path = "" := by simpa [Value.isPresent] using absent
      rw [blank]
      rfl
  | _ => rfl

theorem rules_of_loadRoots {roots : List Value} (loads : loadRoots tree roots = .ok loaded) :
    loaded.rules = (roots.flatMap (filesOf tree)).filterMap fun file =>
      (ruleOf? file.2).map (Rule.onFile (some file.1)) := by
  induction roots generalizing loaded with
  | nil =>
      cases loads
      rfl
  | cons root rest induction =>
      unfold loadRoots at loads
      dsimp only at loads
      rw [List.flatMap_cons, List.filterMap_append]
      split at loads
      · rcases bind_eq_ok_iff.mp loads with ⟨first, here, afterFirst⟩
        rcases bind_eq_ok_iff.mp afterFirst with ⟨others, there, equal⟩
        cases equal
        rw [← rules_of_loadRoot here, ← induction there]
      · next absent =>
          rcases bind_eq_ok_iff.mp loads with ⟨first, here, afterFirst⟩
          rcases bind_eq_ok_iff.mp afterFirst with ⟨others, there, equal⟩
          cases here
          cases equal
          rw [filesOf_of_absent absent, ← induction there]
          rfl

theorem boundOf?_onFile (content : FileContent) (file : Option String) :
    (((ruleOf? content).map (Rule.onFile file)).bind fun rule =>
      if (settings.accepts rule).toOption = some true then (BoundRule.ofRule rule).toOption
      else none) = (boundOf? settings content).map (BoundRule.onFile file) := by
  rw [boundOf?, Option.bind_map, Option.map_bind]
  refine congrArg _ (funext fun rule => ?_)
  rw [Function.comp_apply, Function.comp_apply, Rule.accepts_onFile]
  by_cases takesPart : (settings.accepts rule).toOption = some true
  · rw [if_pos takesPart, if_pos takesPart, BoundRule.toOption_ofRule_onFile]
  · rw [if_neg takesPart, if_neg takesPart, Option.map_none]

theorem boundsOf_filterMap (files : List Rule.RuleFile) :
    (boundsOf settings (files.filterMap fun file =>
      (ruleOf? file.2).map (Rule.onFile (some file.1)))) =
      files.filterMap (given settings) := by
  rw [boundsOf, DetectionSettings.admitted, List.filterMap_filter, List.filterMap_filterMap]
  refine congrArg (files.filterMap ·) (funext fun file => ?_)
  rw [given, ← boundOf?_onFile]
  simp only [decide_eq_true_eq]

theorem eq_extended_of_add {set next : RuleSet} {rule : Rule}
    (added : set.add settings rule = .ok next) : next = set.extended settings [rule] := by
  have loads : Loads settings rule := by
    rcases bind_eq_ok_iff.mp added with ⟨answer, told, chosen⟩
    refine ⟨answer, told, ?_⟩
    rintro rfl
    cases binds : BoundRule.ofRule rule with
    | ok bound => exact .inl ⟨bound, rfl⟩
    | error fault =>
        rw [binds] at chosen
        cases fault with
        | rule fault => exact .inr ⟨fault, rfl⟩
        | _ => cases chosen
  exact Except.ok.inj (added.symm.trans (add_eq_ok loads set))

theorem eq_extended_of_foldlM {candidates : List Rule} {set next : RuleSet}
    (added : candidates.foldlM (add settings) set = .ok next) :
    next = set.extended settings candidates := by
  induction candidates generalizing set with
  | nil =>
      cases added
      exact (extended_nil _).symm
  | cons rule rest induction =>
      rw [List.foldlM_cons] at added
      rcases bind_eq_ok_iff.mp added with ⟨middle, first, later⟩
      rw [induction later, eq_extended_of_add first, extended_extended]
      rfl

theorem rules_of_load {more : List Rule} {set : RuleSet}
    (loads : load tree settings more = .ok set) :
    set.rules = (settings.roots.flatMap (filesOf tree)).filterMap (given settings) ++
      boundsOf settings more := by
  rcases bind_eq_ok_iff.mp loads with ⟨loaded, ofRoots, added⟩
  rw [eq_extended_of_foldlM added, extended, DetectionSettings.admitted_append,
    List.filterMap_append, List.nil_append, ← boundsOf, ← boundsOf, rules_of_loadRoots ofRoots,
    boundsOf_filterMap]

end

end RuleSet

/-! ## Rules of one file -/

theorem countP_le_one {α β : Type} {items : List α} {holds : α → Bool} {key : α → β}
    (distinct : (items.map key).Nodup) (only : β)
    (told : ∀ item ∈ items, holds item = true → key item = only) :
    items.countP holds ≤ 1 := by
  have part : ((items.filter holds).map key).Subperm [only] := by
    refine List.subperm_of_subset (distinct.sublist (List.filter_sublist.map key)) ?_
    intro name member
    rcases List.mem_map.mp member with ⟨item, kept, rfl⟩
    rcases List.mem_filter.mp kept with ⟨stored, passes⟩
    exact List.mem_singleton.mpr (told item stored passes)
  rw [List.countP_eq_length_filter, ← List.length_map key]
  exact part.length_le

namespace Rule

def isFrom (place : List String) (rule : Rule) : Bool :=
  rule.file.any fun path => FileTree.locate path == place

theorem isRulePlace_append_iff {start place : List String} (filled : place ≠ []) :
    IsRulePlace (start ++ place) ↔ IsRulePlace place := by
  rw [IsRulePlace, IsRulePlace, List.getLast?_append_of_ne_nil _ filled]

end Rule

namespace RuleSet

def reaches (tree : FileTree) (place : List String) : Value → Bool
  | .text path =>
      (tree.find? path).any FileTree.isDirectory && (FileTree.locate path).isPrefixOf place
  | _ => false

def GivesRule (tree : FileTree) (settings : DetectionSettings) (place : List String) : Prop :=
  ∃ octets rule bound, tree.Holds place (.octets octets) ∧ Rule.IsRulePlace place ∧
    Rule.ofText (FileTree.lenientText octets) none = .ok rule ∧
    settings.accepts rule = .ok true ∧ BoundRule.ofRule rule = .ok bound

section

variable {settings : DetectionSettings} {tree : FileTree} {place : List String}

theorem ruleOf?_eq_some_iff {content : FileContent} {rule : Rule} :
    ruleOf? content = some rule ↔
      ∃ octets, content = .octets octets ∧
        Rule.ofText (FileTree.lenientText octets) none = .ok rule := by
  cases content with
  | octets octets => simp [ruleOf?, toOption_eq_some_iff]
  | unreadable reason => simp [ruleOf?]

theorem boundOf?_eq_some_iff {content : FileContent} {bound : BoundRule} :
    boundOf? settings content = some bound ↔
      ∃ rule, ruleOf? content = some rule ∧ settings.accepts rule = .ok true ∧
        BoundRule.ofRule rule = .ok bound := by
  rw [boundOf?, Option.bind_eq_some_iff]
  refine exists_congr fun rule => and_congr_right fun _ => ?_
  rw [← toOption_eq_some_iff, ← @toOption_eq_some_iff _ _ (BoundRule.ofRule rule)]
  split
  · next takesPart => exact ⟨fun binds => ⟨takesPart, binds⟩, And.right⟩
  · next leftOut => exact ⟨nofun, fun both => absurd both.1 leftOut⟩

theorem isFrom_given {file : Rule.RuleFile} {bound : BoundRule}
    (gives : given settings file = some bound) :
    bound.rule.isFrom place = (FileTree.locate file.1 == place) := by
  rcases Option.map_eq_some_iff.mp gives with ⟨_, _, rfl⟩
  rfl

theorem filesOf_eq {path : String} {entries : List (String × FileTree)}
    (leads : tree.find? path = some (.directory entries)) :
    filesOf tree (.text path) = (Rule.places (.directory entries)).map (Rule.atPath path) := by
  rw [filesOf, Rule.filesAt, leads, ← Rule.filesBelow_eq]
  rfl

theorem locate_atPath (regular : tree.IsRegular) {path : String} {child : FileTree}
    (leads : tree.find? path = some child) {placed : Rule.Placed}
    (member : placed ∈ Rule.places child) :
    FileTree.locate (Rule.atPath path placed).1 = FileTree.locate path ++ placed.1 := by
  have properChild := regular.proper.find? leads
  have holds := ((Rule.mem_places_iff child).mp member).1
  have below := (FileTree.holds_below_iff regular.proper properChild
    (FileTree.at?_of_find? leads)).mp holds
  rcases regular.steps _ _ below with ⟨noStay, noStep⟩
  exact FileTree.locate_pathTo (Rule.ne_nil_of_mem_places member) (holds.plain properChild)
    ⟨fun stay => noStay (List.mem_append_right _ stay),
      fun step => noStep (List.mem_append_right _ step)⟩ (FileTree.ne_empty_of_find? leads)

theorem exists_of_mem_filesOf {root : Value} {file : Rule.RuleFile}
    (member : file ∈ filesOf tree root) :
    ∃ path entries placed, root = .text path ∧ tree.find? path = some (.directory entries) ∧
      placed ∈ Rule.places (.directory entries) ∧ Rule.atPath path placed = file := by
  cases root with
  | text path =>
      cases leads : tree.find? path with
      | none =>
          rw [filesOf, Rule.filesAt, leads] at member
          cases member
      | some child =>
          cases child with
          | file content =>
              rw [filesOf, Rule.filesAt, leads] at member
              cases member
          | directory entries =>
              rw [filesOf_eq leads] at member
              rcases List.mem_map.mp member with ⟨placed, met, isFile⟩
              exact ⟨path, entries, placed, rfl, leads, met, isFile⟩
  | _ => cases member

theorem reaches_iff {root : Value} :
    reaches tree place root = true ↔
      ∃ path entries rest, root = .text path ∧ tree.find? path = some (.directory entries) ∧
        FileTree.locate path ++ rest = place := by
  constructor
  · intro around
    cases root with
    | text path =>
        rw [reaches, Bool.and_eq_true, List.isPrefixOf_iff_prefix] at around
        rcases around with ⟨isDirectory, rest, split⟩
        rcases (Option.any_eq_true _ _).mp isDirectory with ⟨child, leads, isDirectory⟩
        cases child with
        | file content => cases isDirectory
        | directory entries => exact ⟨path, entries, rest, rfl, leads, split⟩
    | _ => cases around
  · rintro ⟨path, entries, rest, rfl, leads, rfl⟩
    rw [reaches, leads]
    simp [FileTree.isDirectory]

theorem of_mem_filesOf (regular : tree.IsRegular) {root : Value} {file : Rule.RuleFile}
    (member : file ∈ filesOf tree root) (isPlace : FileTree.locate file.1 = place) :
    reaches tree place root = true ∧ tree.Holds place file.2 ∧ Rule.IsRulePlace place := by
  rcases exists_of_mem_filesOf member with ⟨path, entries, placed, rfl, leads, met, rfl⟩
  rw [locate_atPath regular leads met] at isPlace
  rcases (Rule.mem_places_iff _).mp met with ⟨holds, isRule⟩
  have below := (FileTree.holds_below_iff regular.proper (regular.proper.find? leads)
    (FileTree.at?_of_find? leads)).mp holds
  refine ⟨reaches_iff.mpr ⟨path, entries, placed.1, rfl, leads, isPlace⟩, isPlace ▸ below, ?_⟩
  rw [← isPlace]
  exact (Rule.isRulePlace_append_iff (Rule.ne_nil_of_mem_places met)).mpr isRule

theorem countP_of_reaches (regular : tree.IsRegular) {content : FileContent} {bound : BoundRule}
    (holds : tree.Holds place content) (isRule : Rule.IsRulePlace place)
    (gives : boundOf? settings content = some bound) {root : Value}
    (around : reaches tree place root = true) :
    ((filesOf tree root).filterMap (given settings)).countP (fun bound => bound.rule.isFrom place) =
      1 := by
  rcases reaches_iff.mp around with ⟨path, entries, rest, rfl, leads, rfl⟩
  have properChild := regular.proper.find? leads
  have inside : (FileTree.directory entries).Holds rest content :=
    (FileTree.holds_below_iff regular.proper properChild (FileTree.at?_of_find? leads)).mpr holds
  have filled : rest ≠ [] := by
    rintro rfl
    cases inside
  have met : (rest, content) ∈ Rule.places (.directory entries) :=
    (Rule.mem_places_iff _).mpr ⟨inside, (Rule.isRulePlace_append_iff filled).mp isRule⟩
  have distinct : ((Rule.places (.directory entries)).map Prod.fst).Nodup :=
    List.pairwise_map.mpr ((Rule.pairwise_places _ properChild).imp WalkedBefore.ne)
  rw [filesOf_eq leads, List.filterMap_map, List.countP_filterMap]
  -- The places below one root are different, so that one of them at most is this one.
  refine Nat.le_antisymm (countP_le_one distinct rest fun placed member passes => ?_)
    (List.one_le_countP_iff.mpr ⟨(rest, content), met, ?_⟩)
  · cases found : given settings (Rule.atPath path placed) with
    | none =>
        rw [Function.comp_apply, found] at passes
        cases passes
    | some other =>
        rw [Function.comp_apply, found, Option.map_some, Option.getD_some, isFrom_given found,
          locate_atPath regular leads member, beq_iff_eq] at passes
        exact List.append_cancel_left passes
  · have found : given settings (Rule.atPath path (rest, content)) =
        some (bound.onFile (some (FileTree.pathTo path rest))) := by
      rw [given]
      exact congrArg (Option.map _) gives
    rw [Function.comp_apply, found, Option.map_some, Option.getD_some, isFrom_given found,
      locate_atPath regular leads met, beq_self_eq_true]

/-- A root that is not around the place of a file gives none of its rules, and neither does any
root where the file gives none. -/
theorem countP_of_not (regular : tree.IsRegular) {root : Value}
    (apart : ¬(reaches tree place root = true ∧ GivesRule tree settings place)) :
    ((filesOf tree root).filterMap (given settings)).countP (fun bound => bound.rule.isFrom place) =
      0 := by
  rw [List.countP_eq_zero]
  intro bound member isFrom
  rcases List.mem_filterMap.mp member with ⟨file, stored, found⟩
  rw [isFrom_given found, beq_iff_eq] at isFrom
  rcases of_mem_filesOf regular stored isFrom with ⟨around, holds, isRule⟩
  rcases Option.map_eq_some_iff.mp found with ⟨other, gives, _⟩
  rcases boundOf?_eq_some_iff.mp gives with ⟨rule, reads, takesPart, binds⟩
  rcases ruleOf?_eq_some_iff.mp reads with ⟨octets, isFile, read⟩
  exact apart ⟨around, octets, rule, other, isFile ▸ holds, isRule, read, takesPart, binds⟩

theorem countP_roots (regular : tree.IsRegular) (gives : GivesRule tree settings place)
    (roots : List Value) :
    ((roots.flatMap (filesOf tree)).filterMap (given settings)).countP
      (fun bound => bound.rule.isFrom place) = roots.countP (reaches tree place) := by
  rcases id gives with ⟨octets, rule, bound, holds, isRule, read, takesPart, binds⟩
  have reads := ruleOf?_eq_some_iff.mpr ⟨octets, rfl, read⟩
  have found := boundOf?_eq_some_iff.mpr ⟨rule, reads, takesPart, binds⟩
  induction roots with
  | nil => rfl
  | cons root rest induction =>
      rw [List.flatMap_cons, List.filterMap_append, List.countP_append, induction]
      by_cases around : reaches tree place root = true
      · rw [countP_of_reaches regular holds isRule found around, List.countP_cons_of_pos around,
          Nat.add_comm]
      · rw [countP_of_not regular fun both => around both.1, List.countP_cons_of_neg around,
          Nat.zero_add]

theorem countP_roots_of_not (regular : tree.IsRegular) (nothing : ¬GivesRule tree settings place)
    (roots : List Value) :
    ((roots.flatMap (filesOf tree)).filterMap (given settings)).countP
      (fun bound => bound.rule.isFrom place) = 0 := by
  induction roots with
  | nil => rfl
  | cons root rest induction =>
      rw [List.flatMap_cons, List.filterMap_append, List.countP_append, induction,
        countP_of_not regular fun both => nothing both.2]

/-! ### Alerts -/

theorem countP_alertsOf (set : RuleSet) (event : SecurityEvent) (place : List String) :
    (set.alertsOf event).countP (fun alert => alert.found.rule.isFrom place) =
      set.rules.countP fun bound => bound.raises event && bound.rule.isFrom place := by
  rw [alertsOf, List.countP_filterMap]
  refine List.countP_congr fun bound _ => ?_
  unfold BoundRule.raises
  cases matched : bound.matchEvent event with
  | error fault => rfl
  | ok outcome =>
      cases outcome with
      | none => rfl
      | some found => simp [BoundRule.rule_of_matchEvent matched]

variable {more : List Rule} {set : RuleSet}

theorem raises_of_isFrom (regular : tree.IsRegular) (loads : load tree settings more = .ok set)
    (foreign : ∀ rule ∈ more, rule.isFrom place = false) (event : SecurityEvent) :
    (∀ bound ∈ set.rules, bound.rule.isFrom place = true → bound.raises event = true) ∨
      ∀ bound ∈ set.rules, bound.rule.isFrom place = true → bound.raises event = false := by
  have exactly {bound : BoundRule} (member : bound ∈ set.rules)
      (isFrom : bound.rule.isFrom place = true) :
      ∃ content other, tree.Holds place content ∧ boundOf? settings content = some other ∧
        bound.raises event = other.raises event := by
    rw [rules_of_load loads] at member
    rcases List.mem_append.mp member with ofFile | ofMore
    · rcases List.mem_filterMap.mp ofFile with ⟨file, stored, found⟩
      rw [isFrom_given found, beq_iff_eq] at isFrom
      rcases List.mem_flatMap.mp stored with ⟨root, _, stored⟩
      rcases of_mem_filesOf regular stored isFrom with ⟨_, holds, _⟩
      rcases Option.map_eq_some_iff.mp found with ⟨other, gives, rfl⟩
      exact ⟨file.2, other, holds, gives, BoundRule.raises_onFile event other _⟩
    · rcases ofRule_of_mem_filterMap ofMore with ⟨_, admitted⟩
      have absent := foreign _ (List.mem_of_mem_filter admitted)
      rw [absent] at isFrom
      cases isFrom
  by_cases all : ∀ bound ∈ set.rules, bound.rule.isFrom place = true → bound.raises event = true
  · exact .inl all
  · refine .inr fun bound member isFrom => ?_
    push Not at all
    rcases all with ⟨other, otherMember, otherFrom, silent⟩
    rcases exactly member isFrom with ⟨content, first, holds, gives, raises⟩
    rcases exactly otherMember otherFrom with ⟨others, second, again, givesAgain, otherRaises⟩
    cases holds.unique regular.proper again
    cases gives.symm.trans givesAgain
    rw [raises, ← otherRaises]
    exact Bool.eq_false_iff.mpr silent

/-- A rule set holds the rule of a file as often as there are roots around the place of the file,
however these are spelled, and no rule of a file that gives none. An event raises an alert for each
rule of the file or for none. The roots are paths from the top of the tree. -/
theorem file_counts_once_for_each_root_around_it (regular : tree.IsRegular)
    (loads : load tree settings more = .ok set)
    (foreign : ∀ rule ∈ more, rule.isFrom place = false) :
    (GivesRule tree settings place →
      set.rules.countP (fun bound => bound.rule.isFrom place) =
        settings.roots.countP (reaches tree place)) ∧
    (¬GivesRule tree settings place →
      set.rules.countP (fun bound => bound.rule.isFrom place) = 0) ∧
    ∀ event, (set.alertsOf event).countP (fun alert => alert.found.rule.isFrom place) = 0 ∨
      (set.alertsOf event).countP (fun alert => alert.found.rule.isFrom place) =
        set.rules.countP fun bound => bound.rule.isFrom place := by
  have besides : (boundsOf settings more).countP (fun bound => bound.rule.isFrom place) = 0 := by
    refine List.countP_eq_zero.mpr fun bound member => ?_
    rcases ofRule_of_mem_filterMap member with ⟨_, admitted⟩
    rw [foreign _ (List.mem_of_mem_filter admitted)]
    exact Bool.false_ne_true
  have split : set.rules.countP (fun bound => bound.rule.isFrom place) =
      ((settings.roots.flatMap (filesOf tree)).filterMap (given settings)).countP
        (fun bound => bound.rule.isFrom place) := by
    rw [rules_of_load loads, List.countP_append, besides, Nat.add_zero]
  refine ⟨fun gives => split.trans (countP_roots regular gives _),
    fun nothing => split.trans (countP_roots_of_not regular nothing _), fun event => ?_⟩
  rw [countP_alertsOf]
  rcases raises_of_isFrom regular loads foreign event with all | none
  · refine .inr (List.countP_congr fun bound member => ?_)
    rw [Bool.and_eq_true]
    exact ⟨And.right, fun isFrom => ⟨all bound member isFrom, isFrom⟩⟩
  · refine .inl (List.countP_eq_zero.mpr fun bound member both => ?_)
    rcases (Bool.and_eq_true _ _).mp both with ⟨raises, isFrom⟩
    rw [none bound member isFrom] at raises
    cases raises

end

end RuleSet

/-! ## One file below two roots -/

def loginsTree (names : List String) : FileTree :=
  .directory (names.map fun name => (name, .directory
    [("a.yml", .file (.octets (Text.encodeUtf8 (Rule.loginsText "a" ""))))]))

theorem isRegular_loginsTree : (loginsTree ["r", "s"]).IsRegular := by
  have child : (FileTree.directory
      [("a.yml", .file (.octets (Text.encodeUtf8 (Rule.loginsText "a" ""))))]).IsProper :=
    .directory (by decide) (by simp [FileTree.IsPlainName]) (List.forall_mem_singleton.mpr
      (.file _))
  have proper : (loginsTree ["r", "s"]).IsProper :=
    .directory (by decide) (by simp [FileTree.IsPlainName])
      (List.forall_mem_cons.mpr ⟨child, List.forall_mem_singleton.mpr child⟩)
  refine ⟨proper, fun place content holds => ?_⟩
  cases holds with
  | inside member below =>
      rcases List.mem_cons.mp member with isFirst | later
      · cases isFirst
        cases below with
        | inside member below =>
            cases List.mem_singleton.mp member
            cases below
            decide
      · cases List.mem_singleton.mp later
        cases below with
        | inside member below =>
            cases List.mem_singleton.mp member
            cases below
            decide

namespace Rule

def loginsTokens : List Yaml.Token :=
  [.blockMappingStart, .key, .scalar "title" true, .value, .scalar "Logins" true,
    .key, .scalar "id" true, .value, .scalar "a" true,
    .key, .scalar "level" true, .value, .scalar "low" true,
    .key, .scalar "detection" true, .value, .blockMappingStart,
    .key, .scalar "sel" true, .value, .blockMappingStart,
    .key, .scalar "user" true, .value, .scalar "root" true, .blockEnd,
    .key, .scalar "condition" true, .value, .scalar "sel" true, .blockEnd, .blockEnd, .streamEnd]

def loginsNode : Yaml.Node :=
  .mapping .mapping [(.scalar .text "title", .scalar .text "Logins"),
    (.scalar .text "id", .scalar .text "a"), (.scalar .text "level", .scalar .text "low"),
    (.scalar .text "detection", .mapping .mapping
      [(.scalar .text "sel", .mapping .mapping [(.scalar .text "user", .scalar .text "root")]),
        (.scalar .text "condition", .scalar .text "sel")])]

theorem tokens_logins : Yaml.tokens (loginsText "a" "") = loginsTokens := by
  decide +kernel

theorem readStream_logins :
    (Yaml.Grammar.readStream (loginsTokens.length + 1)).run'
      { tokens := loginsTokens, handles := Yaml.Grammar.usualHandles } = .ok (some loginsNode) :=
  rfl

def rootLoginsDocument : Value :=
  .map [(.text "title", .text "Logins"), (.text "id", .text "a"), (.text "level", .text "low"),
    (.text "detection", .map [(.text "sel", .map [(.text "user", .text "root")]),
      (.text "condition", .text "sel")])]

theorem value_logins : Yaml.Content.value 0 loginsNode = .ok rootLoginsDocument := by
  simp [loginsNode, Yaml.Content.value, Yaml.Content.mappingEntries,
    Yaml.Content.splitEntries, Yaml.Content.canMerge, Yaml.Content.keyValue, Yaml.Node.tag,
    Yaml.Content.isScalarTag, Yaml.Content.scalarText?, Yaml.Content.scalarValue,
    Yaml.Content.isCollectionTag, Yaml.Outcome.pair, Yaml.Outcome.combine, Yaml.Content.lift,
    Except.map]
  rfl

def rootLogins : Rule :=
  { logins "a" "sel" with detection :=
    [("sel", .sealed [(.text "user", .text "root")]), ("condition", .text "sel")] }

theorem ofText_logins (file : Option String) :
    ofText (loginsText "a" "") file = .ok (rootLogins.onFile file) := by
  have node : Yaml.Node.ofText? (loginsText "a" "") = .ok (some loginsNode) := by
    unfold Yaml.Node.ofText?
    rw [tokens_logins]
    exact readStream_logins
  have isTree : loginsNode.isTree = true := rfl
  have load : Yaml.load (loginsText "a" "") = .ok (.plain rootLoginsDocument) := by
    rw [Yaml.load, node]
    simp only [bind, Except.bind, isTree, if_pos, value_logins]
    rfl
  rw [ofText, fromText, load]
  rfl

theorem lenientText_logins :
    FileTree.lenientText (Text.encodeUtf8 (loginsText "a" "")) = loginsText "a" "" := by
  decide +kernel

theorem ofDirectory_logins {tree : FileTree} {root path : String}
    (files : filesAt tree root true =
      [(path, .octets (Text.encodeUtf8 (loginsText "a" "")))]) :
    ofDirectory tree root true = .ok { rules := [rootLogins.onFile (some path)] } := by
  have read := ofText_logins (some path)
  rw [ofText] at read
  rw [ofDirectory, fromDirectory, files, fromFiles, List.mapM_cons, fromFile, lenientText_logins,
    read]
  rfl

end Rule

namespace RuleSet

def boundLogins : BoundRule where
  rule := Rule.rootLogins
  selections := [("sel", [[⟨"user", "user", .equals, false,
    [(.text "root", .same (.text "root"))]⟩]])]
  condition := .selection "sel"

def loginsSet (paths : List String) : RuleSet where
  rules := paths.map fun path => boundLogins.onFile (some path)
  scanned := paths.length

theorem add_logins (roots : List Value) (set : RuleSet) (path : String) :
    set.add { roots := roots } (Rule.rootLogins.onFile (some path)) =
      .ok { set with scanned := set.scanned + 1
                     rules := set.rules ++ [boundLogins.onFile (some path)] } := by
  have binds : BoundRule.ofRule Rule.rootLogins = .ok boundLogins := rfl
  have takesPart : DetectionSettings.accepts { roots := roots }
      (Rule.rootLogins.onFile (some path)) = .ok true := rfl
  rw [add, takesPart, BoundRule.ofRule_onFile binds]
  rfl

theorem load_logins {tree : FileTree} {first second firstPath secondPath : String}
    (filled : first ≠ "" ∧ second ≠ "")
    (firstFiles : Rule.filesAt tree first true =
      [(firstPath, .octets (Text.encodeUtf8 (Rule.loginsText "a" "")))])
    (secondFiles : Rule.filesAt tree second true =
      [(secondPath, .octets (Text.encodeUtf8 (Rule.loginsText "a" "")))]) :
    load tree { roots := [.text first, .text second] } [] =
      .ok (loginsSet [firstPath, secondPath]) := by
  have present {root : String} (filled : root ≠ "") : (Value.text root).isPresent = true := by
    simpa [Value.isPresent] using filled
  have roots : loadRoots tree [.text first, .text second] =
      .ok { rules := [Rule.rootLogins.onFile (some firstPath),
        Rule.rootLogins.onFile (some secondPath)] } := by
    rw [loadRoots, loadRoots, present filled.1, present filled.2, if_pos rfl, if_pos rfl, loadRoot,
      loadRoot, Rule.ofDirectory_logins firstFiles, Rule.ofDirectory_logins secondFiles]
    rfl
  rw [load, roots]
  refine bind_eq_ok_iff.mpr ⟨_, rfl, bind_eq_ok_iff.mpr ⟨_, add_logins _ _ firstPath, ?_⟩⟩
  exact bind_eq_ok_iff.mpr ⟨_, add_logins _ _ secondPath, rfl⟩

theorem givesRule_logins (roots : List Value) :
    GivesRule (loginsTree ["r", "s"]) { roots := roots } ["r", "a.yml"] := by
  have read : Rule.ofText (FileTree.lenientText (Text.encodeUtf8 (Rule.loginsText "a" ""))) none =
      .ok (Rule.rootLogins.onFile none) := by
    rw [Rule.lenientText_logins, Rule.ofText_logins]
  exact ⟨_, _, _, .inside List.mem_cons_self (.inside (List.mem_singleton_self _) .here),
    ⟨"a.yml", rfl, Rule.isRuleFile_iff.mp (by decide +kernel)⟩, read, rfl, rfl⟩

/-- Of two separate roots one is around the file, which gives one rule. -/
theorem separate_roots_load_file_once :
    (loginsTree ["r", "s"]).IsRegular ∧
      load (loginsTree ["r", "s"]) { roots := [.text "r", .text "s"] } [] =
        .ok (loginsSet ["r/a.yml", "s/a.yml"]) ∧
      GivesRule (loginsTree ["r", "s"]) { roots := [.text "r", .text "s"] } ["r", "a.yml"] ∧
      (loginsSet ["r/a.yml", "s/a.yml"]).rules.countP
        (fun bound => bound.rule.isFrom ["r", "a.yml"]) = 1 := by
  have loads := @load_logins (loginsTree ["r", "s"]) "r" "s" "r/a.yml" "s/a.yml" (by decide)
    (by decide +kernel) (by decide +kernel)
  have gives := givesRule_logins [.text "r", .text "s"]
  have counted := (file_counts_once_for_each_root_around_it isRegular_loginsTree loads
    (fun rule member => absurd member List.not_mem_nil)).1 gives
  exact ⟨isRegular_loginsTree, loads, gives, counted.trans (by decide +kernel)⟩

/-- A root that is spelled with a slash at its end is taken for another one, so that the rule of
the file below it is loaded twice and one event raises two alerts. -/
theorem slash_loads_file_twice :
    ∃ settings, DetectionSettings.ofValue (.map [(.text "rules_path", .text "r/"),
        (.text "rules_paths", .list [.text "r"])]) = .ok settings ∧
      load (loginsTree ["r"]) settings [] = .ok (loginsSet ["r/a.yml", "r/a.yml"]) ∧
      (loginsSet ["r/a.yml", "r/a.yml"]).rules.countP
        (fun bound => bound.rule.isFrom ["r", "a.yml"]) = 2 ∧
      ((loginsSet ["r/a.yml", "r/a.yml"]).alertsOf { SecurityEvent.changeByAdmin with
        metadata := [("user", .text "root")] }).countP
          (fun alert => alert.found.rule.isFrom ["r", "a.yml"]) = 2 :=
  ⟨{ roots := [.text "r", .text "r/"] }, rfl,
    load_logins (by decide) (by decide +kernel) (by decide +kernel), by decide +kernel,
    by decide +kernel⟩

end RuleSet

end ThreatWatch
