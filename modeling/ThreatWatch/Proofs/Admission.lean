import ThreatWatch.Proofs.Loading
import ThreatWatch.Proofs.Shortness

/-! Which rules take part. A filter lets pass what it lists, and without an entry it lets
everything pass. Of the candidates for a rule set, those that pass all filters and can be
bound are its rules, in order, those that cannot be bound are reported, and the others are
counted. No rule set comes of a candidate that gets to a filter with something that is too
long to be written. -/

namespace ThreatWatch

/-! ## Filters -/

namespace Value

/-- A setting can be taken for a filter: there is none, or one has its items and can write
each of them. -/
def IsFilter (setting : Value) : Prop :=
  setting.isPresent → ∃ items, setting.iterated = .ok items ∧ ∀ item ∈ items, item.IsShort

/-- A setting lists a name: the text of one of its items in lower case and without the
blanks around it, unless nothing else is in it. -/
def Lists (setting : Value) (name : String) : Prop :=
  setting.isPresent ∧ ∃ items, setting.iterated = .ok items ∧ ∃ item ∈ items, ∃ text,
    item.shown = .ok text ∧ Text.trim text ≠ "" ∧ name = Text.lower (Text.trim text)

def ListsBlanks (setting : Value) : Prop :=
  ∀ items, setting.iterated = .ok items → ∀ item ∈ items, ∀ text, item.shown = .ok text →
    Text.trim text = ""

theorem ListsBlanks.not_lists {setting : Value} (blank : setting.ListsBlanks) (name : String) :
    ¬setting.Lists name := by
  rintro ⟨_, items, iterated, item, member, text, shown, nonempty, _⟩
  exact nonempty (blank items iterated item member text shown)

/-- A setting lets a value pass if it lists the name of the value, or no name at all. -/
def LetsPass (setting value : Value) : Prop :=
  (∀ name, ¬setting.Lists name) ∨
    ∃ name, NameFilter.nameOf value = .ok name ∧ setting.Lists name

/-- A setting does not get past a value: it lists a name, and that of the value cannot be
written. -/
def IsStuckOn (setting value : Value) : Prop :=
  (∃ name, setting.Lists name) ∧ value.HoldsLong

theorem isShort_of_shown {value : Value} {text : String} (written : value.shown = .ok text) :
    value.IsShort := by
  intro long
  rw [shown_eq_error_iff.mpr ⟨long, rfl⟩] at written
  cases written

end Value

namespace NameFilter

def names (filter : NameFilter) : List String :=
  filter.getD []

theorem mem_addName {name added : String} {names : List String} :
    name ∈ addName added names ↔ name = added ∨ name ∈ names := by
  induction names with
  | nil => simp [addName]
  | cons first rest induction =>
      unfold addName
      split
      · next same => simp [same]
      · split
        · simp
        · rw [List.mem_cons, induction, List.mem_cons, or_left_comm]

theorem mem_foldl_addName {name : String} {added names : List String} :
    name ∈ added.foldl (fun names name => addName name names) names ↔
      name ∈ added ∨ name ∈ names := by
  induction added generalizing names with
  | nil => simp
  | cons first rest induction =>
      rw [List.foldl_cons, induction, mem_addName, List.mem_cons, or_assoc, or_left_comm]

theorem restricts_iff {filter : NameFilter} :
    filter.restricts = true ↔ ∃ name, name ∈ filter.names := by
  cases filter with
  | none => simp [restricts, names]
  | some listed =>
      rw [restricts, Option.any_some, Bool.not_eq_true', List.isEmpty_eq_false_iff_exists_mem]
      rfl

section

variable {setting value : Value} {filter : NameFilter}

theorem ofValue_of_absent (absent : ¬setting.isPresent) : ofValue setting = .ok none := by
  rw [ofValue, if_pos (by simpa using absent)]
  rfl

theorem ofValue_of_present (present : setting.isPresent) :
    ofValue setting = (do
      let texts ← (← setting.iterated).mapM fun item => do return Text.trim (← item.shown)
      return some (((texts.filter fun text => text ≠ "").map Text.lower).foldl
        (fun names name => addName name names) [])) := by
  rw [ofValue, if_neg (by simpa using present)]

theorem exists_ofValue_iff : (∃ filter, ofValue setting = .ok filter) ↔ setting.IsFilter := by
  by_cases present : setting.isPresent
  · rw [ofValue_of_present present]
    constructor
    · rintro ⟨filter, read⟩ _
      rcases bind_eq_ok_iff.mp read with ⟨items, iterated, later⟩
      rcases bind_eq_ok_iff.mp later with ⟨texts, written, _⟩
      refine ⟨items, iterated, fun item member => ?_⟩
      rcases exists_of_mapM_eq_ok written member with ⟨_, trimmed⟩
      rcases bind_eq_ok_iff.mp trimmed with ⟨text, shown, _⟩
      exact Value.isShort_of_shown shown
    · intro listing
      rcases listing present with ⟨items, iterated, short⟩
      have trimmed : ∀ item ∈ items,
          ∃ trimmed, (do return Text.trim (← item.shown) : Except Fault String) = .ok trimmed := by
        intro item member
        rcases (short item member).exists_shown with ⟨text, shown⟩
        exact ⟨Text.trim text, by rw [shown]; rfl⟩
      rcases exists_mapM_eq_ok trimmed with ⟨texts, written⟩
      exact ⟨_, bind_eq_ok_iff.mpr ⟨items, iterated, bind_eq_ok_iff.mpr ⟨texts, written, rfl⟩⟩⟩
  · exact ⟨fun _ given => absurd given present, fun _ => ⟨none, ofValue_of_absent present⟩⟩

theorem mem_names_iff (read : ofValue setting = .ok filter) {name : String} :
    name ∈ filter.names ↔ setting.Lists name := by
  by_cases present : setting.isPresent
  · rw [ofValue_of_present present] at read
    rcases bind_eq_ok_iff.mp read with ⟨items, iterated, later⟩
    rcases bind_eq_ok_iff.mp later with ⟨texts, written, equal⟩
    cases equal
    have ofName : name ∈ names (some (((texts.filter fun text => text ≠ "").map
        Text.lower).foldl (fun names name => addName name names) [])) ↔
          ∃ trimmed ∈ texts, trimmed ≠ "" ∧ Text.lower trimmed = name := by
      rw [names, Option.getD_some, mem_foldl_addName]
      simp [and_assoc]
    rw [ofName]
    constructor
    · rintro ⟨trimmed, member, nonempty, rfl⟩
      rcases exists_of_mem_of_mapM_eq_ok written member with ⟨item, itemMember, there⟩
      rcases bind_eq_ok_iff.mp there with ⟨text, shown, equal⟩
      cases equal
      exact ⟨present, items, iterated, item, itemMember, text, shown, nonempty, rfl⟩
    · rintro ⟨_, others, again, item, itemMember, text, shown, nonempty, rfl⟩
      rw [iterated] at again
      cases again
      rcases exists_of_forall₂_left (mapM_eq_ok_iff.mp written) itemMember with
        ⟨trimmed, member, there⟩
      rw [shown] at there
      cases there
      exact ⟨_, member, nonempty, rfl⟩
  · rw [ofValue_of_absent present] at read
    cases read
    exact ⟨fun member => absurd member List.not_mem_nil, fun lists => absurd lists.1 present⟩

theorem nameOf_eq_error_iff {fault : Fault} :
    nameOf value = .error fault ↔ value.HoldsLong ∧ fault = .tooManyDigits := by
  rw [← Value.shownOrEmpty_eq_error_iff, nameOf]
  exact ⟨eq_error_of_bind_pure, fun failed => by rw [failed]; rfl⟩

theorem passes_eq_ok_true_iff (read : ofValue setting = .ok filter) :
    filter.passes value = .ok true ↔ setting.LetsPass value := by
  unfold passes Value.LetsPass
  simp only [← mem_names_iff read]
  split
  · next restricting =>
      have listing : ¬∀ name, name ∉ filter.names := by
        simpa using restricts_iff.mp restricting
      rw [bind_eq_ok_iff, or_iff_right listing]
      simp only [pure_eq_ok_iff, List.contains_iff_mem]
      rfl
  · next unrestricting =>
      have unlisted : ∀ name, name ∉ filter.names := by
        simpa using mt restricts_iff.mpr unrestricting
      exact ⟨fun _ => .inl unlisted, fun _ => rfl⟩

theorem passes_eq_error_iff (read : ofValue setting = .ok filter) {fault : Fault} :
    filter.passes value = .error fault ↔ setting.IsStuckOn value ∧ fault = .tooManyDigits := by
  unfold passes Value.IsStuckOn
  simp only [← mem_names_iff read, ← restricts_iff, and_assoc]
  split
  · next restricting =>
      rw [← nameOf_eq_error_iff]
      exact ⟨fun failed => ⟨restricting, eq_error_of_bind_pure failed⟩,
        fun failed => by rw [failed.2]; rfl⟩
  · next unrestricting =>
      exact ⟨fun failed => (by cases failed), fun failed => absurd failed.1 unrestricting⟩

end

end NameFilter

/-! ## Settings -/

namespace DetectionSettings

section

variable {first next : Except Fault Bool} {fault : Fault}

theorem both_eq_ok_true_iff :
    (do if !(← first) then return false else next) = .ok true ↔
      first = .ok true ∧ next = .ok true := by
  cases first with
  | error fault => simp [bind, Except.bind]
  | ok passed => cases passed <;> simp [bind, Except.bind, pure, Except.pure]

theorem both_eq_error_iff :
    (do if !(← first) then return false else next) = .error fault ↔
      first = .error fault ∨ first = .ok true ∧ next = .error fault := by
  cases first with
  | error fault => simp [bind, Except.bind]
  | ok passed => cases passed <;> simp [bind, Except.bind, pure, Except.pure]

end

/-- The entries of a mapping keep a rule: it is not deprecated, unless such rules are
included, and each of the filters lets it pass. -/
structure Keeps (entries : List (Value × Value)) (rule : Rule) : Prop where
  current : rule.status = .deprecated → (Value.entry entries "include_deprecated").isPresent
  level : (Value.entry entries "severity_filter").LetsPass (.text rule.level)
  product : (Value.entry entries "enabled_products").LetsPass rule.logSource.product
  category : (Value.entry entries "enabled_categories").LetsPass rule.logSource.category

/-- A rule gets to the filter on products or to the one on categories, and that filter
cannot tell whether the rule passes. -/
inductive IsStuckOn (entries : List (Value × Value)) (rule : Rule) : Prop where
  | product
      (current : rule.status = .deprecated → (Value.entry entries "include_deprecated").isPresent)
      (level : (Value.entry entries "severity_filter").LetsPass (.text rule.level))
      (stuck : (Value.entry entries "enabled_products").IsStuckOn rule.logSource.product)
  | category
      (current : rule.status = .deprecated → (Value.entry entries "include_deprecated").isPresent)
      (level : (Value.entry entries "severity_filter").LetsPass (.text rule.level))
      (product : (Value.entry entries "enabled_products").LetsPass rule.logSource.product)
      (stuck : (Value.entry entries "enabled_categories").IsStuckOn rule.logSource.category)

/-! The same settings with one of their filters alone. -/

def bySeverity (settings : DetectionSettings) : DetectionSettings :=
  { settings with products := none, categories := none }

def byProduct (settings : DetectionSettings) : DetectionSettings :=
  { settings with severities := none, categories := none }

def byCategory (settings : DetectionSettings) : DetectionSettings :=
  { settings with severities := none, products := none }

section

variable {settings : DetectionSettings} {rule : Rule} {fault : Fault}

theorem accepts_of_left_out (deprecated : rule.status = .deprecated)
    (excluded : ¬settings.includesDeprecated) : settings.accepts rule = .ok false := by
  rw [accepts, if_pos (by simp [deprecated, excluded])]
  rfl

theorem accepts_of_current
    (current : rule.status = .deprecated → settings.includesDeprecated = true) :
    settings.accepts rule = (do
      if !(← settings.severities.passes (.text rule.level)) then return false
      else if !(← settings.products.passes rule.logSource.product) then return false
      else settings.categories.passes rule.logSource.category) := by
  rw [accepts, if_neg (by simpa using current)]

theorem accepts_eq_ok_true_iff :
    settings.accepts rule = .ok true ↔
      (rule.status = .deprecated → settings.includesDeprecated = true) ∧
        settings.severities.passes (.text rule.level) = .ok true ∧
        settings.products.passes rule.logSource.product = .ok true ∧
        settings.categories.passes rule.logSource.category = .ok true := by
  by_cases current : rule.status = .deprecated → settings.includesDeprecated = true
  · rw [accepts_of_current current, both_eq_ok_true_iff, both_eq_ok_true_iff,
      and_iff_right current]
  · rcases Classical.not_imp.mp current with ⟨deprecated, excluded⟩
    rw [accepts_of_left_out deprecated excluded]
    exact ⟨fun told => (by cases told), fun told => absurd told.1 current⟩

theorem accepts_eq_error_iff :
    settings.accepts rule = .error fault ↔
      (rule.status = .deprecated → settings.includesDeprecated = true) ∧
        (settings.severities.passes (.text rule.level) = .error fault ∨
          settings.severities.passes (.text rule.level) = .ok true ∧
            (settings.products.passes rule.logSource.product = .error fault ∨
              settings.products.passes rule.logSource.product = .ok true ∧
                settings.categories.passes rule.logSource.category = .error fault)) := by
  by_cases current : rule.status = .deprecated → settings.includesDeprecated = true
  · rw [accepts_of_current current, both_eq_error_iff, both_eq_error_iff, and_iff_right current]
  · rcases Classical.not_imp.mp current with ⟨deprecated, excluded⟩
    rw [accepts_of_left_out deprecated excluded]
    exact ⟨fun failed => (by cases failed), fun failed => absurd failed.1 current⟩

theorem accepts_iff_each_alone :
    settings.accepts rule = .ok true ↔
      settings.bySeverity.accepts rule = .ok true ∧ settings.byProduct.accepts rule = .ok true ∧
        settings.byCategory.accepts rule = .ok true := by
  have all (value : Value) : NameFilter.passes none value = .ok true := rfl
  simp only [accepts_eq_ok_true_iff, bySeverity, byProduct, byCategory, all]
  tauto

end

section

variable {entries : List (Value × Value)} {settings : DetectionSettings}

theorem filters_of_ofValue (read : ofValue (.map entries) = .ok settings) :
    NameFilter.ofValue (Value.entry entries "severity_filter") = .ok settings.severities ∧
      NameFilter.ofValue (Value.entry entries "enabled_products") = .ok settings.products ∧
      NameFilter.ofValue (Value.entry entries "enabled_categories") = .ok settings.categories ∧
      settings.includesDeprecated = (Value.entry entries "include_deprecated").isPresent := by
  rcases bind_eq_ok_iff.mp read with ⟨_, _, afterRoots⟩
  rcases bind_eq_ok_iff.mp afterRoots with ⟨severities, ofSeverities, afterSeverities⟩
  rcases bind_eq_ok_iff.mp afterSeverities with ⟨products, ofProducts, afterProducts⟩
  rcases bind_eq_ok_iff.mp afterProducts with ⟨categories, ofCategories, equal⟩
  cases equal
  exact ⟨ofSeverities, ofProducts, ofCategories, rfl⟩

theorem exists_rootsOf_iff {several single : Value} :
    (∃ roots, rootsOf several single = .ok roots) ↔
      (several.isPresent → ∃ items, several.iterated = .ok items) := by
  unfold rootsOf
  split
  · next present =>
      rw [forall_prop_of_true present]
      constructor
      · rintro ⟨roots, read⟩
        rcases bind_eq_ok_iff.mp read with ⟨items, iterated, _⟩
        exact ⟨items, iterated⟩
      · rintro ⟨items, iterated⟩
        simp only [iterated, bind, Except.bind]
        exact ⟨_, (apply_ite _ _ _ _).symm⟩
  · next absent =>
      exact ⟨fun _ present => absurd present absent, fun _ => ⟨_, (apply_ite _ _ _ _).symm⟩⟩

theorem exists_ofValue_iff :
    (∃ settings, ofValue (.map entries) = .ok settings) ↔
      ((Value.entry entries "rules_paths").isPresent →
        ∃ items, (Value.entry entries "rules_paths").iterated = .ok items) ∧
        (Value.entry entries "severity_filter").IsFilter ∧
        (Value.entry entries "enabled_products").IsFilter ∧
        (Value.entry entries "enabled_categories").IsFilter := by
  simp only [← NameFilter.exists_ofValue_iff,
    ← @exists_rootsOf_iff _ (Value.entry entries "rules_path")]
  constructor
  · rintro ⟨settings, read⟩
    rcases bind_eq_ok_iff.mp read with ⟨roots, ofRoots, _⟩
    rcases filters_of_ofValue read with ⟨severities, products, categories, _⟩
    exact ⟨⟨roots, ofRoots⟩, ⟨_, severities⟩, ⟨_, products⟩, ⟨_, categories⟩⟩
  · rintro ⟨⟨roots, ofRoots⟩, ⟨severities, ofSeverities⟩, ⟨products, ofProducts⟩,
      ⟨categories, ofCategories⟩⟩
    exact ⟨_, bind_eq_ok_iff.mpr ⟨roots, ofRoots, bind_eq_ok_iff.mpr ⟨severities, ofSeverities,
      bind_eq_ok_iff.mpr ⟨products, ofProducts,
        bind_eq_ok_iff.mpr ⟨categories, ofCategories, rfl⟩⟩⟩⟩⟩

theorem accepts_iff_keeps (read : ofValue (.map entries) = .ok settings) {rule : Rule} :
    settings.accepts rule = .ok true ↔ Keeps entries rule := by
  rcases filters_of_ofValue read with ⟨severities, products, categories, deprecated⟩
  rw [accepts_eq_ok_true_iff, NameFilter.passes_eq_ok_true_iff severities,
    NameFilter.passes_eq_ok_true_iff products, NameFilter.passes_eq_ok_true_iff categories,
    deprecated]
  exact ⟨fun ⟨current, level, product, category⟩ => ⟨current, level, product, category⟩,
    fun ⟨current, level, product, category⟩ => ⟨current, level, product, category⟩⟩

theorem accepts_iff_isStuckOn (read : ofValue (.map entries) = .ok settings) {rule : Rule}
    {fault : Fault} :
    settings.accepts rule = .error fault ↔ IsStuckOn entries rule ∧ fault = .tooManyDigits := by
  rcases filters_of_ofValue read with ⟨severities, products, categories, deprecated⟩
  -- a level is a text, so that the filter on severities always tells
  have level : ¬(Value.entry entries "severity_filter").IsStuckOn (.text rule.level) :=
    fun stuck => Value.isShort_text _ stuck.2
  rw [accepts_eq_error_iff, NameFilter.passes_eq_ok_true_iff severities,
    NameFilter.passes_eq_error_iff severities, NameFilter.passes_eq_ok_true_iff products,
    NameFilter.passes_eq_error_iff products, NameFilter.passes_eq_error_iff categories,
    deprecated, or_iff_right fun stuck => level stuck.1]
  constructor
  · rintro ⟨current, passed, ⟨stuck, rfl⟩ | ⟨product, stuck, rfl⟩⟩
    · exact ⟨.product current passed stuck, rfl⟩
    · exact ⟨.category current passed product stuck, rfl⟩
  · rintro ⟨⟨current, passed, stuck⟩ | ⟨current, passed, product, stuck⟩, rfl⟩
    · exact ⟨current, passed, .inl ⟨stuck, rfl⟩⟩
    · exact ⟨current, passed, .inr ⟨product, stuck, rfl⟩⟩

end

end DetectionSettings

/-! ## Rule sets -/

namespace Rule

def Binds (rule : Rule) : Prop :=
  ∃ bound, BoundRule.ofRule rule = .ok bound

theorem not_binds {rule : Rule} {fault : Fault} (failed : BoundRule.ofRule rule = .error fault) :
    ¬rule.Binds := by
  rintro ⟨bound, binds⟩
  rw [failed] at binds
  cases binds

def BindsOrIsAtFault (rule : Rule) : Prop :=
  rule.Binds ∨ ∃ fault, BoundRule.ofRule rule = .error (.rule fault)

end Rule

namespace RuleSet

/-- A text reports a rule: the place of the rule, and why it cannot be bound. -/
def Reports (rule : Rule) (text : String) : Prop :=
  ∃ fault, BoundRule.ofRule rule = .error (.rule fault) ∧
    text = placeOf rule ++ ": " ++ fault.message

open Classical in
/-- A rule set accounts for candidates: it holds, in their order, those that the settings
keep and that can be bound; each other one is reported if the settings keep it, and counted
if they do not. -/
structure AccountsFor (entries : List (Value × Value)) (candidates : List Rule)
    (reports : List String) (set : RuleSet) : Prop where
  rules : set.rules.map BoundRule.rule =
    candidates.filter fun rule => DetectionSettings.Keeps entries rule ∧ rule.Binds
  bound : ∀ bound ∈ set.rules, BoundRule.ofRule bound.rule = .ok bound
  reported : List.Forall₂ Reports
    (candidates.filter fun rule => DetectionSettings.Keeps entries rule ∧ ¬rule.Binds) reports
  skipped : set.skipped =
    (candidates.filter fun rule => ¬DetectionSettings.Keeps entries rule).length
  scanned : set.scanned = candidates.length
  total : set.scanned = set.rules.length + set.skipped + reports.length

/-! ### What becomes of the admitted rules -/

section

variable {rules : List Rule}

open Classical in
theorem map_rule_filterMap_toOption :
    (rules.filterMap fun rule => (BoundRule.ofRule rule).toOption).map BoundRule.rule =
      rules.filter fun rule => rule.Binds := by
  induction rules with
  | nil => rfl
  | cons rule rest induction =>
      cases told : BoundRule.ofRule rule with
      | error fault =>
          have unbound : ¬rule.Binds := Rule.not_binds told
          rw [List.filterMap_cons_none (by rw [told]; rfl), induction,
            List.filter_cons_of_neg (by simpa using unbound)]
      | ok bound =>
          have binds : rule.Binds := ⟨bound, told⟩
          rw [List.filterMap_cons_some (by rw [told]; rfl), List.map_cons, induction,
            List.filter_cons_of_pos (by simpa using binds), (BoundRule.ofRule_eq_ok told).1]

open Classical in
theorem forall₂_reports (binds : ∀ rule ∈ rules, rule.BindsOrIsAtFault) :
    List.Forall₂ Reports (rules.filter fun rule => ¬rule.Binds) (rules.filterMap report?) := by
  induction rules with
  | nil => exact .nil
  | cons rule rest induction =>
      rcases List.forall_mem_cons.mp binds with ⟨here, others⟩
      rcases here with ⟨bound, told⟩ | ⟨fault, failed⟩
      · have binds : rule.Binds := ⟨bound, told⟩
        rw [List.filter_cons_of_neg (by simpa using binds),
          List.filterMap_cons_none (by rw [report?, told])]
        exact induction others
      · have unbound : ¬rule.Binds := Rule.not_binds failed
        rw [List.filter_cons_of_pos (by simpa using unbound),
          List.filterMap_cons_some (by rw [report?, failed])]
        exact .cons ⟨fault, failed, rfl⟩ (induction others)

theorem length_bound_add_length_reports (binds : ∀ rule ∈ rules, rule.BindsOrIsAtFault) :
    (rules.filterMap fun rule => (BoundRule.ofRule rule).toOption).length +
      (rules.filterMap report?).length = rules.length := by
  classical
  have split := rules.length_eq_length_filter_add fun rule => decide rule.Binds
  rw [← map_rule_filterMap_toOption, List.length_map] at split
  rw [← (forall₂_reports binds).length_eq, split]
  simp

theorem ofRule_of_mem_filterMap {bound : BoundRule}
    (member : bound ∈ rules.filterMap fun rule => (BoundRule.ofRule rule).toOption) :
    BoundRule.ofRule bound.rule = .ok bound ∧ bound.rule ∈ rules := by
  rcases List.mem_filterMap.mp member with ⟨rule, ruleMember, told⟩
  have binds := toOption_eq_some_iff.mp told
  rw [(BoundRule.ofRule_eq_ok binds).1]
  exact ⟨binds, ruleMember⟩

end

/-! ### Loading -/

section

variable {settings : DetectionSettings} {tree : FileTree} {more : List Rule}
  {loaded : Rule.Collection}

theorem foldlM_add_cases {candidates : List Rule}
    (binds : ∀ rule ∈ candidates, rule.BindsOrIsAtFault) (set : RuleSet) :
    (∃ rule ∈ candidates, ∃ fault, settings.accepts rule = .error fault ∧
        candidates.foldlM (add settings) set = .error fault) ∨
      (∀ rule ∈ candidates, ∃ answer, settings.accepts rule = .ok answer) ∧
        candidates.foldlM (add settings) set = .ok (set.extended settings candidates) := by
  by_cases told : ∀ rule ∈ candidates, ∃ answer, settings.accepts rule = .ok answer
  · refine .inr ⟨told, foldlM_add (fun rule member => ?_) set⟩
    rcases told rule member with ⟨answer, told⟩
    exact ⟨answer, told, fun _ => binds rule member⟩
  · refine .inl ?_
    -- the set grows up to the first candidate of which the settings cannot tell
    induction candidates generalizing set with
    | nil => exact absurd (fun _ member => nomatch member) told
    | cons rule rest induction =>
        rcases List.forall_mem_cons.mp binds with ⟨here, others⟩
        rw [List.foldlM_cons]
        cases first : settings.accepts rule with
        | error fault =>
            refine ⟨rule, List.mem_cons_self, fault, first, ?_⟩
            rw [add, first]
            rfl
        | ok answer =>
            have later : ¬∀ rule ∈ rest, ∃ answer, settings.accepts rule = .ok answer :=
              fun all => told (List.forall_mem_cons.mpr ⟨⟨answer, first⟩, all⟩)
            rw [add_eq_ok ⟨answer, first, fun _ => here⟩]
            rcases induction others (set.extended settings [rule]) later with
              ⟨stuck, member, fault, failed, ends⟩
            exact ⟨stuck, List.mem_cons_of_mem _ member, fault, failed, ends⟩

theorem load_cases (roots : loadRoots tree settings.roots = .ok loaded)
    (binds : ∀ rule ∈ loaded.rules ++ more, rule.BindsOrIsAtFault) :
    (∃ rule ∈ loaded.rules ++ more, ∃ fault, settings.accepts rule = .error fault ∧
        load tree settings more = .error fault) ∨
      (∀ rule ∈ loaded.rules ++ more, ∃ answer, settings.accepts rule = .ok answer) ∧
        load tree settings more =
          .ok (extended settings { errors := loaded.errors } (loaded.rules ++ more)) := by
  rw [load, roots]
  exact foldlM_add_cases binds { errors := loaded.errors }

theorem mem_rules_iff (roots : loadRoots tree settings.roots = .ok loaded)
    (binds : ∀ rule ∈ loaded.rules ++ more, rule.BindsOrIsAtFault) {set : RuleSet}
    (loads : load tree settings more = .ok set) {bound : BoundRule} :
    bound ∈ set.rules ↔ BoundRule.ofRule bound.rule = .ok bound ∧
      bound.rule ∈ loaded.rules ++ more ∧ settings.accepts bound.rule = .ok true := by
  rcases load_cases roots binds with ⟨_, _, _, _, fails⟩ | ⟨_, ends⟩
  · rw [fails] at loads
    cases loads
  · rw [ends] at loads
    cases loads
    rw [extended, List.nil_append]
    constructor
    · intro member
      rcases ofRule_of_mem_filterMap member with ⟨made, admitted⟩
      exact ⟨made, DetectionSettings.mem_admitted_iff.mp admitted⟩
    · rintro ⟨made, admitted⟩
      exact List.mem_filterMap.mpr ⟨bound.rule, DetectionSettings.mem_admitted_iff.mpr admitted,
        by rw [made]; rfl⟩

variable {entries : List (Value × Value)}

open Classical in
theorem admitted_eq_filter_keeps (read : DetectionSettings.ofValue (.map entries) = .ok settings)
    (rules : List Rule) :
    settings.admitted rules = rules.filter fun rule => DetectionSettings.Keeps entries rule := by
  refine List.filter_congr fun rule _ => decide_eq_decide.mpr ?_
  rw [toOption_eq_some_iff, DetectionSettings.accepts_iff_keeps read]

theorem accountsFor_extended (read : DetectionSettings.ofValue (.map entries) = .ok settings)
    {candidates : List Rule} (binds : ∀ rule ∈ candidates, rule.BindsOrIsAtFault)
    (errors : List String) :
    AccountsFor entries candidates ((settings.admitted candidates).filterMap report?)
      (extended settings { errors := errors } candidates) := by
  classical
  have admittedBinds : ∀ rule ∈ settings.admitted candidates, rule.BindsOrIsAtFault :=
    fun rule member => binds rule (List.mem_of_mem_filter member)
  have both (property : Rule → Prop) [DecidablePred property] :
      ((settings.admitted candidates).filter fun rule => property rule) =
        candidates.filter fun rule => DetectionSettings.Keeps entries rule ∧ property rule := by
    rw [admitted_eq_filter_keeps read, List.filter_filter]
    exact List.filter_congr fun rule _ => by rw [Bool.and_comm, Bool.decide_and]
  have keptOrNot : candidates.length = (settings.admitted candidates).length +
      (candidates.filter fun rule => ¬DetectionSettings.Keeps entries rule).length := by
    rw [admitted_eq_filter_keeps read]
    simpa using candidates.length_eq_length_filter_add
      fun rule => decide (DetectionSettings.Keeps entries rule)
  have boundOrReported := length_bound_add_length_reports admittedBinds
  exact {
    rules := map_rule_filterMap_toOption.trans (both fun rule => rule.Binds)
    bound := fun bound member => (ofRule_of_mem_filterMap member).1
    reported := (both fun rule => ¬rule.Binds) ▸ forall₂_reports admittedBinds
    skipped := by simp only [extended]; omega
    scanned := Nat.zero_add _
    total := by simp only [extended, List.nil_append]; omega }

theorem load_of_isStuckOn (read : DetectionSettings.ofValue (.map entries) = .ok settings)
    (roots : loadRoots tree settings.roots = .ok loaded)
    (binds : ∀ rule ∈ loaded.rules ++ more, rule.BindsOrIsAtFault)
    (stuck : ∃ rule ∈ loaded.rules ++ more, DetectionSettings.IsStuckOn entries rule) :
    load tree settings more = .error .tooManyDigits := by
  rcases load_cases roots binds with ⟨rule, _, fault, failed, ends⟩ | ⟨told, _⟩
  · rw [ends, (DetectionSettings.accepts_iff_isStuckOn read).mp failed |>.2]
  · rcases stuck with ⟨rule, member, stuck⟩
    rcases told rule member with ⟨answer, told⟩
    rw [(DetectionSettings.accepts_iff_isStuckOn read).mpr ⟨stuck, rfl⟩] at told
    cases told

theorem load_of_not_isStuckOn (read : DetectionSettings.ofValue (.map entries) = .ok settings)
    (roots : loadRoots tree settings.roots = .ok loaded)
    (binds : ∀ rule ∈ loaded.rules ++ more, rule.BindsOrIsAtFault)
    (free : ∀ rule ∈ loaded.rules ++ more, ¬DetectionSettings.IsStuckOn entries rule) :
    load tree settings more =
      .ok (extended settings { errors := loaded.errors } (loaded.rules ++ more)) := by
  rcases load_cases roots binds with ⟨rule, member, fault, failed, _⟩ | ⟨_, ends⟩
  · exact absurd ((DetectionSettings.accepts_iff_isStuckOn read).mp failed).1 (free rule member)
  · exact ends

end

/-- Settings that can be read from a mapping keep the rules that pass all of its filters,
which are those that pass each filter alone, and a filter with nothing but blank entries
lets everything pass. A rule set of such settings accounts for all candidates if each of
these is bound or is at fault; there is none if a filter is stuck on one of them. -/
theorem rule_set_accounts_for_every_rule (entries : List (Value × Value)) :
    ((∃ settings, DetectionSettings.ofValue (.map entries) = .ok settings) ↔
      ((Value.entry entries "rules_paths").isPresent →
        ∃ items, (Value.entry entries "rules_paths").iterated = .ok items) ∧
        (Value.entry entries "severity_filter").IsFilter ∧
        (Value.entry entries "enabled_products").IsFilter ∧
        (Value.entry entries "enabled_categories").IsFilter) ∧
    (∀ setting filter, NameFilter.ofValue setting = .ok filter → setting.ListsBlanks →
      ∀ value, filter.passes value = .ok true) ∧
    ∀ settings, DetectionSettings.ofValue (.map entries) = .ok settings →
      (∀ rule, settings.accepts rule = .ok true ↔ DetectionSettings.Keeps entries rule) ∧
      (∀ rule, settings.accepts rule = .ok true ↔
        settings.bySeverity.accepts rule = .ok true ∧ settings.byProduct.accepts rule = .ok true ∧
          settings.byCategory.accepts rule = .ok true) ∧
      ∀ tree more loaded, loadRoots tree settings.roots = .ok loaded →
        (∀ rule ∈ loaded.rules ++ more, rule.BindsOrIsAtFault) →
        ((∃ rule ∈ loaded.rules ++ more, DetectionSettings.IsStuckOn entries rule) →
          load tree settings more = .error .tooManyDigits) ∧
        ((∀ rule ∈ loaded.rules ++ more, ¬DetectionSettings.IsStuckOn entries rule) →
          ∃ set reports, load tree settings more = .ok set ∧
            set.errors = loaded.errors ++ reports ∧
            AccountsFor entries (loaded.rules ++ more) reports set) ∧
        ∀ set severitySet productSet categorySet, load tree settings more = .ok set →
          load tree settings.bySeverity more = .ok severitySet →
          load tree settings.byProduct more = .ok productSet →
          load tree settings.byCategory more = .ok categorySet →
          ∀ bound, bound ∈ set.rules ↔
            bound ∈ severitySet.rules ∧ bound ∈ productSet.rules ∧ bound ∈ categorySet.rules := by
  refine ⟨DetectionSettings.exists_ofValue_iff, ?_, fun settings read => ⟨fun rule =>
    DetectionSettings.accepts_iff_keeps read, fun rule =>
    DetectionSettings.accepts_iff_each_alone, fun tree more loaded roots binds => ⟨?_, ?_, ?_⟩⟩⟩
  · intro setting filter read blank value
    exact (NameFilter.passes_eq_ok_true_iff read).mpr (.inl blank.not_lists)
  · exact load_of_isStuckOn read roots binds
  · intro free
    exact ⟨_, _, load_of_not_isStuckOn read roots binds free, rfl,
      accountsFor_extended read binds loaded.errors⟩
  · intro set severitySet productSet categorySet all severity product category bound
    rw [mem_rules_iff roots binds all,
      @mem_rules_iff settings.bySeverity _ _ _ roots binds _ severity,
      @mem_rules_iff settings.byProduct _ _ _ roots binds _ product,
      @mem_rules_iff settings.byCategory _ _ _ roots binds _ category,
      DetectionSettings.accepts_iff_each_alone]
    tauto

end RuleSet

/-! ## Rules on products -/

def Rule.onProduct (rule : Rule) (product : Value) : Rule :=
  { rule with logSource := { product := product } }

def Rule.productDocument (id : String) (product : Value) : Value :=
  .map [(.text "title", .text "Logins"), (.text "id", .text id), (.text "level", .text "low"),
    (.text "logsource", .map [(.text "product", product)]),
    (.text "detection", .map [(.text "sel", .map [(.text "user", .text "admin")]),
      (.text "condition", .text "sel")])]

def Value.leastLong : Value :=
  .int (Nat.pow 10 Numeral.digitLimit : Nat)

theorem Value.holdsLong_of_le {number : Nat} (long : Nat.pow 10 Numeral.digitLimit ≤ number) :
    (Value.int number).HoldsLong :=
  .int (if_neg (Nat.not_lt.mpr long))

def DetectionSettings.windowsEntries : List (Value × Value) := [
  (.text "severity_filter", .list [.text " "]),
  (.text "enabled_products", .list [.text "", .text " Windows "])]

/-- A rule that takes part, one on something else, one that cannot be bound, and one that
is deprecated. -/
def Rule.fourLogins : List Rule := [
  (logins "r1" "sel").onProduct (.text "WINDOWS"),
  (logins "r2" "sel").onProduct (.text "linux"),
  (logins "r3" "sel and").onProduct (.text "windows"),
  { (logins "r4" "sel").onProduct (.text "windows") with status := .deprecated }]

namespace DetectionSettings

theorem not_isStuckOn_of_isShort {entries : List (Value × Value)} {rule : Rule}
    (product : rule.logSource.product.IsShort) (category : rule.logSource.category.IsShort) :
    ¬IsStuckOn entries rule := by
  rintro (⟨_, _, stuck⟩ | ⟨_, _, _, stuck⟩)
  · exact product stuck.2
  · exact category stuck.2

end DetectionSettings

namespace RuleSet

/-- Of four rules one takes part and is bound, one takes part and is reported, and two are
left out. -/
theorem rules_on_windows_are_accounted_for :
    ∃ settings, DetectionSettings.ofValue (.map DetectionSettings.windowsEntries) = .ok settings ∧
      loadRoots (.directory []) settings.roots = .ok {} ∧
      (∀ rule ∈ Rule.fourLogins, rule.BindsOrIsAtFault) ∧
      (∀ rule ∈ Rule.fourLogins,
        ¬DetectionSettings.IsStuckOn DetectionSettings.windowsEntries rule) ∧
      ∃ set reports, load (.directory []) settings Rule.fourLogins = .ok set ∧
        AccountsFor DetectionSettings.windowsEntries Rule.fourLogins reports set ∧
        (set.rules.map fun bound => bound.rule.id) = ["r1"] ∧
        set.errors = ["r3: rule r3: Unexpected end of condition"] ∧ set.scanned = 4 ∧
        set.skipped = 2 := by
  have read : DetectionSettings.ofValue (.map DetectionSettings.windowsEntries) =
      .ok { severities := some [], products := some ["windows"] } := rfl
  have binds : ∀ rule ∈ Rule.fourLogins, rule.BindsOrIsAtFault := by
    simp only [Rule.fourLogins, List.forall_mem_cons]
    exact ⟨.inl ⟨_, rfl⟩, .inl ⟨_, rfl⟩, .inr ⟨_, rfl⟩, .inl ⟨_, rfl⟩, by simp⟩
  have free : ∀ rule ∈ Rule.fourLogins,
      ¬DetectionSettings.IsStuckOn DetectionSettings.windowsEntries rule := by
    have short : ∀ rule ∈ Rule.fourLogins,
        rule.logSource.product.IsShort ∧ rule.logSource.category.IsShort := by
      simp [Rule.fourLogins, Rule.onProduct, Value.isShort_text, Value.isShort_null]
    exact fun rule member =>
      DetectionSettings.not_isStuckOn_of_isShort (short rule member).1 (short rule member).2
  rcases (rule_set_accounts_for_every_rule DetectionSettings.windowsEntries).2.2 _ read with
    ⟨_, _, loading⟩
  rcases (loading (.directory []) Rule.fourLogins {} rfl binds).2.1 free with
    ⟨set, reports, loads, errors, accounts⟩
  refine ⟨_, read, rfl, binds, free, set, reports, loads, accounts, ?_⟩
  have ends : load (.directory []) { severities := some [], products := some ["windows"] }
      Rule.fourLogins = .ok set := loads
  cases ends
  exact ⟨rfl, rfl, rfl, rfl⟩

/-- A rule on a number that is too long to be written can be read and bound. A filter on
products is stuck on it, and the rule in front of it, which passes, is lost as well. -/
theorem rule_on_long_number_harms_others :
    (∀ product, Rule.ofDocument (Rule.productDocument "r2" product) none =
      .ok ((Rule.logins "r2" "sel").onProduct product)) ∧
    ∃ settings, DetectionSettings.ofValue (.map DetectionSettings.windowsEntries) = .ok settings ∧
      (∀ rule ∈ [(Rule.logins "r1" "sel").onProduct (.text "windows"),
        (Rule.logins "r2" "sel").onProduct .leastLong], rule.Binds) ∧
      DetectionSettings.Keeps DetectionSettings.windowsEntries
        ((Rule.logins "r1" "sel").onProduct (.text "windows")) ∧
      load (.directory []) settings [(Rule.logins "r1" "sel").onProduct (.text "windows"),
        (Rule.logins "r2" "sel").onProduct .leastLong] = .error .tooManyDigits := by
  have read : DetectionSettings.ofValue (.map DetectionSettings.windowsEntries) =
      .ok { severities := some [], products := some ["windows"] } := rfl
  have both : ∀ rule ∈ [(Rule.logins "r1" "sel").onProduct (.text "windows"),
      (Rule.logins "r2" "sel").onProduct .leastLong], rule.Binds := by
    simp only [List.forall_mem_cons]
    exact ⟨⟨_, rfl⟩, ⟨_, rfl⟩, by simp⟩
  have lists : (Value.entry DetectionSettings.windowsEntries "enabled_products").Lists "windows" :=
    (@NameFilter.mem_names_iff _ (some ["windows"]) rfl _).mp (by decide)
  have level : (Value.entry DetectionSettings.windowsEntries "severity_filter").LetsPass
      (.text "low") :=
    (@NameFilter.passes_eq_ok_true_iff _ _ (some []) rfl).mp rfl
  refine ⟨fun _ => rfl, _, read, both, (DetectionSettings.accepts_iff_keeps read).mp rfl, ?_⟩
  refine load_of_isStuckOn read rfl (fun rule member => .inl (both rule member))
    ⟨(Rule.logins "r2" "sel").onProduct .leastLong, by simp, ?_⟩
  exact .product (fun deprecated => nomatch deprecated) level
    ⟨⟨_, lists⟩, Value.holdsLong_of_le (Nat.le_refl _)⟩

end RuleSet

end ThreatWatch
