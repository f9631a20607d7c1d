import Mathlib.Data.List.Infix
import ThreatWatch.Proofs.Texts
import ThreatWatch.Rule.Directory

/-! The rule files of a directory. A file has a place, the names that lead to it. A walk
through the tree meets each rule file at its place once: the files of a directory before those
of any directory in it, and the directories in it one after the other. What is not recursive is
the start of that walk. -/

namespace ThreatWatch

namespace FileTree

/-! ## Places -/

/-- A file of the tree at a place, the names that lead to it. -/
inductive Holds : FileTree → List String → FileContent → Prop where
  | here {content : FileContent} : Holds (.file content) [] content
  | inside {entries : List (String × FileTree)} {name : String} {child : FileTree}
      {place : List String} {content : FileContent} (member : (name, child) ∈ entries)
      (holds : Holds child place content) : Holds (.directory entries) (name :: place) content

def pathTo (path : String) (place : List String) : String :=
  place.foldl joinPath path

def IsPlainName (name : String) : Prop :=
  name ≠ "" ∧ '/' ∉ name.toList

/-- A tree with plain names in which no directory has two entries of one name. -/
inductive IsProper : FileTree → Prop where
  | file (content : FileContent) : IsProper (.file content)
  | directory {entries : List (String × FileTree)} (distinct : (entries.map Prod.fst).Nodup)
      (plain : ∀ entry ∈ entries, IsPlainName entry.1)
      (inside : ∀ entry ∈ entries, IsProper entry.2) : IsProper (.directory entries)

mutual

theorem induct {motive : FileTree → Prop} (file : ∀ content, motive (.file content))
    (directory : ∀ entries, (∀ entry ∈ entries, motive entry.2) → motive (.directory entries)) :
    ∀ tree, motive tree
  | .file content => file content
  | .directory entries => directory entries (induct_entries file directory entries)

theorem induct_entries {motive : FileTree → Prop} (file : ∀ content, motive (.file content))
    (directory : ∀ entries, (∀ entry ∈ entries, motive entry.2) → motive (.directory entries)) :
    ∀ entries : List (String × FileTree), ∀ entry ∈ entries, motive entry.2
  | [] => fun _ member => absurd member List.not_mem_nil
  | (_, child) :: rest => List.forall_mem_cons.mpr
      ⟨induct file directory child, induct_entries file directory rest⟩

end

/-! ## Trees that are built -/

theorem isProper_empty : IsProper empty :=
  .directory .nil (by simp) (by simp)

namespace IsProper

variable {tree : FileTree} {entries : List (String × FileTree)}

theorem entriesOf (proper : tree.IsProper) :
    (tree.entriesOf.map Prod.fst).Nodup ∧ (∀ entry ∈ tree.entriesOf, IsPlainName entry.1) ∧
      ∀ entry ∈ tree.entriesOf, entry.2.IsProper := by
  cases proper with
  | file content => exact ⟨.nil, by simp [FileTree.entriesOf], by simp [FileTree.entriesOf]⟩
  | directory distinct plain inside => exact ⟨distinct, plain, inside⟩

theorem lookup (inside : ∀ entry ∈ entries, entry.2.IsProper) {name : String} {child : FileTree}
    (found : entries.lookup name = some child) : child.IsProper :=
  inside _ (Table.mem_of_get?_eq_some found)

end IsProper

theorem putEntry_eq (name : String) (child : FileTree) (entries : List (String × FileTree)) :
    putEntry name child entries = Table.put name child entries := by
  induction entries with
  | nil => rfl
  | cons entry rest induction => rw [putEntry, Table.put, induction]

theorem IsProper.putEntry {entries : List (String × FileTree)}
    (proper : IsProper (.directory entries)) {name : String} (plainName : IsPlainName name)
    {child : FileTree} (properChild : child.IsProper) :
    IsProper (.directory (putEntry name child entries)) := by
  rcases proper.entriesOf with ⟨distinct, plain, inside⟩
  rw [putEntry_eq]
  refine .directory (Table.nodup_keys_put distinct name child) (fun entry member => ?_)
    fun entry member => ?_
  · rcases Table.eq_or_mem_of_mem_put member with rfl | old
    · exact plainName
    · exact plain entry old
  · rcases Table.eq_or_mem_of_mem_put member with rfl | old
    · exact properChild
    · exact inside entry old

theorem IsProper.put {content : FileTree} (properContent : content.IsProper) {tree : FileTree}
    (proper : tree.IsProper) {parts : List String} (plain : ∀ part ∈ parts, '/' ∉ part.toList) :
    (put content tree parts).IsProper := by
  induction parts generalizing tree with
  | nil =>
      rw [FileTree.put]
      unfold merge
      split
      · next found =>
          cases found
          exact proper
      · exact properContent
  | cons part rest induction =>
      rcases List.forall_mem_cons.mp plain with ⟨noSlash, plainRest⟩
      rw [FileTree.put]
      split
      · exact induction proper plainRest
      · next named =>
          rcases proper.entriesOf with ⟨distinct, plainNames, inside⟩
          have child : ((tree.entriesOf.lookup part).getD empty).IsProper := by
            cases found : tree.entriesOf.lookup part with
            | none => exact isProper_empty
            | some child => exact IsProper.lookup inside found
          exact (IsProper.directory distinct plainNames inside).putEntry
            ⟨fun blank => named (.inl blank), noSlash⟩ (induction child plainRest)

theorem IsProper.putAt {tree content : FileTree} (proper : tree.IsProper)
    (properContent : content.IsProper) (path : String) : (tree.putAt path content).IsProper := by
  refine properContent.put proper fun part member => ?_
  rcases List.mem_map.mp member with ⟨piece, isPiece, rfl⟩
  rw [String.toList_ofList]
  exact Text.not_mem_of_mem_pieces isPiece

theorem IsProper.follow {tree found : FileTree} (proper : tree.IsProper) {above : List FileTree}
    (properAbove : ∀ other ∈ above, other.IsProper) {parts : List String}
    (leads : follow above tree parts = some found) : found.IsProper := by
  induction parts generalizing above tree with
  | nil =>
      cases leads
      exact proper
  | cons part rest induction =>
      cases tree with
      | file content => cases leads
      | directory entries =>
          simp only [FileTree.follow] at leads
          split at leads
          · exact induction proper properAbove leads
          · split at leads
            · cases above with
              | nil => cases leads
              | cons parent others =>
                  rcases List.forall_mem_cons.mp properAbove with ⟨here, later⟩
                  exact induction here later leads
            · split at leads
              · next child told =>
                  exact induction (IsProper.lookup proper.entriesOf.2.2 told)
                    (List.forall_mem_cons.mpr ⟨proper, properAbove⟩) leads
              · cases leads

theorem IsProper.find? {tree found : FileTree} (proper : tree.IsProper) {path : String}
    (leads : tree.find? path = some found) : found.IsProper := by
  unfold FileTree.find? at leads
  split at leads
  · cases leads
  · exact proper.follow (by simp) leads

theorem Holds.plain {tree : FileTree} {place : List String} {content : FileContent}
    (holds : tree.Holds place content) (proper : tree.IsProper) :
    ∀ name ∈ place, IsPlainName name := by
  induction holds with
  | here => simp
  | inside member _ induction =>
      rcases proper.entriesOf with ⟨_, plain, inside⟩
      exact List.forall_mem_cons.mpr ⟨plain _ member, induction (inside _ member)⟩

/-! ## Paths of places -/

def pathStart (path : String) : String :=
  if path = "" ∨ path.toList.getLast? = some '/' then path else path ++ "/"

theorem joinPath_of_plain {name : String} (plain : IsPlainName name) (path : String) :
    joinPath path name = pathStart path ++ name := by
  have relative : ¬name.toList.head? = some '/' :=
    fun slash => plain.2 (List.mem_of_mem_head? slash)
  rw [joinPath, if_neg relative, pathStart]
  split <;> rfl

theorem pathStart_append {name : String} (plain : IsPlainName name) (start : String) :
    pathStart (start ++ name) = start ++ name ++ "/" := by
  have filled : name.toList ≠ [] := by simpa using plain.1
  have noSlash : ¬(start ++ name).toList.getLast? = some '/' := by
    rw [String.toList_append, List.getLast?_append_of_ne_nil _ filled]
    exact fun slash => plain.2 (List.mem_of_getLast? slash)
  have filledText : start ++ name ≠ "" := by
    intro blank
    have characters := congrArg String.toList blank
    rw [String.toList_append] at characters
    exact filled (List.append_eq_nil_iff.mp characters).2
  rw [pathStart, if_neg (not_or.mpr ⟨filledText, noSlash⟩)]

theorem pathTo_eq {place : List String} (filled : place ≠ [])
    (plain : ∀ name ∈ place, IsPlainName name) (path : String) :
    pathTo path place = pathStart path ++ Text.join "/" place := by
  induction place generalizing path with
  | nil => exact absurd rfl filled
  | cons name rest induction =>
      rcases List.forall_mem_cons.mp plain with ⟨here, later⟩
      rw [pathTo, List.foldl_cons, joinPath_of_plain here]
      cases rest with
      | nil => simp [Text.join]
      | cons next others =>
          have onward := induction (by simp) later (pathStart path ++ name)
          rw [pathTo] at onward
          rw [onward, pathStart_append here]
          simp [Text.join, String.append_assoc, String.intercalate_cons_cons]

theorem pathTo_inj {path : String} {first second : List String} (filledFirst : first ≠ [])
    (filledSecond : second ≠ []) (plainFirst : ∀ name ∈ first, IsPlainName name)
    (plainSecond : ∀ name ∈ second, IsPlainName name)
    (same : pathTo path first = pathTo path second) : first = second := by
  rw [pathTo_eq filledFirst plainFirst, pathTo_eq filledSecond plainSecond] at same
  have joined : Text.join "/" first = Text.join "/" second := by
    have characters := congrArg String.toList same
    rw [String.toList_append, String.toList_append] at characters
    exact String.toList_inj.mp (List.append_cancel_left characters)
  exact Text.join_inj plainFirst plainSecond joined

end FileTree

/-! ## The order of a walk -/

/-- One place comes before another in a walk: by their names in one directory, a file in it
before all that is in a directory of it, and the directories of it by their names. -/
inductive WalkedBefore : List String → List String → Prop where
  | files {first second : String} (ordered : Text.precedes first second = true) :
      WalkedBefore [first] [second]
  | fileFirst {name directory next : String} {place : List String} :
      WalkedBefore [name] (directory :: next :: place)
  | directories {first second next other : String} {place others : List String}
      (ordered : Text.precedes first second = true) :
      WalkedBefore (first :: next :: place) (second :: other :: others)
  | inside {directory : String} {first second : List String}
      (ordered : WalkedBefore first second) :
      WalkedBefore (directory :: first) (directory :: second)

theorem Text.precedes_irrefl (text : String) : ¬precedes text text = true := by
  rw [precedes_iff]
  exact lt_irrefl _

theorem WalkedBefore.ne {first second : List String} (ordered : WalkedBefore first second) :
    first ≠ second := by
  induction ordered with
  | files ordered =>
      rintro ⟨⟩
      exact Text.precedes_irrefl _ ordered
  | fileFirst => simp
  | directories ordered =>
      rintro ⟨⟩
      exact Text.precedes_irrefl _ ordered
  | inside _ induction => simpa using induction

namespace Rule

variable {α : Type}

/-! ## Names in order -/

theorem inOrder_perm (named : List (String × α)) : (inOrder named).Perm named :=
  sortBy_perm _ _

theorem pairwise_inOrder {named : List (String × α)} (distinct : (named.map Prod.fst).Nodup) :
    (inOrder named).Pairwise fun left right => Text.precedes left.1 right.1 = true := by
  have ordering := Text.notAfter_isOrdering.comap (Prod.fst : String × α → String)
  have apart : (inOrder named).Pairwise fun left right => left.1 ≠ right.1 :=
    List.pairwise_map.mp (((inOrder_perm named).map Prod.fst).nodup_iff.mpr distinct)
  exact ((ordering.pairwise_sortBy named).and apart).imp fun both =>
    Text.precedes_of_notAfter both.1 both.2

theorem inOrder_map {β : Type} (change : String × α → β) (named : List (String × α)) :
    inOrder (named.map fun entry => (entry.1, change entry)) =
      (inOrder named).map fun entry => (entry.1, change entry) :=
  sortBy_map (fun _ _ => rfl) named

/-! ## Rule files by their places -/

abbrev Placed := List String × FileContent

def atPath (path : String) (placed : Placed) : RuleFile :=
  (FileTree.pathTo path placed.1, placed.2)

def Placed.under (name : String) (placed : Placed) : Placed :=
  (name :: placed.1, placed.2)

def ruleFile? (entry : String × FileTree) : Option RuleFile :=
  match entry.2 with
  | .file content => if isRuleFile entry.1 then some (entry.1, content) else none
  | .directory _ => none

def ownPlaces (entries : List (String × FileTree)) : List Placed :=
  (inOrder (entries.filterMap ruleFile?)).map fun file => ([file.1], file.2)

mutual

def places : FileTree → List Placed
  | .file _ => []
  | .directory entries =>
      ownPlaces entries ++ (inOrder (placesOfEach entries)).flatMap Prod.snd

def placesOfEach : List (String × FileTree) → List (String × List Placed)
  | [] => []
  | (name, child) :: rest => (name, (places child).map (Placed.under name)) :: placesOfEach rest

end

theorem placesOfEach_eq (entries : List (String × FileTree)) :
    placesOfEach entries =
      entries.map fun entry => (entry.1, (places entry.2).map (Placed.under entry.1)) := by
  induction entries with
  | nil => rfl
  | cons entry rest induction => rw [placesOfEach, induction, List.map_cons]

theorem filesOfEach_eq (path : String) (entries : List (String × FileTree)) :
    filesOfEach path entries =
      entries.map fun entry => (entry.1, filesBelow (FileTree.joinPath path entry.1) entry.2) := by
  induction entries with
  | nil => rfl
  | cons entry rest induction => rw [filesOfEach, induction, List.map_cons]

def deeperPlaces (entries : List (String × FileTree)) : List Placed :=
  (inOrder entries).flatMap fun entry => (places entry.2).map (Placed.under entry.1)

theorem places_directory (entries : List (String × FileTree)) :
    places (.directory entries) = ownPlaces entries ++ deeperPlaces entries := by
  rw [places, placesOfEach_eq, inOrder_map, List.flatMap_map, deeperPlaces]

theorem ownFiles_eq (path : String) (entries : List (String × FileTree)) :
    ownFiles path entries = (ownPlaces entries).map (atPath path) := by
  rw [ownFiles, ownPlaces, List.map_map]
  rfl

theorem filesBelow_eq (tree : FileTree) :
    ∀ path, filesBelow path tree = (places tree).map (atPath path) := by
  induction tree using FileTree.induct with
  | file content => exact fun _ => rfl
  | directory entries induction =>
      intro path
      rw [filesBelow, ownFiles_eq, filesOfEach_eq, inOrder_map, List.flatMap_map,
        places_directory, List.map_append, deeperPlaces, List.map_flatMap]
      congr 1
      refine List.flatMap_congr fun entry member => ?_
      rw [induction entry ((inOrder_perm entries).mem_iff.mp member), List.map_map]
      rfl

/-! ## Which files are met -/

def IsRulePlace (place : List String) : Prop :=
  ∃ name, place.getLast? = some name ∧
    (".yml".toList <:+ (Text.lower name).toList ∨ ".yaml".toList <:+ (Text.lower name).toList)

theorem isRuleFile_iff {name : String} :
    isRuleFile name = true ↔
      (".yml".toList <:+ (Text.lower name).toList ∨
        ".yaml".toList <:+ (Text.lower name).toList) := by
  simp [isRuleFile, fileEndings, Text.endsWith, Text.lower]

theorem ruleFile?_eq_some_iff {entry : String × FileTree} {file : RuleFile} :
    ruleFile? entry = some file ↔
      entry = (file.1, .file file.2) ∧ isRuleFile file.1 = true := by
  rcases entry with ⟨name, child⟩
  rcases file with ⟨fileName, content⟩
  cases child with
  | directory inner => simp [ruleFile?]
  | file content =>
      simp only [ruleFile?, Prod.mk.injEq, FileTree.file.injEq]
      split
      · next isRule =>
          rw [Option.some_inj, Prod.mk.injEq]
          exact ⟨fun ⟨name, content⟩ => ⟨⟨name, content⟩, name ▸ isRule⟩, And.left⟩
      · next noRule => exact iff_of_false nofun fun ⟨⟨name, _⟩, isRule⟩ => noRule (name ▸ isRule)

theorem mem_ownPlaces {entries : List (String × FileTree)} {place : List String}
    {content : FileContent} :
    (place, content) ∈ ownPlaces entries ↔
      ∃ name, place = [name] ∧ (name, .file content) ∈ entries ∧ isRuleFile name = true := by
  simp only [ownPlaces, List.mem_map, (inOrder_perm _).mem_iff, List.mem_filterMap,
    ruleFile?_eq_some_iff]
  constructor
  · rintro ⟨⟨name, content⟩, ⟨_, member, rfl, isRule⟩, equal⟩
    cases equal
    exact ⟨name, rfl, member, isRule⟩
  · rintro ⟨name, rfl, member, isRule⟩
    exact ⟨(name, content), ⟨_, member, rfl, isRule⟩, rfl⟩

theorem mem_deeperPlaces {entries : List (String × FileTree)} {place : List String}
    {content : FileContent} :
    (place, content) ∈ deeperPlaces entries ↔
      ∃ name child rest, place = name :: rest ∧ (name, child) ∈ entries ∧
        (rest, content) ∈ places child := by
  simp only [deeperPlaces, List.mem_flatMap, (inOrder_perm entries).mem_iff, List.mem_map]
  constructor
  · rintro ⟨⟨name, child⟩, member, ⟨rest, _⟩, below, equal⟩
    cases equal
    exact ⟨name, child, rest, rfl, member, below⟩
  · rintro ⟨name, child, rest, rfl, member, below⟩
    exact ⟨(name, child), member, (rest, content), below, rfl⟩

theorem mem_places_iff (tree : FileTree) : ∀ {place : List String} {content : FileContent},
    (place, content) ∈ places tree ↔ tree.Holds place content ∧ IsRulePlace place := by
  induction tree using FileTree.induct with
  | file content =>
      intro place content
      refine iff_of_false List.not_mem_nil ?_
      rintro ⟨⟨⟩, name, last, _⟩
      cases last
  | directory entries induction =>
      intro place content
      rw [places_directory, List.mem_append, mem_ownPlaces, mem_deeperPlaces]
      constructor
      · rintro (⟨name, rfl, member, isRule⟩ | ⟨name, child, rest, rfl, member, below⟩)
        · exact ⟨.inside member .here, name, rfl, isRuleFile_iff.mp isRule⟩
        · rcases (induction _ member).mp below with ⟨holds, last, isLast, ends⟩
          refine ⟨.inside member holds, last, ?_, ends⟩
          rw [List.getLast?_cons, isLast, Option.getD_some]
      · rintro ⟨holds, last, isLast, ends⟩
        cases holds with
        | @inside _ name child rest _ member below =>
            cases rest with
            | nil =>
                cases below
                cases isLast
                exact .inl ⟨_, rfl, member, isRuleFile_iff.mpr ends⟩
            | cons next others =>
                rw [List.getLast?_cons_cons] at isLast
                have met := (induction _ member).mpr ⟨below, last, isLast, ends⟩
                exact .inr ⟨name, child, _, rfl, member, met⟩

theorem ne_nil_of_mem_places {tree : FileTree} {placed : Placed} (member : placed ∈ places tree) :
    placed.1 ≠ [] := by
  rcases ((mem_places_iff tree).mp member).2 with ⟨name, last, _⟩
  rintro empty
  rw [empty] at last
  cases last

/-! ## In which order they are met -/

theorem length_of_mem_ownPlaces {entries : List (String × FileTree)} {placed : Placed}
    (member : placed ∈ ownPlaces entries) : placed.1.length = 1 := by
  rcases mem_ownPlaces.mp member with ⟨name, isName, _⟩
  rw [isName, List.length_singleton]

theorem exists_of_mem_deeperPlaces {entries : List (String × FileTree)} {placed : Placed}
    (member : placed ∈ deeperPlaces entries) :
    ∃ directory next rest, placed.1 = directory :: next :: rest := by
  rcases mem_deeperPlaces.mp member with ⟨name, child, rest, isPlace, _, below⟩
  rcases List.exists_cons_of_ne_nil (ne_nil_of_mem_places below) with ⟨next, others, isRest⟩
  exact ⟨name, next, others, isPlace.trans (congrArg _ isRest)⟩

theorem pairwise_ownPlaces {entries : List (String × FileTree)}
    (distinct : (entries.map Prod.fst).Nodup) :
    (ownPlaces entries).Pairwise fun earlier later => WalkedBefore earlier.1 later.1 := by
  have named : ((entries.filterMap ruleFile?).map Prod.fst).Nodup := by
    rw [List.Nodup, List.pairwise_map, List.pairwise_filterMap]
    refine (List.pairwise_map.mp distinct).imp fun different first isFirst second isSecond => ?_
    rwa [(ruleFile?_eq_some_iff.mp isFirst).1, (ruleFile?_eq_some_iff.mp isSecond).1] at different
  rw [ownPlaces, List.pairwise_map]
  exact (pairwise_inOrder named).imp .files

theorem pairwise_places (tree : FileTree) (proper : tree.IsProper) :
    (places tree).Pairwise fun earlier later => WalkedBefore earlier.1 later.1 := by
  induction tree using FileTree.induct with
  | file content => exact .nil
  | directory entries induction =>
      rcases proper.entriesOf with ⟨distinct, _, inside⟩
      rw [places_directory]
      refine List.pairwise_append.mpr ⟨pairwise_ownPlaces distinct, ?_, ?_⟩
      · rw [deeperPlaces, List.pairwise_flatMap]
        constructor
        · intro entry member
          have stored := (inOrder_perm entries).mem_iff.mp member
          rw [List.pairwise_map]
          exact (induction entry stored (inside entry stored)).imp .inside
        · refine (pairwise_inOrder distinct).imp fun {first second} ordered => ?_
          simp only [List.forall_mem_map]
          intro earlier earlierMember later laterMember
          have filledEarlier := ne_nil_of_mem_places earlierMember
          have filledLater := ne_nil_of_mem_places laterMember
          rcases List.exists_cons_of_ne_nil filledEarlier with ⟨_, _, isEarlier⟩
          rcases List.exists_cons_of_ne_nil filledLater with ⟨_, _, isLater⟩
          simp only [Placed.under, isEarlier, isLater]
          exact .directories ordered
      · intro own isOwn deeper isDeeper
        rcases mem_ownPlaces.mp isOwn with ⟨name, isName, _⟩
        rcases exists_of_mem_deeperPlaces isDeeper with ⟨_, _, _, isPlace⟩
        rw [isName, isPlace]
        exact .fileFirst

theorem nodup_paths {tree : FileTree} (proper : tree.IsProper) (path : String) :
    ((filesBelow path tree).map Prod.fst).Nodup := by
  rw [filesBelow_eq, List.map_map, List.Nodup, List.pairwise_map]
  refine (pairwise_places tree proper).imp_of_mem fun {first second} isFirst isSecond ordered => ?_
  have plain {placed : Placed} (member : placed ∈ places tree) :=
    ((mem_places_iff tree).mp member).1.plain proper
  exact mt (FileTree.pathTo_inj (ne_nil_of_mem_places isFirst) (ne_nil_of_mem_places isSecond)
    (plain isFirst) (plain isSecond)) ordered.ne

/-! ## A directory -/

/-- The rule files at a path to a directory are met by a walk: the files of it and then those in
the directories below it, at different paths, every file of the tree whose name is that of a rule
file and nothing else, one before the other in the order of a walk. Without the directories below
they are the first part of this. The path is one from the top of the tree. -/
theorem rule_files_are_met_in_order {tree : FileTree} (proper : tree.IsProper) {root : String}
    {entries : List (String × FileTree)} (leads : tree.find? root = some (.directory entries)) :
    ∃ own deeper : List Placed,
      filesAt tree root true = (own ++ deeper).map (atPath root) ∧
      filesAt tree root false = own.map (atPath root) ∧
      (∀ placed ∈ own, placed.1.length = 1) ∧ (∀ placed ∈ deeper, 1 < placed.1.length) ∧
      (∀ place content, (place, content) ∈ own ++ deeper ↔
        (FileTree.directory entries).Holds place content ∧ IsRulePlace place) ∧
      (own ++ deeper).Pairwise (fun earlier later => WalkedBefore earlier.1 later.1) ∧
      ((filesAt tree root true).map Prod.fst).Nodup := by
  have properRoot := proper.find? leads
  have recursive : filesAt tree root true = filesBelow root (.directory entries) := by
    rw [filesAt, leads]
    rfl
  have direct : filesAt tree root false = ownFiles root entries := by
    rw [filesAt, leads]
    rfl
  refine ⟨ownPlaces entries, deeperPlaces entries, ?_, ?_, fun _ => length_of_mem_ownPlaces,
    fun placed member => ?_, fun place content => ?_, ?_, ?_⟩
  · rw [recursive, filesBelow_eq, places_directory]
  · rw [direct, ownFiles_eq]
  · rcases exists_of_mem_deeperPlaces member with ⟨_, _, _, isPlace⟩
    simp [isPlace]
  · rw [← places_directory]
    exact mem_places_iff _
  · rw [← places_directory]
    exact pairwise_places _ properRoot
  · rw [recursive]
    exact nodup_paths properRoot root

def fiveFiles : FileTree :=
  ["r/d/a.yml", "r/b.yml", "r/notes.txt", "r/c.yml/b.yml", "r/a.YAML"].foldl
    (fun tree path => tree.putAt path (.file (.octets []))) FileTree.empty

theorem isProper_fiveFiles : fiveFiles.IsProper :=
  FileTree.isProper_empty.putAt (.file _) _ |>.putAt (.file _) _ |>.putAt (.file _) _
    |>.putAt (.file _) _ |>.putAt (.file _) _

/-- A directory with the name of a rule file is entered and not met as a file. -/
theorem directory_named_as_rule_file_is_entered :
    ∃ own deeper : List Placed,
      own.map (atPath "r") = [("r/a.YAML", .octets []), ("r/b.yml", .octets [])] ∧
      deeper.map (atPath "r") = [("r/c.yml/b.yml", .octets []), ("r/d/a.yml", .octets [])] ∧
      (own ++ deeper).Pairwise fun earlier later => WalkedBefore earlier.1 later.1 := by
  have leads : fiveFiles.find? "r" = some (.directory
      [("d", .directory [("a.yml", .file (.octets []))]), ("b.yml", .file (.octets [])),
        ("notes.txt", .file (.octets [])), ("c.yml", .directory [("b.yml", .file (.octets []))]),
        ("a.YAML", .file (.octets []))]) := rfl
  rcases rule_files_are_met_in_order isProper_fiveFiles leads with
    ⟨own, deeper, recursive, direct, _, _, _, inOrder, _⟩
  have ownFiles : filesAt fiveFiles "r" false =
      [("r/a.YAML", .octets []), ("r/b.yml", .octets [])] := by
    decide +kernel
  have allFiles : filesAt fiveFiles "r" true =
      [("r/a.YAML", .octets []), ("r/b.yml", .octets [])] ++
        [("r/c.yml/b.yml", .octets []), ("r/d/a.yml", .octets [])] := by
    decide +kernel
  have ownMet := direct.symm.trans ownFiles
  have allMet := recursive.symm.trans allFiles
  rw [List.map_append, ownMet] at allMet
  exact ⟨own, deeper, ownMet, List.append_cancel_left allMet, inOrder⟩

end Rule

end ThreatWatch
