import ThreatWatch.Proofs.Walking

/-! Where paths lead. A tree has no links, so that the parts of a path tell where it leads without
the tree: a part that stays in its directory can be left out, and a step upwards takes back the
part before it. Paths that are spelled differently can lead to one place. -/

namespace ThreatWatch

namespace FileTree

/-! ## Places of paths -/

/-- The place that the parts of a path lead to. `above` holds the names that lead to the present
directory, the nearest first. -/
def settle (above : List String) : List String → List String
  | [] => above.reverse
  | part :: rest =>
      if part = "" ∨ part = "." then settle above rest
      else if part = ".." then settle above.tail rest
      else settle (part :: above) rest

def locate (path : String) : List String :=
  settle [] (Text.splitOn '/' path)

def at? (tree : FileTree) : List String → Option FileTree
  | [] => some tree
  | name :: rest =>
      match tree with
      | .file _ => none
      | .directory entries => (entries.lookup name).bind fun child => child.at? rest

theorem settle_append (above first second : List String) :
    settle above (first ++ second) = settle (settle above first).reverse second := by
  induction first generalizing above with
  | nil => rw [List.nil_append, settle, List.reverse_reverse]
  | cons part rest induction =>
      rw [List.cons_append, settle, settle]
      split
      · exact induction above
      · split
        · exact induction above.tail
        · exact induction (part :: above)

theorem settle_of_names {names : List String}
    (named : ∀ name ∈ names, name ≠ "" ∧ name ≠ "." ∧ name ≠ "..") (above : List String) :
    settle above names = above.reverse ++ names := by
  induction names generalizing above with
  | nil => rw [settle, List.append_nil]
  | cons name rest induction =>
      rcases List.forall_mem_cons.mp named with ⟨⟨filled, noStay, noStep⟩, later⟩
      rw [settle, if_neg (not_or.mpr ⟨filled, noStay⟩), if_neg noStep, induction later,
        List.reverse_cons, List.append_assoc, List.singleton_append]

theorem at?_append (tree : FileTree) (first second : List String) :
    tree.at? (first ++ second) = (tree.at? first).bind fun found => found.at? second := by
  induction first generalizing tree with
  | nil => rfl
  | cons name rest induction =>
      cases tree with
      | file content => rfl
      | directory entries =>
          rw [List.cons_append, at?, at?, Option.bind_assoc]
          exact congrArg _ (funext fun child => induction child)

/-- The trees that stand at the names that lead to a place, the nearest first. -/
inductive Above (root : FileTree) : List String → List FileTree → Prop where
  | root : Above root [] []
  | step {name : String} {names : List String} {parent : FileTree} {others : List FileTree}
      (found : root.at? names.reverse = some parent) (above : Above root names others) :
      Above root (name :: names) (parent :: others)

theorem at?_of_follow {root tree found : FileTree} {names parts : List String}
    {above : List FileTree} (stands : Above root names above)
    (here : root.at? names.reverse = some tree) (leads : follow above tree parts = some found) :
    root.at? (settle names parts) = some found := by
  induction parts generalizing names above tree with
  | nil =>
      cases leads
      exact here
  | cons part rest induction =>
      cases tree with
      | file content => cases leads
      | directory entries =>
          simp only [follow] at leads
          rw [settle]
          split at leads
          · next stays =>
              rw [if_pos stays]
              exact induction stands here leads
          · next moves =>
              rw [if_neg moves]
              split at leads
              · next isStep =>
                  rw [if_pos isStep]
                  cases stands with
                  | root => cases leads
                  | step found above => exact induction above found leads
              · next isName =>
                  rw [if_neg isName]
                  split at leads
                  · next child told =>
                      refine induction (.step here stands) ?_ leads
                      rw [List.reverse_cons, at?_append, here]
                      simp [at?, told]
                  · cases leads

theorem at?_of_find? {tree found : FileTree} {path : String}
    (leads : tree.find? path = some found) : tree.at? (locate path) = some found := by
  unfold find? at leads
  split at leads
  · cases leads
  · exact at?_of_follow .root rfl leads

theorem ne_empty_of_find? {tree found : FileTree} {path : String}
    (leads : tree.find? path = some found) : path ≠ "" := by
  rintro rfl
  cases leads

/-! ## Files at places -/

theorem holds_iff_at? {tree : FileTree} (proper : tree.IsProper) {place : List String}
    {content : FileContent} : tree.Holds place content ↔ tree.at? place = some (.file content) := by
  constructor
  · intro holds
    induction holds with
    | here => rfl
    | @inside entries name child _ _ member _ induction =>
        rcases proper.entriesOf with ⟨distinct, _, inside⟩
        have found : entries.lookup name = some child :=
          Table.get?_eq_some_of_mem distinct member
        rw [at?, found, Option.bind_some]
        exact induction (inside _ member)
  · intro found
    induction place generalizing tree with
    | nil =>
        cases found
        exact .here
    | cons name rest induction =>
        cases tree with
        | file content => cases found
        | directory entries =>
            rcases Option.bind_eq_some_iff.mp found with ⟨child, told, below⟩
            have member := Table.mem_of_get?_eq_some told
            exact .inside member (induction (proper.entriesOf.2.2 _ member) below)

theorem holds_below_iff {tree child : FileTree} (proper : tree.IsProper)
    (properChild : child.IsProper) {start : List String} (found : tree.at? start = some child)
    {place : List String} {content : FileContent} :
    child.Holds place content ↔ tree.Holds (start ++ place) content := by
  rw [holds_iff_at? properChild, holds_iff_at? proper, at?_append, found, Option.bind_some]

theorem Holds.unique {tree : FileTree} (proper : tree.IsProper) {place : List String}
    {content others : FileContent} (holds : tree.Holds place content)
    (again : tree.Holds place others) : content = others := by
  rw [holds_iff_at? proper] at holds again
  cases holds.symm.trans again
  rfl

/-- The parts of a path with a place behind it are those of the path and the names of the place,
but for an empty part between them. -/
theorem splitOn_pathTo {place : List String} (filled : place ≠ [])
    (plain : ∀ name ∈ place, IsPlainName name) {path : String} (named : path ≠ "") :
    ∃ parts, Text.splitOn '/' (pathTo path place) = parts ++ place ∧
      (Text.splitOn '/' path = parts ∨ Text.splitOn '/' path = parts ++ [""]) := by
  have slash : "/".toList = ['/'] := rfl
  have joined : Text.pieces '/' (Text.join "/" place).toList = place.map String.toList := by
    rw [Text.join, String.toList_intercalate, slash,
      Text.pieces_intercalate (by simpa using filled)]
    exact List.forall_mem_map.mpr fun name member => (plain name member).2
  have told : (place.map String.toList).map String.ofList = place := by
    rw [List.map_map]
    exact (List.map_congr_left fun name _ => String.ofList_toList).trans (List.map_id _)
  have characters : path.toList ≠ [] := by simpa using named
  rw [pathTo_eq filled plain, Text.splitOn, Text.splitOn, String.toList_append, pathStart]
  split
  · next ends =>
      -- The path ends in a slash, and its last part is the empty one behind it.
      have last := ends.resolve_left named
      have split : path.toList = path.toList.dropLast ++ ['/'] := by
        rw [List.getLast?_eq_some_getLast characters] at last
        rw [← Option.some.inj last, List.dropLast_append_getLast]
      refine ⟨(Text.pieces '/' path.toList.dropLast).map String.ofList, ?_, .inr ?_⟩
      · rw [split, List.append_assoc, List.singleton_append, Text.pieces_append_separator, joined,
          List.map_append, told]
        simp
      · rw [split, Text.pieces_append_separator, List.map_append]
        simp [Text.pieces]
  · refine ⟨(Text.pieces '/' path.toList).map String.ofList, ?_, .inl rfl⟩
    rw [String.toList_append, slash, List.append_assoc, List.singleton_append,
      Text.pieces_append_separator, joined, List.map_append, told]

theorem locate_pathTo {place : List String} (filled : place ≠ [])
    (plain : ∀ name ∈ place, IsPlainName name) (steps : "." ∉ place ∧ ".." ∉ place)
    {path : String} (named : path ≠ "") :
    locate (pathTo path place) = locate path ++ place := by
  have names : ∀ name ∈ place, name ≠ "" ∧ name ≠ "." ∧ name ≠ ".." := fun name member =>
    ⟨(plain name member).1, fun stay => steps.1 (stay ▸ member),
      fun step => steps.2 (step ▸ member)⟩
  rcases splitOn_pathTo filled plain named with ⟨parts, whole, start | start⟩
  · rw [locate, locate, whole, start, settle_append, settle_of_names names, List.reverse_reverse]
  · rw [locate, locate, whole, start, settle_append, settle_append, settle_of_names names,
      List.reverse_reverse]
    congr 1
    simp [settle]

/-- A tree with proper names, none of which is that of a step. -/
structure IsRegular (tree : FileTree) : Prop where
  proper : tree.IsProper
  steps : ∀ place content, tree.Holds place content → "." ∉ place ∧ ".." ∉ place

end FileTree

end ThreatWatch
