import ThreatWatch.Proofs.Leaves

/-! Flat names as paths. A path is cut at each of its dots, and what is left of it is tried as
one key before it is followed key by key. A dot in the last key of a place is therefore no
obstacle, and one in a key before it is: such a place has a flat name, but its name leads
nowhere. -/

namespace ThreatWatch

namespace Text

theorem join_splitOn (text : String) : join "." (splitOn '.' text) = text := by
  rw [← String.toList_inj, join, splitOn, String.toList_intercalate, List.map_map]
  have ends : String.toList ∘ String.ofList = id := funext fun _ => String.toList_ofList
  rw [ends, List.map_id]
  exact intercalate_pieces '.' text.toList

theorem splitOn_ne_nil (separator : Char) (text : String) : splitOn separator text ≠ [] := by
  rw [splitOn, ne_eq, List.map_eq_nil_iff]
  exact pieces_ne_nil separator text.toList

theorem not_mem_of_mem_splitOn {separator : Char} {text part : String}
    (member : part ∈ splitOn separator text) : separator ∉ part.toList := by
  obtain ⟨piece, pieceMember, rfl⟩ := List.mem_map.mp member
  rw [String.toList_ofList]
  exact not_mem_of_mem_pieces pieceMember

theorem splitOn_append {first : String} (plain : '.' ∉ first.toList) (rest : String) :
    splitOn '.' (first ++ "." ++ rest) = first :: splitOn '.' rest := by
  have dot : ".".toList = ['.'] := rfl
  rw [splitOn, String.toList_append, String.toList_append, dot, List.append_assoc,
    List.singleton_append, pieces_append plain, List.map_cons, String.ofList_toList]
  rfl

end Text

/-- No key of a mapping around a place has a dot in it; its own key may have some. -/
def Place.HasPlainWay (place : Place) : Prop :=
  ∀ key ∈ place.way, '.' ∉ (Place.keyText key).toList

instance (place : Place) : Decidable place.HasPlainWay :=
  inferInstanceAs (Decidable (∀ key ∈ place.way, _))

namespace Value

open Place (keyText)

variable {entries : List (Value × Value)} {place other : Place} {name : String} {value : Value}

/-! ## Places -/

theorem mem_places_iff :
    place ∈ places entries ↔
      (∃ entry ∈ entries, place = ⟨[], entry.1, entry.2⟩) ∨
        ∃ outer inner, (outer, .map inner) ∈ entries ∧
          ∃ within ∈ places inner, place = within.under outer := by
  induction entries with
  | nil => simp [places]
  | cons first rest induction =>
      obtain ⟨key, held⟩ := first
      have inside : place ∈ (placesIn held).map (Place.under key) ↔
          ∃ inner, held = .map inner ∧ ∃ within ∈ places inner, place = within.under key := by
        cases held with
        | map inner => simp [placesIn, eq_comm]
        | _ => simp [placesIn]
      rw [places, List.cons_append, List.mem_cons, List.mem_append, inside, induction]
      constructor
      · rintro (rfl | ⟨inner, rfl, within⟩ | ⟨entry, member, equal⟩ |
          ⟨outer, inner, member, within⟩)
        · exact .inl ⟨_, List.mem_cons_self, rfl⟩
        · exact .inr ⟨key, inner, List.mem_cons_self, within⟩
        · exact .inl ⟨entry, List.mem_cons_of_mem _ member, equal⟩
        · exact .inr ⟨outer, inner, List.mem_cons_of_mem _ member, within⟩
      · rintro (⟨entry, member, equal⟩ | ⟨outer, inner, member, within⟩)
        · rcases List.mem_cons.mp member with rfl | later
          · exact .inl equal
          · exact .inr (.inr (.inl ⟨entry, later, equal⟩))
        · rcases List.mem_cons.mp member with same | later
          · cases same
            exact .inr (.inl ⟨inner, rfl, within⟩)
          · exact .inr (.inr (.inr ⟨outer, inner, later, within⟩))

def HasTextKeys (entries : List (Value × Value)) : Prop :=
  ∀ place ∈ places entries, ∃ name, place.key = .text name

def HasOwnPaths (entries : List (Value × Value)) : Prop :=
  ((places entries).map Place.path).Nodup

theorem HasTextKeys.inner {outer : Value} {inner : List (Value × Value)}
    (textKeys : HasTextKeys entries) (member : (outer, .map inner) ∈ entries) :
    HasTextKeys inner := by
  intro place within
  apply textKeys (place.under outer)
  exact mem_places_iff.mpr (.inr ⟨outer, inner, member, place, within, rfl⟩)

theorem HasTextKeys.areNamed (textKeys : HasTextKeys entries) :
    Place.AreNamed (places entries) := by
  intro place member
  obtain ⟨name, isText⟩ := textKeys place member
  exact ⟨name, by rw [isText, shown]⟩

def PathsTell (entries : List (Value × Value)) : Prop :=
  ∀ place ∈ places entries, ∀ other ∈ places entries, place.path = other.path → place = other

theorem HasOwnPaths.pathsTell (ownPaths : HasOwnPaths entries) : PathsTell entries :=
  fun _ here _ there same => List.inj_on_of_nodup_map ownPaths here there same

theorem PathsTell.inner {outer : Value} {inner : List (Value × Value)} (tell : PathsTell entries)
    (member : (outer, .map inner) ∈ entries) : PathsTell inner := by
  intro place here other there same
  have outside : ∀ within ∈ places inner, within.under outer ∈ places entries :=
    fun within among => mem_places_iff.mpr (.inr ⟨outer, inner, member, within, among, rfl⟩)
  have equal : place.under outer = other.under outer := by
    apply tell _ (outside place here) _ (outside other there)
    rw [Place.path_under, Place.path_under, same]
  obtain ⟨⟩ := place
  obtain ⟨⟩ := other
  simpa [Place.under] using equal

/-! ## Following paths -/

theorem mem_of_lookup?_eq_some {found : Value}
    (told : lookup? entries (.text name) = some found) : (.text name, found) ∈ entries := by
  obtain ⟨entry, among, rfl⟩ := Option.map_eq_some_iff.mp told
  have isSame := List.find?_some among
  rw [← same_text_iff.mp isSame]
  exact List.mem_of_find?_eq_some among

theorem mem_places_of_lookup? {found : Value}
    (told : lookup? entries (.text name) = some found) :
    ⟨[], .text name, found⟩ ∈ places entries := by
  exact mem_places_iff.mpr (.inl ⟨_, mem_of_lookup?_eq_some told, rfl⟩)

theorem exists_lookup? (member : (.text name, value) ∈ entries) :
    ∃ found, lookup? entries (.text name) = some found := by
  have present : (entries.find? fun entry => entry.1.same (.text name)).isSome = true :=
    List.find?_isSome.mpr ⟨_, member, by simp [same]⟩
  obtain ⟨entry, found⟩ := Option.isSome_iff_exists.mp present
  exact ⟨entry.2, Option.map_eq_some_iff.mpr ⟨entry, found, rfl⟩⟩

theorem PathsTell.lookup?_eq_some (tell : PathsTell entries)
    (member : (.text name, value) ∈ entries) : lookup? entries (.text name) = some value := by
  obtain ⟨found, told⟩ := exists_lookup? member
  have here : ⟨[], .text name, value⟩ ∈ places entries := mem_places_iff.mpr (.inl ⟨_, member, rfl⟩)
  have same := tell _ (mem_places_of_lookup? told) _ here rfl
  rw [told, (Place.mk.inj same).2.2]

theorem lookup?_of_entry_ne_null (found : entry entries name ≠ .null) :
    lookup? entries (.text name) = some (entry entries name) := by
  unfold entry at found ⊢
  cases told : lookup? entries (.text name) with
  | none => exact absurd (by rw [told, Option.getD_none]) found
  | some value => rfl

theorem entry_eq_of_lookup? {found : Value} (told : lookup? entries (.text name) = some found) :
    entry entries name = found := by
  rw [entry, told, Option.getD_some]

theorem follow_of_lookup?_eq_some {part next : String} {rest : List String} {found : Value}
    (told : lookup? entries (.text (Text.join "." (part :: next :: rest))) = some found) :
    (Value.map entries).follow (part :: next :: rest) = found := by
  rw [follow, told]
  simp

theorem follow_of_lookup?_eq_none {part next : String} {rest : List String}
    (absent : lookup? entries (.text (Text.join "." (part :: next :: rest))) = none) :
    (Value.map entries).follow (part :: next :: rest) =
      (entry entries part).follow (next :: rest) := by
  rw [follow, absent]
  simp

theorem exists_map_of_follow {part : String} {rest : List String}
    (found : value.follow (part :: rest) ≠ .null) : ∃ inner, value = .map inner := by
  cases value with
  | map inner => exact ⟨inner, rfl⟩
  | _ => exact absurd (by cases rest <;> simp [follow]) found

theorem PathsTell.atPath_outermost (tell : PathsTell entries)
    (member : (.text name, value) ∈ entries) : (Value.map entries).atPath name = value := by
  have told := tell.lookup?_eq_some member
  have whole := Text.join_splitOn name
  rw [atPath]
  match parts : Text.splitOn '.' name with
  | [] => exact absurd parts (Text.splitOn_ne_nil '.' name)
  | [part] =>
      have same : part = name := by rw [← whole, parts, Text.join, String.intercalate_singleton]
      rw [same, follow]
      exact entry_eq_of_lookup? told
  | part :: next :: rest =>
      rw [← whole, parts] at told
      exact follow_of_lookup?_eq_some told

theorem PathsTell.atPath_under (tell : PathsTell entries) {inner : List (Value × Value)}
    (plain : '.' ∉ name.toList) (among : (.text name, .map inner) ∈ entries)
    (inside : place ∈ places inner) :
    (Value.map entries).atPath (place.under (.text name)).path =
      (Value.map inner).atPath place.path := by
  have member : place.under (.text name) ∈ places entries :=
    mem_places_iff.mpr (.inr ⟨_, inner, among, place, inside, rfl⟩)
  have whole : (place.under (.text name)).path = name ++ "." ++ place.path :=
    Place.path_under (.text name) place
  obtain ⟨next, rest, parts⟩ := List.exists_cons_of_ne_nil (Text.splitOn_ne_nil '.' place.path)
  have cut : Text.splitOn '.' (place.under (.text name)).path = name :: next :: rest := by
    rw [whole, Text.splitOn_append plain, parts]
  -- A key that is the whole path would be another place with this path.
  have absent : lookup? entries (.text (Text.join "." (name :: next :: rest))) = none := by
    rw [← cut, Text.join_splitOn]
    cases told : lookup? entries (.text (place.under (.text name)).path) with
    | none => rfl
    | some found =>
        have same := tell _ (mem_places_of_lookup? told) _ member rfl
        cases congrArg Place.way same
  rw [atPath, cut, follow_of_lookup?_eq_none absent,
    entry_eq_of_lookup? (tell.lookup?_eq_some among), ← parts]
  rfl

theorem PathsTell.atPath_of_plainWay {way : List Value} {key : Value}
    (tell : PathsTell entries) (textKeys : HasTextKeys entries)
    (member : ⟨way, key, value⟩ ∈ places entries)
    (plain : Place.HasPlainWay ⟨way, key, value⟩) :
    (Value.map entries).atPath (Place.path ⟨way, key, value⟩) = value := by
  induction way generalizing entries with
  | nil =>
      obtain ⟨name, isText⟩ := textKeys _ member
      rcases mem_places_iff.mp member with ⟨entry, among, same⟩ | ⟨_, _, _, _, _, under⟩
      · cases same
        rw [Place.path_outermost, show entry.1 = .text name from isText]
        exact tell.atPath_outermost (isText ▸ among)
      · cases under
  | cons outer more induction =>
      rcases mem_places_iff.mp member with ⟨_, _, same⟩ | ⟨_, inner, among, within, inside, under⟩
      · cases same
      · obtain ⟨way, key, value⟩ := within
        cases under
        have outermost : ⟨[], outer, .map inner⟩ ∈ places entries :=
          mem_places_iff.mpr (.inl ⟨_, among, rfl⟩)
        obtain ⟨name, isText⟩ := textKeys _ outermost
        cases (isText : outer = .text name)
        obtain ⟨plainName, plainRest⟩ := List.forall_mem_cons.mp plain
        have into := tell.atPath_under plainName among inside
        have inward := induction (tell.inner among) (textKeys.inner among) inside plainRest
        exact into.trans inward

theorem exists_place_of_follow {parts : List String} (filled : parts ≠ [])
    (plain : ∀ part ∈ parts, '.' ∉ part.toList)
    (found : (Value.map entries).follow parts ≠ .null) :
    ∃ place ∈ places entries, place.path = Text.join "." parts ∧ place.HasPlainWay := by
  induction parts generalizing entries with
  | nil => exact absurd rfl filled
  | cons part others induction =>
      have outermost {name : String} {value : Value}
          (told : lookup? entries (.text name) = some value) :
          ∃ place ∈ places entries, place.path = name ∧ place.HasPlainWay :=
        ⟨_, mem_places_of_lookup? told, Place.path_outermost _ _, by simp [Place.HasPlainWay]⟩
      cases others with
      | nil =>
          rw [follow] at found
          rw [Text.join, String.intercalate_singleton]
          exact outermost (lookup?_of_entry_ne_null found)
      | cons next rest =>
          cases told : lookup? entries (.text (Text.join "." (part :: next :: rest))) with
          | some value => exact outermost told
          | none =>
              rw [follow_of_lookup?_eq_none told] at found
              obtain ⟨inner, isMap⟩ := exists_map_of_follow found
              have present : entry entries part ≠ .null := by simp [isMap]
              have held := lookup?_of_entry_ne_null present
              rw [isMap] at found held
              have among := mem_of_lookup?_eq_some held
              obtain ⟨plainPart, plainOthers⟩ := List.forall_mem_cons.mp plain
              obtain ⟨within, inside, path, plainWay⟩ := induction (by simp) plainOthers found
              refine ⟨within.under (.text part),
                mem_places_iff.mpr (.inr ⟨_, inner, among, within, inside, rfl⟩), ?_, ?_⟩
              · rw [Place.path_under, path, Text.join, Text.join, String.intercalate_cons_cons]
                rfl
              · exact List.forall_mem_cons.mpr ⟨plainPart, plainWay⟩

theorem PathsTell.atPath_path (tell : PathsTell entries)
    (textKeys : HasTextKeys entries) (member : place ∈ places entries) :
    (Value.map entries).atPath place.path = if place.HasPlainWay then place.value else .null := by
  split
  · next plain => exact tell.atPath_of_plainWay textKeys member plain
  · next dotted =>
      by_contra found
      obtain ⟨other, among, path, plain⟩ := exists_place_of_follow
        (Text.splitOn_ne_nil '.' place.path)
        (fun part => Text.not_mem_of_mem_splitOn) found
      rw [Text.join_splitOn] at path
      exact dotted (tell _ among _ member path ▸ plain)

end Value

namespace Metadata

open Value (places HasTextKeys HasOwnPaths)

variable {entries : List (Value × Value)}

/-- Where no two places in a mapping have the same path, each flat name is the path of a place
with its scalar, and leads to it if no key of a mapping around it has a dot. If one has, the name
leads nowhere. -/
theorem flat_names_lead_back (textKeys : HasTextKeys entries) (ownPaths : HasOwnPaths entries) :
    ∃ table, flatten "" entries = .ok table ∧
      ∀ entry ∈ table, ∃ place ∈ places entries,
        place.path = entry.1 ∧ place.value = entry.2.toValue ∧
          (Value.map entries).atPath entry.1 =
            if place.HasPlainWay then entry.2.toValue else .null := by
  obtain ⟨table, told⟩ := exists_flatten_of_areNamed textKeys.areNamed ""
  refine ⟨table, told, fun entry member => ?_⟩
  obtain ⟨place, among, path, value⟩ := exists_place_of_mem_flatten told member
  rw [String.empty_append] at path
  refine ⟨place, among, path, value, ?_⟩
  rw [← path, ← value]
  exact ownPaths.pathsTell.atPath_path textKeys among

def hostEntries : List (Value × Value) :=
  [(.text "host.name", .text "web-1"),
    (.text "user", .map [(.text "id", .int 7), (.text "home.dir", .text "/root")])]

theorem dotted_names_lead_back :
    HasTextKeys hostEntries ∧ HasOwnPaths hostEntries ∧
      flatten "" hostEntries = .ok [("host.name", .text "web-1"), ("user.id", .int 7),
        ("user.home.dir", .text "/root")] ∧
      (Value.map hostEntries).atPath "user.home.dir" = .text "/root" := by
  have textKeys : HasTextKeys hostEntries := by
    simp [HasTextKeys, places, Value.placesIn, hostEntries, Place.under]
  have ownPaths : HasOwnPaths hostEntries := by
    have distinct : ((places hostEntries).map Place.path).Nodup := by decide +kernel
    exact distinct
  have flat : flatten "" hostEntries = .ok [("host.name", .text "web-1"), ("user.id", .int 7),
      ("user.home.dir", .text "/root")] := by decide +kernel
  obtain ⟨table, told, leads⟩ := flat_names_lead_back textKeys ownPaths
  cases flat.symm.trans told
  obtain ⟨place, among, _, _, back⟩ := leads ("user.home.dir", .text "/root") (by simp)
  have allPlain : ∀ place ∈ places hostEntries, place.HasPlainWay := by decide +kernel
  rw [if_pos (allPlain place among)] at back
  exact ⟨textKeys, ownPaths, flat, back⟩

def systemEntries : List (Value × Value) :=
  [(.text "host.os", .map [(.text "name", .text "linux")])]

theorem name_under_dotted_key_leads_nowhere :
    HasTextKeys systemEntries ∧ HasOwnPaths systemEntries ∧
      flatten "" systemEntries = .ok [("host.os.name", .text "linux")] ∧
      (Value.map systemEntries).atPath "host.os.name" = .null := by
  have textKeys : HasTextKeys systemEntries := by
    simp [HasTextKeys, places, Value.placesIn, systemEntries, Place.under]
  have distinct : ((places systemEntries).map Place.path).Nodup := by decide +kernel
  have parts : Text.splitOn '.' "host.os.name" = ["host", "os", "name"] := by decide +kernel
  refine ⟨textKeys, distinct, by decide +kernel, ?_⟩
  rw [Value.atPath, parts]
  rfl

end Metadata

end ThreatWatch
