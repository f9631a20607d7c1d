import ThreatWatch.Proofs.Documents
import ThreatWatch.Proofs.Linking
import ThreatWatch.Rule.Directory

/-! Loading the rules of a directory. Each rule file gives a rule or a report of what is
wrong with it, in the order of the files, and none has a say in what another gives. What
ends the loading is a file that breaks off with some other fault. All of this is so whatever reads
the documents. -/

namespace ThreatWatch.Rule

section

variable {reader : Document.Reader}

/-! ## One file -/

/-- What a rule file gives: a rule, or a report of a fault in it or of why it cannot be read. -/
inductive Gives (reader : Document.Reader) : RuleFile → Rule ⊕ String → Prop where
  | rule {path : String} {octets : List UInt8} {rule : Rule}
      (read : fromText reader (FileTree.lenientText octets) (some path) = .ok rule) :
      Gives reader (path, .octets octets) (.inl rule)
  | report {path : String} {octets : List UInt8} {fault : RuleFault}
      (failed : fromText reader (FileTree.lenientText octets) (some path) = .error (.rule fault)) :
      Gives reader (path, .octets octets) (.inr (path ++ ": " ++ fault.message))
  | unreadable {path reason : String} :
      Gives reader (path, .unreadable reason) (.inr (path ++ ": " ++ reason))

/-- A file breaks off with a fault that is none of a rule. -/
inductive BreaksOff (reader : Document.Reader) : RuleFile → Fault → Prop where
  | fault {path : String} {octets : List UInt8} {fault : Fault}
      (failed : fromText reader (FileTree.lenientText octets) (some path) = .error fault)
      (noRule : ∀ ofRule, fault ≠ .rule ofRule) : BreaksOff reader (path, .octets octets) fault

theorem fromFile_eq_ok_iff {file : RuleFile} {outcome : Rule ⊕ String} :
    fromFile reader file = .ok outcome ↔ Gives reader file outcome := by
  constructor
  · intro given
    unfold fromFile at given
    split at given
    · cases given
      exact .unreadable
    · split at given
      · next read =>
          cases given
          exact .rule read
      · next failed =>
          cases given
          exact .report failed
      · cases given
  · intro gives
    cases gives with
    | rule read => rw [fromFile, read]
    | report failed => rw [fromFile, failed]
    | unreadable => rfl

theorem fromFile_eq_error_iff {file : RuleFile} {fault : Fault} :
    fromFile reader file = .error fault ↔ BreaksOff reader file fault := by
  constructor
  · intro broken
    unfold fromFile at broken
    split at broken
    · cases broken
    · split at broken
      · cases broken
      · cases broken
      · next noRule failed =>
          cases broken
          exact .fault failed noRule
  · intro breaks
    cases breaks with
    | fault failed noRule =>
        rw [fromFile, failed]
        cases fault with
        | rule ofRule => exact absurd rfl (noRule ofRule)
        | _ => rfl

/-- What can keep the rule of a text from being read or refused: a fault of the reader that is
more than a matter of form, or a document that obstructs its rule. -/
inductive Troubles (reader : Document.Reader) (content : String) (fault : Fault) : Prop where
  | reader (failed : reader content = .error fault) (beyondForm : fault ≠ .yaml)
  | document {document : Document} (parsed : reader content = .ok document)
      (obstructs : Obstructs document fault)

theorem fromText_eq_error {content : String} {file : Option String} {fault : Fault}
    (failed : fromText reader content file = .error fault) :
    (∃ ofRule, fault = .rule ofRule) ∨ Troubles reader content fault := by
  unfold fromText at failed
  split at failed
  · next document parsed =>
      exact (failsOnly_ofDocument document file fault failed).imp_right (.document parsed)
  · cases failed
    exact .inl ⟨_, rfl⟩
  · next beyondForm broken =>
      cases failed
      exact .inr (.reader broken beyondForm)

/-! ## A list of files -/

theorem length_collected (outcomes : List (Rule ⊕ String)) :
    (collected outcomes).rules.length + (collected outcomes).errors.length = outcomes.length := by
  induction outcomes with
  | nil => rfl
  | cons outcome rest induction =>
      simp only [collected] at induction ⊢
      cases outcome <;> simp [List.filterMap_cons] <;> omega

theorem fromFiles_eq_ok_iff {files : List RuleFile} {collection : Collection} :
    fromFiles reader files = .ok collection ↔
      ∃ outcomes, List.Forall₂ (Gives reader) files outcomes ∧
        collection = collected outcomes := by
  rw [fromFiles, bind_eq_ok_iff]
  simp only [mapM_eq_ok_iff, fromFile_eq_ok_iff, pure_eq_ok_iff, @eq_comm _ collection]

theorem fromFiles_eq_error_iff {files : List RuleFile} {fault : Fault} :
    fromFiles reader files = .error fault ↔
      ∃ before file after, files = before ++ file :: after ∧
        (∀ other ∈ before, ∃ outcome, Gives reader other outcome) ∧
          BreaksOff reader file fault := by
  simp only [← fromFile_eq_ok_iff, ← fromFile_eq_error_iff, ← mapM_eq_error_iff]
  exact ⟨eq_error_of_bind_pure, fun failed => bind_eq_error_iff.mpr (.inl failed)⟩

/-! ## A directory -/

/-- A directory is loaded where all of its rule files give something: their rules and
reports, in order, as many together as there are files. Otherwise the loading ends with
the fault of the first file that breaks off, which can be read and has trouble in its text. -/
theorem fromDirectory_collects (reader : Document.Reader) (tree : FileTree) (root : String)
    (recursive : Bool) :
    (∀ collection, fromDirectory reader tree root recursive = .ok collection ↔
      ∃ outcomes, List.Forall₂ (Gives reader) (filesAt tree root recursive) outcomes ∧
        collection = collected outcomes) ∧
    (∀ collection, fromDirectory reader tree root recursive = .ok collection →
      collection.rules.length + collection.errors.length =
        (filesAt tree root recursive).length) ∧
    (∀ fault, fromDirectory reader tree root recursive = .error fault ↔
      ∃ before file after, filesAt tree root recursive = before ++ file :: after ∧
        (∀ other ∈ before, ∃ outcome, Gives reader other outcome) ∧ BreaksOff reader file fault) ∧
    (∀ fault, fromDirectory reader tree root recursive = .error fault →
      ∃ path octets, (path, FileContent.octets octets) ∈ filesAt tree root recursive ∧
        Troubles reader (FileTree.lenientText octets) fault) := by
  refine ⟨fun collection => fromFiles_eq_ok_iff, fun collection loaded => ?_,
    fun fault => fromFiles_eq_error_iff, fun fault failed => ?_⟩
  · rcases fromFiles_eq_ok_iff.mp loaded with ⟨outcomes, gives, rfl⟩
    rw [length_collected, gives.length_eq]
  · rcases fromFiles_eq_error_iff.mp failed with ⟨before, file, after, files, _, breaks⟩
    have member : file ∈ filesAt tree root recursive := files ▸ List.mem_append_cons_self
    cases breaks with
    | @fault path octets _ broken noRule =>
        refine ⟨path, octets, member, (fromText_eq_error broken).resolve_left ?_⟩
        rintro ⟨ofRule, isRule⟩
        exact noRule ofRule isRule

end

/-- With the usual reader, what keeps a directory from being loaded stands in the text of a file or
in the document that the file holds. -/
theorem ofDirectory_eq_error {tree : FileTree} {root : String} {recursive : Bool} {fault : Fault}
    (failed : ofDirectory tree root recursive = .error fault) :
    ∃ path octets, (path, FileContent.octets octets) ∈ filesAt tree root recursive ∧
      (Yaml.Troubles (FileTree.lenientText octets) fault ∨
        ∃ document, Yaml.load (FileTree.lenientText octets) = .ok document ∧
          Obstructs document fault) := by
  rcases fromFiles_eq_error_iff.mp failed with ⟨before, file, after, files, _, breaks⟩
  have member : file ∈ filesAt tree root recursive := files ▸ List.mem_append_cons_self
  cases breaks with
  | @fault path octets _ broken noRule =>
      refine ⟨path, octets, member, ?_⟩
      rcases fromText_eq_error broken with ⟨ofRule, isRule⟩ | ⟨stopped, beyondForm⟩ |
        ⟨parsed, obstructs⟩
      · exact absurd isRule (noRule ofRule)
      · exact .inl ((Yaml.load_eq_error stopped).resolve_left beyondForm)
      · exact .inr ⟨_, parsed, obstructs⟩

/-! ## An impossible date -/

def loginsText (id line : String) : String :=
  "title: Logins\nid: " ++ id ++ "\nlevel: low\n" ++ line ++
    "detection:\n  sel:\n    user: root\n  condition: sel\n"

/-- Two rule files, of which the first has a date in a month that no year has. -/
def twoLogins : List RuleFile :=
  [("r/a.yml", .octets (Text.encodeUtf8 (loginsText "a" "date: 2024-13-01\n"))),
    ("r/b.yml", .octets (Text.encodeUtf8 (loginsText "b" "")))]

def twoLoginsEntries : List (String × FileTree) :=
  ["a.yml", "b.yml"].zip (twoLogins.map fun file => .file file.2)

def impossibleTokens : List Yaml.Token :=
  [.blockMappingStart, .key, .scalar "title" true, .value, .scalar "Logins" true,
    .key, .scalar "id" true, .value, .scalar "a" true,
    .key, .scalar "level" true, .value, .scalar "low" true,
    .key, .scalar "date" true, .value, .scalar "2024-13-01" true,
    .key, .scalar "detection" true, .value, .blockMappingStart,
    .key, .scalar "sel" true, .value, .blockMappingStart,
    .key, .scalar "user" true, .value, .scalar "root" true, .blockEnd,
    .key, .scalar "condition" true, .value, .scalar "sel" true, .blockEnd, .blockEnd, .streamEnd]

def impossibleNode : Yaml.Node :=
  .mapping .mapping [(.scalar .text "title", .scalar .text "Logins"),
    (.scalar .text "id", .scalar .text "a"), (.scalar .text "level", .scalar .text "low"),
    (.scalar .text "date", .scalar .timestamp "2024-13-01"),
    (.scalar .text "detection", .mapping .mapping
      [(.scalar .text "sel", .mapping .mapping [(.scalar .text "user", .scalar .text "root")]),
        (.scalar .text "condition", .scalar .text "sel")])]

theorem readStream_impossible :
    (Yaml.Grammar.readStream (impossibleTokens.length + 1)).run'
      { tokens := impossibleTokens, handles := Yaml.Grammar.usualHandles } =
        .ok (some impossibleNode) :=
  rfl

theorem value_impossible : Yaml.Content.value 0 impossibleNode = .error ⟨1, .impossibleDate⟩ := by
  have impossible : Yaml.Content.time "2024-13-01" = .error .impossibleDate := rfl
  simp [impossibleNode, Yaml.Content.value, Yaml.Content.mappingEntries,
    Yaml.Content.splitEntries, Yaml.Content.canMerge, Yaml.Content.keyValue, Yaml.Node.tag,
    Yaml.Content.isScalarTag, Yaml.Content.scalarText?, Yaml.Content.scalarValue,
    Yaml.Content.isCollectionTag, Yaml.Outcome.pair, Yaml.Outcome.combine, Yaml.Content.lift,
    Except.map, impossible]

theorem tokens_impossible :
    Yaml.tokens (loginsText "a" "date: 2024-13-01\n") = impossibleTokens := by
  decide +kernel

theorem filesAt_twoLogins :
    filesAt (.directory [("r", .directory twoLoginsEntries)]) "r" true = twoLogins := by
  have found : FileTree.find? (.directory [("r", .directory twoLoginsEntries)]) "r" =
      some (.directory twoLoginsEntries) := rfl
  have own : ownFiles "r" twoLoginsEntries = twoLogins := by decide +kernel
  have noneBelow : (inOrder [("a.yml", ([] : List RuleFile)), ("b.yml", [])]).flatMap Prod.snd =
      [] := by
    decide +kernel
  have below : (inOrder (filesOfEach "r" twoLoginsEntries)).flatMap Prod.snd = [] := by
    simpa [twoLoginsEntries, twoLogins, filesOfEach, filesBelow] using noneBelow
  simp only [filesAt, found, filesBelow, own, below, if_true, List.append_nil]

theorem lenientText_impossible :
    FileTree.lenientText (Text.encodeUtf8 (loginsText "a" "date: 2024-13-01\n")) =
      loginsText "a" "date: 2024-13-01\n" := by
  decide +kernel

theorem load_impossible :
    Yaml.load (loginsText "a" "date: 2024-13-01\n") = .error .impossibleDate := by
  have node : Yaml.Node.ofText? (loginsText "a" "date: 2024-13-01\n") =
      .ok (some impossibleNode) := by
    unfold Yaml.Node.ofText?
    rw [tokens_impossible]
    exact readStream_impossible
  have isTree : impossibleNode.isTree = true := rfl
  rw [Yaml.load, node]
  simp only [bind, Except.bind, isTree, if_pos, value_impossible]

theorem breaksOff_impossible :
    BreaksOff Yaml.load
      ("r/a.yml", .octets (Text.encodeUtf8 (loginsText "a" "date: 2024-13-01\n")))
      .impossibleDate := by
  refine .fault ?_ (by simp)
  rw [lenientText_impossible, fromText, load_impossible]

/-- The impossible date ends the loading of both files. -/
theorem impossible_date_ends_loading :
    filesAt (.directory [("r", .directory twoLoginsEntries)]) "r" true = twoLogins ∧
      ofDirectory (.directory [("r", .directory twoLoginsEntries)]) "r" true =
        .error .impossibleDate := by
  have ends : fromFiles Yaml.load twoLogins = .error .impossibleDate :=
    fromFiles_eq_error_iff.mpr ⟨[], _, _, rfl, by simp, breaksOff_impossible⟩
  exact ⟨filesAt_twoLogins, (congrArg (fromFiles Yaml.load) filesAt_twoLogins).trans ends⟩

end ThreatWatch.Rule
