import ThreatWatch.FileTree
import ThreatWatch.Rule.Document
import ThreatWatch.Sorting
import ThreatWatch.Yaml.Linking

/-! Rules from the files of a directory. A directory's own files come before
those below it, and files and directories are in the order of their names. -/

namespace ThreatWatch

/-- What reads the documents of texts. Its fault is `yaml` where a text is none of a document. -/
abbrev Document.Reader := String → Except Fault Document

namespace Rule

def fromText (read : Document.Reader) (content : String) (file : Option String) :
    Except Fault Rule :=
  match read content with
  | .ok document => ofDocument document file
  | .error .yaml => fail (.invalidYaml (placeOf file))
  | .error fault => .error fault

def ofText (content : String) (file : Option String) : Except Fault Rule :=
  fromText Yaml.load content file

def fileEndings : List String := [".yml", ".yaml"]

def isRuleFile (name : String) : Bool :=
  fileEndings.any fun ending => Text.endsWith ending.toList (Text.lowerCharacters name.toList)

abbrev RuleFile := String × FileContent

def inOrder {α : Type} (named : List (String × α)) : List (String × α) :=
  sortBy (fun left right => !Text.precedes right.1 left.1) named

def ownFiles (path : String) (entries : List (String × FileTree)) : List RuleFile :=
  let files := entries.filterMap fun entry =>
    match entry.2 with
    | .file content => if isRuleFile entry.1 then some (entry.1, content) else none
    | .directory _ => none
  (inOrder files).map fun file => (FileTree.joinPath path file.1, file.2)

mutual

def filesBelow (path : String) : FileTree → List RuleFile
  | .file _ => []
  | .directory entries =>
      ownFiles path entries ++ (inOrder (filesOfEach path entries)).flatMap Prod.snd

def filesOfEach (path : String) : List (String × FileTree) → List (String × List RuleFile)
  | [] => []
  | (name, child) :: rest =>
      (name, filesBelow (FileTree.joinPath path name) child) :: filesOfEach path rest

end

def filesAt (tree : FileTree) (root : String) (recursive : Bool) : List RuleFile :=
  match tree.find? root with
  | some (.directory entries) =>
      if recursive then filesBelow root (.directory entries) else ownFiles root entries
  | _ => []

/-- The rule of a file, or a report of what is wrong with it. A file that cannot be read and a fault
in its rule are reported; any other fault is none of the file alone. -/
def fromFile (read : Document.Reader) : RuleFile → Except Fault (Rule ⊕ String)
  | (path, .unreadable reason) => .ok (.inr (path ++ ": " ++ reason))
  | (path, .octets octets) =>
      match fromText read (FileTree.lenientText octets) (some path) with
      | .ok rule => .ok (.inl rule)
      | .error (.rule fault) => .ok (.inr (path ++ ": " ++ fault.message))
      | .error fault => .error fault

/-- Rules that have been read, and what was wrong with the others. -/
structure Collection where
  rules : List Rule := []
  errors : List String := []

def collected (outcomes : List (Rule ⊕ String)) : Collection where
  rules := outcomes.filterMap Sum.getLeft?
  errors := outcomes.filterMap Sum.getRight?

def fromFiles (read : Document.Reader) (files : List RuleFile) : Except Fault Collection := do
  return collected (← files.mapM (fromFile read))

def fromDirectory (read : Document.Reader) (tree : FileTree) (root : String) (recursive : Bool) :
    Except Fault Collection :=
  fromFiles read (filesAt tree root recursive)

def ofDirectory (tree : FileTree) (root : String) (recursive : Bool) : Except Fault Collection :=
  fromDirectory Yaml.load tree root recursive

end Rule

end ThreatWatch
