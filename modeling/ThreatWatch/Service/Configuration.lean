import ThreatWatch.FileTree
import ThreatWatch.Table
import ThreatWatch.Yaml.Linking

/-! Configuration files: documents in which `$` and a name in braces stand for
the value of an environment variable. The values are put in before the document
is read, and once only: what a value holds stays as it is. -/

namespace ThreatWatch.Configuration

/-! ## Variables -/

inductive Piece where
  | character (value : Char)
  | variable (name : List Char)
  deriving DecidableEq, Repr

namespace Piece

/-- What a piece stands for; a variable that is not set stands for nothing. -/
def expanded (environment : Table String) : Piece → List Char
  | .character value => [value]
  | .variable name => ((environment.get? (String.ofList name)).getD "").toList

def name? : Piece → Option String
  | .variable name => some (String.ofList name)
  | .character _ => none

end Piece

def leadingName? : List Char → Option (List Char)
  | '$' :: '\x7b' :: rest =>
      let name := rest.takeWhile (· ≠ '\x7d')
      if name = [] ∨ name.length = rest.length then none else some name
  | _ => none

/-- The pieces of a text, of which the first `skipped` characters belong to a
piece that has been read. -/
def piecesFrom (skipped : Nat) : List Char → List Piece
  | [] => []
  | character :: rest =>
      match skipped with
      | remaining + 1 => piecesFrom remaining rest
      | 0 =>
          match leadingName? (character :: rest) with
          | some name => .variable name :: piecesFrom (name.length + 2) rest
          | none => .character character :: piecesFrom 0 rest

def pieces (content : String) : List Piece :=
  piecesFrom 0 content.toList

def expand (environment : Table String) (content : String) : String :=
  String.ofList ((pieces content).flatMap (Piece.expanded environment))

def variableNames (content : String) : List String :=
  (pieces content).filterMap Piece.name?

/-! ## Documents -/

/-- The mapping that a document holds; an empty document holds an empty one. -/
def ofText (environment : Table String) (path content : String) :
    Except Fault (List (Value × Value)) := do
  match ← Yaml.read (expand environment content) with
  | .null => return []
  | .map entries => return entries
  | other => .error (.settingsNotMapping path other.kindName)

def ofFile (environment : Table String) (tree : FileTree) (path : String) :
    Except Fault (List (Value × Value)) :=
  match tree.find? path with
  | some (.file (.octets octets)) =>
      match FileTree.strictText? octets with
      | some content => ofText environment path content
      | none => .error .undecodableText
  | some (.directory _) => .error .notAFile
  | some (.file (.unreadable _)) | none => .error .missingFile

/-- A section; one that does not count as present is an empty mapping. -/
def sectionOf (entries : List (Value × Value)) (name : String) : Value :=
  let found := Value.entry entries name
  if found.isPresent then found else .map []

def sectionEntries (entries : List (Value × Value)) (name : String) :
    Except Fault (List (Value × Value)) :=
  match sectionOf entries name with
  | .map inner => .ok inner
  | _ => .error .noSuchOperation

example : expand [("A", "1")] "$\x7bA\x7d-$\x7bB\x7d-$\x7b\x7d" = "1--$\x7b\x7d" := by
  decide +kernel

end ThreatWatch.Configuration
