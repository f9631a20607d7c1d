import ThreatWatch.Text.Basic
import ThreatWatch.Text.Utf8

/-! Trees of files. A directory holds its files and the directories below it by
name, and a path names one of them from the top of the tree. The program works in the directory
at the top, and the tree is all that its paths lead to: a path from the root of the file system,
or one that leaves the tree, leads nowhere. -/

namespace ThreatWatch

/-- What opening a file gives. -/
inductive FileContent where
  | octets (content : List UInt8)
  /-- The file cannot be opened or read, for a reason that the system tells. -/
  | unreadable (reason : String)
  deriving DecidableEq, Repr

instance : Coe (List UInt8) FileContent :=
  ⟨.octets⟩

inductive FileTree where
  | file (content : FileContent)
  | directory (entries : List (String × FileTree))
  deriving Inhabited

namespace FileTree

def empty : FileTree :=
  .directory []

def isDirectory : FileTree → Bool
  | .directory _ => true
  | .file _ => false

/-! ## Paths -/

/-- A path below another one; a slash is put between them where there is
none. -/
def joinPath (path name : String) : String :=
  if name.toList.head? = some '/' then name
  else if path = "" ∨ path.toList.getLast? = some '/' then path ++ name
  else path ++ "/" ++ name

/-- Follows the parts of a path. `above` holds the directories that lead to the
present one, the nearest first. -/
def follow (above : List FileTree) (tree : FileTree) : List String → Option FileTree
  | [] => some tree
  | part :: rest =>
      match tree with
      | .file _ => none
      | .directory entries =>
          if part = "" ∨ part = "." then follow above tree rest
          else if part = ".." then
            match above with
            | [] => none
            | parent :: others => follow others parent rest
          else
            match entries.lookup part with
            | some child => follow (tree :: above) child rest
            | none => none

/-- What a path leads to. The empty path leads nowhere, and neither does one that starts at the
root of the file system or leaves the tree. -/
def find? (tree : FileTree) (path : String) : Option FileTree :=
  if path = "" ∨ path.toList.head? = some '/' then none
  else follow [] tree (Text.splitOn '/' path)

/-! ## Building -/

def putEntry (name : String) (child : FileTree) :
    List (String × FileTree) → List (String × FileTree)
  | [] => [(name, child)]
  | (first, old) :: rest =>
      if first = name then (first, child) :: rest else (first, old) :: putEntry name child rest

def entriesOf : FileTree → List (String × FileTree)
  | .directory entries => entries
  | .file _ => []

def merge (old? : Option FileTree) (new : FileTree) : FileTree :=
  match old?, new with
  | some (.directory entries), .directory [] => .directory entries
  | _, new => new

def put (content : FileTree) (tree : FileTree) : List String → FileTree
  | [] => merge (some tree) content
  | part :: rest =>
      if part = "" ∨ part = "." then put content tree rest
      else
        let entries := tree.entriesOf
        let child := (entries.lookup part).getD empty
        .directory (putEntry part (put content child rest) entries)

def putAt (tree : FileTree) (path : String) (content : FileTree) : FileTree :=
  put content tree (Text.splitOn '/' path)

/-! ## Contents -/

def unifyNewlines : List Char → List Char
  | '\r' :: '\n' :: rest => '\n' :: unifyNewlines rest
  | '\r' :: rest => '\n' :: unifyNewlines rest
  | character :: rest => character :: unifyNewlines rest
  | [] => []

/-- The text of a file, without octets that are part of no character. -/
def lenientText (octets : List UInt8) : String :=
  String.ofList (unifyNewlines (Text.decodeUtf8Leniently octets))

def strictText? (octets : List UInt8) : Option String :=
  (Text.decodeUtf8? octets).map fun characters => String.ofList (unifyNewlines characters)

end FileTree

end ThreatWatch
