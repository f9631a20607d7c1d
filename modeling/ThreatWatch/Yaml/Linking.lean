import ThreatWatch.Document
import ThreatWatch.Yaml.Content

/-! Documents that are no trees. Their parts are made level by level, from the root: a collection is
begun where it is met and filled when those before it have been, so that an alias inside it finds
it. -/

namespace ThreatWatch.Yaml

namespace Linking

structure Links where
  parts : List Part := []
  /-- The place and the node of each collection with a mark that has been begun. -/
  begun : List (Nat × Nat × Node) := []
  /-- The collections that are to be filled. -/
  waiting : List (Nat × Node) := []

abbrev Linker (α : Type) := StateT Links (Except Fault) α

def addPart (part : Part) : Linker Nat := do
  let links ← get
  set { links with parts := links.parts ++ [part] }
  return links.parts.length

def setPart (place : Nat) (part : Part) : Linker Unit :=
  modify fun links => { links with parts := links.parts.set place part }

/-! ## Scalars -/

mutual

/-- The code points of a scalar, or of the value that stands for a mapping. `passed` holds the marks
of the mappings that the value has been looked for in. -/
def scalarPoints (passed : List Nat) : Node → Except Fault (List Text.Point)
  | .scalar _ content => .ok (content.toList.map .character)
  | .wide _ points => .ok points
  | .mapping _ entries => standingPoints passed entries
  | .marked mark node => scalarPoints (mark :: passed) node
  | .around mark => .error (if passed.contains mark then .selfReference else .yaml)
  | .sequence _ _ => .error .yaml

def standingPoints (passed : List Nat) : List (Node × Node) → Except Fault (List Text.Point)
  | [] => .error .yaml
  | (key, value) :: rest =>
      if key.tag = .value then scalarPoints passed value else standingPoints passed rest

end

def scalarLeaf (tag : Tag) (points : List Text.Point) : Except Fault Leaf :=
  match tag, Text.ofPoints? points with
  | .text, none => .ok (.text points)
  | tag, _ => (Content.scalarValue tag (Text.ofPoints points)).map .value

/-! ## Merging -/

def ownEntries (entries : List (Node × Node)) : List (Node × Node) :=
  entries.filter fun entry => entry.1.tag ≠ .merge

def begunEntries? (begun : List (Nat × Nat × Node)) (mark : Nat) : Option (List (Node × Node)) :=
  match begun.lookup mark with
  | some (_, .mapping _ entries) => some (ownEntries entries)
  | _ => none

mutual

def allEntries? (begun : List (Nat × Nat × Node)) :
    List (Node × Node) → Option (List (Node × Node) × List (Node × Node))
  | [] => some ([], [])
  | (key, held) :: rest => do
      let (merged, own) ← allEntries? begun rest
      if key.tag = .merge then return ((← mergedEntries? begun held) ++ merged, own)
      else return (merged, (key, held) :: own)

def mergedEntries? (begun : List (Nat × Nat × Node)) : Node → Option (List (Node × Node))
  | .mapping _ entries => do
      let (merged, own) ← allEntries? begun entries
      return merged ++ own
  | .sequence _ items => mergedSources? begun items
  | .marked _ node => mergedEntries? begun node
  | .around mark => begunEntries? begun mark
  | .scalar _ _ | .wide _ _ => none

/-- The entries of several mappings to be merged; those of the first come last, so that they
count. -/
def mergedSources? (begun : List (Nat × Nat × Node)) : List Node → Option (List (Node × Node))
  | [] => some []
  | .sequence _ _ :: _ | .marked _ (.sequence _ _) :: _ => none
  | item :: rest => do return (← mergedSources? begun rest) ++ (← mergedEntries? begun item)

end

/-! ## Parts -/

def begin? (node : Node) : Linker Nat := do
  if Content.isScalarTag node.tag then
    addPart (.leaf (← scalarLeaf node.tag (← scalarPoints [] node)))
  else if Content.isCollectionTag node.tag then
    let place ← addPart (.list [])
    modify fun links => { links with waiting := links.waiting ++ [(place, node)] }
    return place
  else throw .yaml

/-- The place of a node, which is begun where it has not been. -/
def placeOf : Node → Linker Nat
  | .around mark => do
      match (← get).begun.lookup mark with
      | some (place, _) => return place
      | none => throw .selfReference
  | .marked mark node => do
      match (← get).begun.lookup mark with
      | some (place, _) => return place
      | none =>
          let place ← begin? (.marked mark node)
          modify fun links => { links with begun := (mark, place, node) :: links.begun }
          return place
  | node => begin? node

def exposed (begun : List (Nat × Nat × Node)) : Node → Node
  | .around mark => ((begun.lookup mark).map Prod.snd).getD (.around mark)
  | .marked _ node => node
  | node => node

def keyLeaf (key : Node) : Linker Leaf := do
  match exposed (← get).begun key with
  | .scalar .value content => return .value (.text content)
  | exposedKey =>
      if Content.isScalarTag exposedKey.tag then
        scalarLeaf exposedKey.tag (← scalarPoints [] key)
      else throw .yaml

def placeOfPair (item : Node) : Linker Nat := do
  match exposed (← get).begun item with
  | .mapping _ [(key, held)] =>
      let keyPlace ← placeOf key
      let heldPlace ← placeOf held
      addPart (.tuple [keyPlace, heldPlace])
  | _ => throw .yaml

def putEntry (key : Leaf) (held : Nat) : List (Leaf × Nat) → List (Leaf × Nat)
  | [] => [(key, held)]
  | (first, old) :: rest =>
      if first.isSame key then (first, held) :: rest else (first, old) :: putEntry key held rest

/-- The keys of a mapping and the places of its values, with all that is merged into it. -/
def fillEntries (node : Node) (tag : Tag) (entries : List (Node × Node)) :
    Linker (List (Leaf × Nat)) := do
  match allEntries? (← get).begun entries with
  | none => throw .yaml
  | some (merged, own) =>
      if let .marked mark _ := node then
        modify fun links => { links with begun := links.begun.map fun entry =>
          if entry.1 = mark then (mark, entry.2.1, .mapping tag (merged ++ own)) else entry }
      let filled ← (merged ++ own).mapM fun (entry : Node × Node) => do
        return (← keyLeaf entry.1, ← placeOf entry.2)
      return filled.foldl (fun entries entry => putEntry entry.1 entry.2 entries) []

def fill (place : Nat) (node : Node) : Linker Unit := do
  match exposed [] node with
  | .sequence .sequence items => setPart place (.list (← items.mapM placeOf))
  | .sequence .orderedMapping items | .sequence .pairs items =>
      setPart place (.list (← items.mapM placeOfPair))
  | .mapping .mapping entries => setPart place (.map (← fillEntries node .mapping entries))
  | .mapping .set entries =>
      setPart place (.set ((← fillEntries node .set entries).map Prod.fst))
  | _ => throw .yaml

def fillAll : (fuel : Nat) → Linker Unit
  | 0 => throw .selfReference
  | fuel + 1 => do
      match (← get).waiting with
      | [] => return
      | (place, node) :: rest =>
          modify fun links => { links with waiting := rest }
          fill place node
          fillAll fuel

/-- The document of a root. `fuel` is the number of collections that can be filled. -/
def document (fuel : Nat) (root : Node) : Except Fault Document := do
  let linker : Linker Nat := do
    let place ← placeOf root
    fillAll fuel
    return place
  let (place, links) ← linker.run {}
  return .startingAt links.parts place

end Linking

/-- Reads a document; one without a node is nothing. -/
def load (text : String) : Except Fault Document := do
  match ← Node.ofText? text with
  | none => return .plain .null
  | some root =>
      if root.isTree then
        match Content.value 0 root with
        | .ok value => return .plain value
        | .error setback => .error setback.fault
      else Linking.document (Nat.pow 2 (tokens text).length) root

/-- Reads the value of a document, no part of which may hold itself. -/
def read (text : String) : Except Fault Value := do
  match (← load text).tree? with
  | some value => return value
  | none => .error .selfReference

end ThreatWatch.Yaml
