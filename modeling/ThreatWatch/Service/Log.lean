import ThreatWatch.FileTree
import ThreatWatch.Text.Case
import ThreatWatch.Value

/-! The log of the service: its entries, the threshold from which they are
written, and the file they go to beside the output. -/

namespace ThreatWatch

inductive LogLevel where
  | info
  | warning
  | error
  deriving DecidableEq, Repr

namespace LogLevel

def name : LogLevel → String
  | .info => "INFO"
  | .warning => "WARNING"
  | .error => "ERROR"

def number : LogLevel → Nat
  | .info => 20
  | .warning => 30
  | .error => 40

end LogLevel

structure LogEntry where
  level : LogLevel
  message : String
  deriving DecidableEq, Repr

structure LogSettings where
  /-- The number from which levels are written. -/
  threshold : Nat := LogLevel.info.number
  /-- The path of the file that the log is written to as well. -/
  file : Option String := none
  deriving DecidableEq, Repr

namespace LogSettings

def thresholds : Table Nat := [
  ("CRITICAL", 50), ("FATAL", 50), ("ERROR", 40), ("WARNING", 30), ("WARN", 30), ("INFO", 20),
  ("DEBUG", 10), ("NOTSET", 0)]

/-- Names that are taken for other things than levels. -/
def reservedNames : Table Fault := [("BASIC_FORMAT", .unknownLevel), ("_STYLES", .wrongKind)]

/-- The threshold of a name in any letter case; a name without one leaves the
usual threshold. -/
def thresholdOf (name : String) : Except Fault Nat :=
  let name := Text.upper name
  match reservedNames.get? name with
  | some fault => .error fault
  | none => .ok ((thresholds.get? name).getD LogLevel.info.number)

/-! ## The file -/

/-- Where one more part of a path leads, unless out of the tree. -/
def advance? (place : List String) (part : String) : Option (List String) :=
  if part = "" ∨ part = "." then some place
  else if part = ".." then if place = [] then none else some place.dropLast
  else some (place ++ [part])

/-- The places that a path passes, from where it starts to where it ends, unless
it leaves the tree. -/
def places? (place : List String) : List String → Option (List (List String))
  | [] => some [place]
  | part :: rest => do return place :: (← places? (← advance? place part) rest)

/-- The file that a log is written to, by its plain path, unless it is outside
the tree. Missing directories on the way to it are made. -/
def fileAt? (tree : FileTree) (path : String) : Except Fault (Option String) :=
  if path.toList.contains '\x00' then .error .malformedPath
  else if path.toList.head? = some '/' then .ok none
  else
    match places? [] (Text.splitOn '/' path) with
    | none => .ok none
    | some places =>
        let directories := places.dropLast
        let target := places.getLast?.getD []
        let found (place : List String) := tree.find? (Text.join "/" place)
        if directories.any fun place => (found place).any (!·.isDirectory) then
          .error .notADirectory
        else if directories.contains target || (found target).any FileTree.isDirectory then
          .error .notAFile
        else .ok (some (Text.join "/" target))

def pathOf : Value → Except Fault String
  | .text path => .ok path
  | .bytes octets => .ok (FileTree.lenientText octets)
  | _ => .error .wrongKind

def filesIn (settings : LogSettings) (tree : FileTree) : Except Fault (List String) :=
  match settings.file with
  | some path => (fileAt? tree path).map Option.toList
  | none => .ok []

/-- The settings in the section of a configuration. The file is made before the
name of the threshold is looked up. -/
def ofSection (tree : FileTree) (entries : List (Value × Value)) : Except Fault LogSettings := do
  let name ← ((Value.lookup? entries (.text "level")).getD (.text "INFO")).shown
  let setting := Value.entry entries "file"
  let file ← if setting.isPresent then some <$> pathOf setting else pure none
  let _ ← filesIn { file := file } tree
  return { threshold := ← thresholdOf name, file := file }

def admits (settings : LogSettings) (entry : LogEntry) : Bool :=
  decide (settings.threshold ≤ entry.level.number)

end LogSettings

end ThreatWatch
