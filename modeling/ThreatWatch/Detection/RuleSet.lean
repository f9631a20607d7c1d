import ThreatWatch.Detection.Settings
import ThreatWatch.Rule.Bound
import ThreatWatch.Rule.Directory

/-! Rule sets: all rules that take part in the detection, bound once. Rules that
cannot be read or bound are reported and left out; the others keep their
order. -/

namespace ThreatWatch

structure RuleSet where
  rules : List BoundRule := []
  errors : List String := []
  /-- How many rules were read. -/
  scanned : Nat := 0
  /-- How many of them the settings left out. -/
  skipped : Nat := 0

structure Alert where
  found : RuleMatch
  event : SecurityEvent

def Alert.record (alert : Alert) : Table Value :=
  (alert.found.record.put "event_id" (.text alert.event.id)).put "event_host"
    (.text alert.event.host)

namespace RuleSet

/-! ## Loading -/

/-- The rules of one root. What is no path leads to no directory. -/
def loadRoot (tree : FileTree) : Value → Except Fault Rule.Collection
  | .text path => Rule.ofDirectory tree path true
  | .int _ | .bool _ | .bytes _ => .ok {}
  | _ => .error .wrongKind

def loadRoots (tree : FileTree) : (roots : List Value) → Except Fault Rule.Collection
  | [] => .ok {}
  | root :: rest => do
      let first ← if root.isPresent then loadRoot tree root else pure {}
      let others ← loadRoots tree rest
      return ⟨first.rules ++ others.rules, first.errors ++ others.errors⟩

def placeOf (rule : Rule) : String :=
  match rule.file with
  | none | some "" => rule.id
  | some path => path

def add (settings : DetectionSettings) (set : RuleSet) (rule : Rule) : Except Fault RuleSet := do
  let set := { set with scanned := set.scanned + 1 }
  if !(← settings.accepts rule) then return { set with skipped := set.skipped + 1 }
  else
    match BoundRule.ofRule rule with
    | .ok bound => return { set with rules := set.rules ++ [bound] }
    | .error (.rule fault) =>
        return { set with errors := set.errors ++ [placeOf rule ++ ": " ++ fault.message] }
    | .error fault => .error fault

def load (tree : FileTree) (settings : DetectionSettings) (more : List Rule) :
    Except Fault RuleSet := do
  let loaded ← loadRoots tree settings.roots
  (loaded.rules ++ more).foldlM (add settings) { errors := loaded.errors }

/-! ## Matching -/

def matchEvent (set : RuleSet) (event : SecurityEvent) : Except Fault (List RuleMatch) :=
  BoundRule.matchAll set.rules event

/-- The alerts of one event; a rule that cannot be compared raises none. -/
def alertsOf (set : RuleSet) (event : SecurityEvent) : List Alert :=
  set.rules.filterMap fun bound =>
    match bound.matchEvent event with
    | .ok (some found) => some ⟨found, event⟩
    | _ => none

def evaluate (set : RuleSet) (events : List SecurityEvent) : List Alert :=
  events.flatMap set.alertsOf

end RuleSet

end ThreatWatch
