import ThreatWatch.Fault
import ThreatWatch.Text.Point

/-! Tokens of documents. Where reading meets a fault, the tokens end with a
token that holds it. -/

namespace ThreatWatch.Yaml

inductive Directive where
  | version (major minor : Nat)
  | handle (name expansion : String)
  | other
  deriving DecidableEq, Repr

inductive Token where
  | directive (content : Directive)
  | documentStart
  | documentEnd
  | streamEnd
  | blockSequenceStart
  | blockMappingStart
  | blockEnd
  | flowSequenceStart
  | flowSequenceEnd
  | flowMappingStart
  | flowMappingEnd
  | blockEntry
  | flowEntry
  | key
  | value
  | alias (name : String)
  | anchor (name : String)
  | tag (handle : Option String) (suffix : String)
  | scalar (content : String) (plain : Bool)
  /-- A scalar in quotes with code points that are no characters. -/
  | wide (points : List Text.Point)
  | broken (fault : Fault)
  deriving DecidableEq, Repr

def Token.ofPoints (points : List Text.Point) : Token :=
  match Text.ofPoints? points with
  | some content => .scalar content false
  | none => .wide points

end ThreatWatch.Yaml
