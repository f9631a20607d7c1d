import ThreatWatch.Rule.Basic
import ThreatWatch.Text.Case

/-! Settings of the detection: where the rules are, and which of them take part.
A filter holds names in lower case; one that holds none restricts nothing. -/

namespace ThreatWatch

/-- What a value goes through when it is taken item by item: the items of a
collection, the keys of a mapping, the characters of a text. -/
def Value.iterated : Value → Except Fault (List Value)
  | .list items | .tuple items | .set items => .ok items
  | .map entries | .sealed entries => .ok (entries.map Prod.fst)
  | .text content => .ok (content.toList.map fun character => .text (String.singleton character))
  | .bytes octets => .ok (octets.map fun octet => .int octet.toNat)
  | _ => .error .wrongKind

/-- The names that a filter lets pass; without one all names pass. -/
abbrev NameFilter := Option (List String)

namespace NameFilter

def addName (name : String) : List String → List String
  | [] => [name]
  | first :: rest =>
      if name = first then first :: rest
      else if Text.precedes name first then name :: first :: rest
      else first :: addName name rest

def ofValue (setting : Value) : Except Fault NameFilter := do
  if !setting.isPresent then return none
  else
    let names ← (← setting.iterated).mapM fun item => do return Text.trim (← item.shown)
    let kept := (names.filter fun name => name ≠ "").map Text.lower
    return some (kept.foldl (fun names name => addName name names) [])

def restricts (filter : NameFilter) : Bool :=
  filter.any fun names => !names.isEmpty

def nameOf (value : Value) : Except Fault String := do
  let name := Text.lower (Text.trim (← value.shownOrEmpty))
  return if name = "" then "unknown" else name

def passes (filter : NameFilter) (value : Value) : Except Fault Bool := do
  if filter.restricts then return (filter.getD []).contains (← nameOf value) else return true

end NameFilter

structure DetectionSettings where
  /-- The directories that rules are read from. -/
  roots : List Value := []
  severities : NameFilter := none
  products : NameFilter := none
  categories : NameFilter := none
  includesDeprecated : Bool := false

namespace DetectionSettings

/-- The directories of a list, and one more that is not yet among them. -/
def rootsOf (several single : Value) : Except Fault (List Value) := do
  let roots ← if several.isPresent then several.iterated else pure []
  if single.isPresent && !roots.any single.same then return roots ++ [single] else return roots

def ofEntries (entries : List (Value × Value)) : Except Fault DetectionSettings := do
  let setting := Value.entry entries
  return {
    roots := ← rootsOf (setting "rules_paths") (setting "rules_path")
    severities := ← NameFilter.ofValue (setting "severity_filter")
    products := ← NameFilter.ofValue (setting "enabled_products")
    categories := ← NameFilter.ofValue (setting "enabled_categories")
    includesDeprecated := (setting "include_deprecated").isPresent }

def ofValue : Value → Except Fault DetectionSettings
  | .map entries => ofEntries entries
  | _ => .error .noSuchOperation

def accepts (settings : DetectionSettings) (rule : Rule) : Except Fault Bool := do
  if rule.status = .deprecated && !settings.includesDeprecated then return false
  else if !(← settings.severities.passes (.text rule.level)) then return false
  else if !(← settings.products.passes rule.logSource.product) then return false
  else settings.categories.passes rule.logSource.category

end DetectionSettings

end ThreatWatch
