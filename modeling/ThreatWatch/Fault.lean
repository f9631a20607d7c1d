import ThreatWatch.Text.Basic
import ThreatWatch.Text.Quoted

/-! The ways in which the work can fail, and the wording of each. A rule fault
names what is wrong with one rule and may be tagged with the rule's id; the
other faults concern values, stored records and settings. -/

namespace ThreatWatch

/-- What is wrong with a rule. Values are given in the form in which the message
shows them. -/
inductive RuleCause where
  | emptyCondition
  | trailingTokens (tokens : List String)
  | endOfCondition
  | missingToken (expected : String)
  | unexpectedToken (expected found : String)
  | unbalancedParenthesis
  | unexpectedKeyword (token : String)
  | misplacedWildcard (token : String)
  | undefinedSelection (name : String)
  | countBelowOne (count : Int)
  | missingGroup (count : String)
  | malformedGroup (pattern : String)
  | emptyGroup (pattern : String)
  | emptySelection (name : String)
  | malformedSelection (name : String)
  | missingField (shownKey : String)
  | unknownModifier (modifier shownKey : String)
  | conflictingModifiers (modifiers : List String) (shownKey : String)
  | invalidPattern (pattern shownKey : String)
  | documentNotMapping (place : String)
  | missingTitle (place : String)
  | missingDetection (place : String)
  | missingCondition (place : String)
  | invalidLevel (shownLevel place : String)
  | invalidYaml (place : String)
  deriving DecidableEq, Repr

/-- The families of rule faults: of the document, of its condition and patterns,
and of the modifiers in its keys. -/
inductive RuleFamily where
  | document
  | parse
  | modifier
  deriving DecidableEq, Repr

def ruleLevels : List String := ["info", "low", "medium", "high", "critical"]

def quotedList (items : List String) : String :=
  "[" ++ Text.join ", " (items.map Text.quoted) ++ "]"

def quotedGroup (items : List String) : String :=
  "(" ++ Text.join ", " (items.map Text.quoted) ++ ")"

namespace RuleCause

def family : RuleCause → RuleFamily
  | .missingField _ | .unknownModifier _ _ | .conflictingModifiers _ _ => .modifier
  | .documentNotMapping _ | .missingTitle _ | .missingDetection _ | .missingCondition _
  | .invalidLevel _ _ | .invalidYaml _ => .document
  | _ => .parse

def message : RuleCause → String
  | .emptyCondition => "Empty condition"
  | .trailingTokens tokens => "Unexpected trailing tokens: " ++ quotedList tokens
  | .endOfCondition => "Unexpected end of condition"
  | .missingToken expected => "Expected " ++ Text.quoted expected ++ ", got end of condition"
  | .unexpectedToken expected found =>
      "Expected " ++ Text.quoted expected ++ ", got " ++ Text.quoted found
  | .unbalancedParenthesis => "Unbalanced ')'"
  | .unexpectedKeyword token => "Unexpected keyword " ++ Text.quoted token
  | .misplacedWildcard token =>
      "Wildcard " ++ Text.quoted token ++ " is only allowed after 'of'"
  | .undefinedSelection name =>
      "Condition references undefined selection " ++ Text.quoted name
  | .countBelowOne count => "Quantifier count must be at least 1, got " ++ toString count
  | .missingGroup count => "Missing selection group after '" ++ count ++ " of'"
  | .malformedGroup pattern =>
      "Quantifier target " ++ Text.quoted pattern ++
        " must be 'them' or a prefix ending in '*'"
  | .emptyGroup pattern =>
      "Selection group " ++ Text.quoted pattern ++ " matches no selections"
  | .emptySelection name => "Selection " ++ Text.quoted name ++ " is an empty list"
  | .malformedSelection name =>
      "Selection " ++ Text.quoted name ++ " must be a mapping or a list of mappings"
  | .missingField shownKey => "Selection key " ++ shownKey ++ " has no field name"
  | .unknownModifier modifier shownKey =>
      "Unknown modifier " ++ Text.quoted modifier ++ " in " ++ shownKey
  | .conflictingModifiers modifiers shownKey =>
      "Conflicting modifiers " ++ quotedList modifiers ++ " in " ++ shownKey
  | .invalidPattern pattern shownKey =>
      "Invalid regex " ++ Text.quoted pattern ++ " in " ++ shownKey
  | .documentNotMapping place => "Rule document in " ++ place ++ " is not a mapping"
  | .missingTitle place => "Missing or invalid required field 'title' in " ++ place
  | .missingDetection place => "Missing or invalid required field 'detection' in " ++ place
  | .missingCondition place =>
      "Missing or invalid required field 'detection.condition' in " ++ place
  | .invalidLevel shownLevel place =>
      "Invalid or missing level " ++ shownLevel ++ " in " ++ place ++ " (expected one of " ++
        quotedGroup ruleLevels ++ ")"
  | .invalidYaml place => "Invalid YAML in " ++ place

end RuleCause

structure RuleFault where
  cause : RuleCause
  ruleId : Option String
  deriving DecidableEq, Repr

namespace RuleFault

def message (fault : RuleFault) : String :=
  match fault.ruleId with
  | some ruleId =>
      if ruleId = "" then fault.cause.message
      else "rule " ++ ruleId ++ ": " ++ fault.cause.message
  | none => fault.cause.message

end RuleFault

inductive Fault where
  | rule (fault : RuleFault)
  /-- A count made of digits that are no decimal digits. -/
  | unreadableCount
  | tooManyDigits
  | impossibleDate
  | impossibleNumber
  | yearOutOfRange
  | undefinedNumber
  | unrecognizedTimestamp (shown : String)
  | invalidSeverity (shown : String)
  | metadataNotScalar (shownKey kind : String)
  | invalidSourceType (shown : String)
  | invalidCampaignType (shown : String)
  | invalidStatus (shown : String)
  | invalidStatusFilter (shown : String)
  | settingNotPositive (setting shown : String)
  | settingsNotMapping (path kind : String)
  | incompatibleFlags
  | integerTooLarge
  | repetitionTooLarge
  | pointTooLarge
  | epochOutOfReach
  | spanTooLarge
  | dateOutOfRange
  | yearBeyondClock
  | mixedOffsets
  | notOrdered
  | notANumber
  | wrongKind
  | noSuchOperation
  /-- No file, or one that cannot be opened. -/
  | missingFile
  /-- A directory where a file is needed. -/
  | notAFile
  /-- A file where a directory is needed. -/
  | notADirectory
  | malformedPath
  /-- Octets that are part of no character, or code points that no octets stand for. -/
  | undecodableText
  | unknownLevel
  /-- A place for the store that is no database in a file or in memory. -/
  | unknownDatabase
  /-- A request to stop. -/
  | interrupted
  /-- A document that is not well formed. -/
  | yaml
  /-- A collection that holds itself, where it would have to be gone through to its end. -/
  | selfReference
  /-- A number without a digit. -/
  | emptyNumber
  | unknownTruthValue
  | scanInProgress
  | storeFailure (message : String)
  deriving DecidableEq, Repr

namespace Fault

def ofCause (cause : RuleCause) : Fault :=
  .rule ⟨cause, none⟩

def sourceTypes : List String := ["guard", "trap", "external_feed"]

def campaignStatuses : List String := ["active", "resolved", "false_positive"]

def message? : Fault → Option String
  | .rule fault => some fault.message
  | .unrecognizedTimestamp shown => some ("Unrecognized timestamp: " ++ shown)
  | .invalidSeverity shown => some (shown ++ " is not a valid Severity")
  | .metadataNotScalar shownKey kind =>
      some ("metadata[" ++ shownKey ++ "] must be a scalar, got " ++ kind)
  | .invalidSourceType shown =>
      some ("Invalid source_type " ++ shown ++ ", expected one of " ++ quotedGroup sourceTypes)
  | .invalidCampaignType shown => some ("Invalid campaign_type " ++ shown)
  | .invalidStatus shown => some ("Invalid status " ++ shown)
  | .invalidStatusFilter shown =>
      some ("Invalid campaign status " ++ shown ++ ", expected one of " ++
        quotedGroup campaignStatuses)
  | .settingNotPositive setting shown =>
      some ("correlation." ++ setting ++ " must be a positive number, got " ++ shown)
  | .settingsNotMapping path kind =>
      some ("Config file " ++ path ++ " must contain a mapping, got " ++ kind)
  | .scanInProgress => some "A campaign scan is already running"
  | .storeFailure message => some message
  | _ => none

end Fault

end ThreatWatch
