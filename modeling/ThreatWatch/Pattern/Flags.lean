import ThreatWatch.Pattern.Expression

/-! Flags of regular expressions: the settings under which a part of an expression
is read. -/

namespace ThreatWatch.Pattern

structure Flags where
  ignoreCase : Bool := true
  asciiOnly : Bool := false
  multiline : Bool := false
  dotAll : Bool := false
  verbose : Bool := false
  template : Bool := false
  unicode : Bool := false
  deriving DecidableEq, Repr

namespace Flags

def none : Flags where
  ignoreCase := false

def folding (flags : Flags) : Folding :=
  if !flags.ignoreCase then .exact else if flags.asciiOnly then .ascii else .unicode

def ofLetter? (letter : Char) : Option Flags :=
  match letter with
  | 'i' => some { none with ignoreCase := true }
  | 'm' => some { none with multiline := true }
  | 's' => some { none with dotAll := true }
  | 'x' => some { none with verbose := true }
  | 'a' => some { none with asciiOnly := true }
  | 't' => some { none with template := true }
  | 'u' => some { none with unicode := true }
  | _ => Option.none

def union (left right : Flags) : Flags where
  ignoreCase := left.ignoreCase || right.ignoreCase
  asciiOnly := left.asciiOnly || right.asciiOnly
  multiline := left.multiline || right.multiline
  dotAll := left.dotAll || right.dotAll
  verbose := left.verbose || right.verbose
  template := left.template || right.template
  unicode := left.unicode || right.unicode

def meets (left right : Flags) : Bool :=
  (left.ignoreCase && right.ignoreCase) || (left.asciiOnly && right.asciiOnly) ||
    (left.multiline && right.multiline) || (left.dotAll && right.dotAll) ||
    (left.verbose && right.verbose) || (left.template && right.template) ||
    (left.unicode && right.unicode)

/-- The flags inside a part that turns some on and others off. Naming an alphabet
replaces the one in force. -/
def inside (flags added removed : Flags) : Flags where
  ignoreCase := (flags.ignoreCase || added.ignoreCase) && !removed.ignoreCase
  asciiOnly := if added.asciiOnly || added.unicode then added.asciiOnly else flags.asciiOnly
  multiline := (flags.multiline || added.multiline) && !removed.multiline
  dotAll := (flags.dotAll || added.dotAll) && !removed.dotAll
  verbose := (flags.verbose || added.verbose) && !removed.verbose
  template := flags.template
  unicode := flags.unicode

end Flags

end ThreatWatch.Pattern
