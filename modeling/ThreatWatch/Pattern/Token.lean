/-! Tokens of regular expressions: a backslash and the character after it are one
token, every other character is one by itself. -/

namespace ThreatWatch.Pattern

inductive PatternFault where
  | malformed
  | repetitionTooLarge
  | pointTooLarge
  | numeralTooLong
  | incompatibleFlags
  deriving DecidableEq, Repr

inductive PatternToken where
  | plain (character : Char)
  | escaped (character : Char)
  /-- A backslash at the end of the expression. -/
  | dangling
  deriving DecidableEq, Repr

namespace PatternToken

def scan : List Char → List PatternToken
  | [] => []
  | '\\' :: [] => [.dangling]
  | '\\' :: character :: rest => .escaped character :: scan rest
  | character :: rest => .plain character :: scan rest

def characters : PatternToken → List Char
  | .plain character => [character]
  | .escaped character => ['\\', character]
  | .dangling => ['\\']

end PatternToken

end ThreatWatch.Pattern
