import ThreatWatch.Text.Case

/-! Letters compared without regard to case, one character at a time. Two
characters agree when they have the same simple lower form, or when their lower
forms are variants of one letter. -/

namespace ThreatWatch.Pattern

/-- The lower-case letters that have other lower-case letters as variants. -/
def letterVariants : List (Nat × List Nat) := [
  (0x69, [0x131]), (0x73, [0x17F]), (0xB5, [0x3BC]), (0x131, [0x69]), (0x17F, [0x73]),
  (0x345, [0x3B9, 0x1FBE]), (0x390, [0x1FD3]), (0x3B0, [0x1FE3]), (0x3B2, [0x3D0]),
  (0x3B5, [0x3F5]), (0x3B8, [0x3D1]), (0x3B9, [0x345, 0x1FBE]), (0x3BA, [0x3F0]),
  (0x3BC, [0xB5]), (0x3C0, [0x3D6]), (0x3C1, [0x3F1]), (0x3C2, [0x3C3]),
  (0x3C3, [0x3C2]), (0x3C6, [0x3D5]), (0x3D0, [0x3B2]), (0x3D1, [0x3B8]),
  (0x3D5, [0x3C6]), (0x3D6, [0x3C0]), (0x3F0, [0x3BA]), (0x3F1, [0x3C1]),
  (0x3F5, [0x3B5]), (0x432, [0x1C80]), (0x434, [0x1C81]), (0x43E, [0x1C82]),
  (0x441, [0x1C83]), (0x442, [0x1C84, 0x1C85]), (0x44A, [0x1C86]), (0x463, [0x1C87]),
  (0x1C80, [0x432]), (0x1C81, [0x434]), (0x1C82, [0x43E]), (0x1C83, [0x441]),
  (0x1C84, [0x442, 0x1C85]), (0x1C85, [0x442, 0x1C84]), (0x1C86, [0x44A]),
  (0x1C87, [0x463]), (0x1C88, [0xA64B]), (0x1E61, [0x1E9B]), (0x1E9B, [0x1E61]),
  (0x1FBE, [0x345, 0x3B9]), (0x1FD3, [0x390]), (0x1FE3, [0x3B0]), (0xA64B, [0x1C88]),
  (0xFB05, [0xFB06]), (0xFB06, [0xFB05])
  ]

def variantsOf (point : Nat) : List Nat :=
  (letterVariants.lookup point).getD []

def lowerPoint (point : Nat) : Nat :=
  Text.shiftPoint point Text.lowerRuns

def upperPoint (point : Nat) : Nat :=
  match Text.upperExpansions.lookup point with
  | some (first :: _) => first
  | _ => Text.shiftPoint point Text.upperRuns

def isCasedPoint (point : Nat) : Bool :=
  let lower := lowerPoint point
  lower != point || upperPoint lower != lower

/-- The lower forms that agree with a letter. -/
def lowerForms (point : Nat) : List Nat :=
  let lower := lowerPoint point
  lower :: variantsOf lower

/-- Whether an actual code point agrees with the expected one; without case,
only the same code point does. -/
def pointsAgree (expected actual : Nat) : Bool :=
  if isCasedPoint expected then (lowerForms expected).contains (lowerPoint actual)
  else expected == actual

def lowerSources (point : Nat) : List Nat :=
  let shifted := Text.lowerRuns.filterMap fun run =>
    let source := (point : Int) - run.shift
    if (run.first : Int) ≤ source ∧ source ≤ run.last ∧ lowerPoint source.toNat = point then
      some source.toNat
    else none
  if lowerPoint point = point then point :: shifted else shifted

example : pointsAgree 0x4B 0x212A = true := by decide +kernel

end ThreatWatch.Pattern
