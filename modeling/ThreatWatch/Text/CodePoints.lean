/-! Classes of characters. A class is the sorted list of the code points at
which membership changes: it holds from the first up to the second, from the
third up to the fourth, and so on. Because the list is sorted, a scan stops at
the first switch beyond the character, so the common characters are decided by
a few comparisons. -/

namespace ThreatWatch

def insideSwitches (point : Nat) : List Nat → Bool
  | [] => false
  | first :: rest => if first ≤ point then !insideSwitches point rest else false

structure CodePoints where
  switches : List Nat

namespace CodePoints

def contains (points : CodePoints) (character : Char) : Bool :=
  insideSwitches character.toNat points.switches

end CodePoints

end ThreatWatch
