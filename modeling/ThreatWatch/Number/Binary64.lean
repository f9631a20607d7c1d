/-! Double-precision numbers. A finite one is a sign and a count of the
smallest positive double, 2 to the power of -1074; comparing magnitudes is then
comparing natural numbers, and every operation is the exact result brought back
to the grid: the nearest multiple of a step that leaves at most 53 significant
bits, a tie going to the even multiple. -/

namespace ThreatWatch

inductive Binary64 where
  | finite (negative : Bool) (units : Nat)
  | infinite (negative : Bool)
  | undefined
  deriving DecidableEq, Repr, Inhabited

/-! ## Rounding -/

/-- The quotient rounded to the nearest integer, a half going to the even
one. -/
def roundHalfEven (numerator denominator : Nat) : Nat :=
  let quotient := numerator / denominator
  let twice := 2 * (numerator % denominator)
  if twice < denominator then quotient
  else if denominator < twice then quotient + 1
  else quotient + quotient % 2

namespace Binary64

def unitsPerOne : Nat := Nat.pow 2 1074

/-- The least number of units that is no longer finite. -/
def unitsLimit : Nat := Nat.pow 2 2098

/-- The distance between neighbouring doubles at a magnitude. -/
def stepAt (units : Nat) : Nat := Nat.pow 2 (units.log2 - 52)

def nearestUnits (numerator denominator : Nat) : Nat :=
  let step := stepAt (numerator / denominator)
  roundHalfEven numerator (denominator * step) * step

def ofUnits (negative : Bool) (units : Nat) : Binary64 :=
  if units < unitsLimit then .finite negative units else .infinite negative

def ofRatio (negative : Bool) (numerator denominator : Nat) : Binary64 :=
  ofUnits negative (nearestUnits (numerator * unitsPerOne) denominator)

def zero : Binary64 := .finite false 0

def isFinite : Binary64 → Bool
  | .finite _ _ => true
  | _ => false

def finite? (number : Binary64) : Option Binary64 :=
  if number.isFinite then some number else none

def ofInt? (number : Int) : Option Binary64 :=
  finite? (ofRatio (decide (number < 0)) number.natAbs 1)

def ofInt (number : Int) : Binary64 :=
  ofRatio (decide (number < 0)) number.natAbs 1

/-- The double nearest to `digits` times a power of ten. Since a power of two has
between 3/10 and 4/13 as many decimal digits as its exponent, magnitudes far
outside the range of doubles are decided by their size alone. -/
def ofDecimal (negative : Bool) (digits : Nat) (exponent : Int) : Binary64 :=
  if digits = 0 then .finite negative 0
  else if ((digits.log2 * 3 / 10 : Nat) : Int) + exponent > 310 then .infinite negative
  else if (((digits.log2 + 1) * 4 / 13 + 1 : Nat) : Int) + exponent < -330 then
    .finite negative 0
  else if 0 ≤ exponent then ofRatio negative (digits * Nat.pow 10 exponent.toNat) 1
  else ofRatio negative digits (Nat.pow 10 (-exponent).toNat)

/-! ## Reading a double -/

def isZero : Binary64 → Bool
  | .finite _ units => units == 0
  | _ => false

def signedUnits? : Binary64 → Option Int
  | .finite negative units => some (if negative then -(units : Int) else units)
  | _ => none

/-- Whether the number is finite and has no fractional part. -/
def isInteger : Binary64 → Bool
  | .finite _ units => units % unitsPerOne == 0
  | _ => false

def withSign (negative : Bool) (magnitude : Nat) : Int :=
  if negative then -(magnitude : Int) else magnitude

theorem natAbs_withSign (negative : Bool) (magnitude : Nat) :
    (withSign negative magnitude).natAbs = magnitude := by
  cases negative <;> simp [withSign]

def truncate? : Binary64 → Option Int
  | .finite negative units => some (withSign negative (units / unitsPerOne))
  | _ => none

def round? : Binary64 → Option Int
  | .finite negative units => some (withSign negative (roundHalfEven units unitsPerOne))
  | _ => none

def fraction : Binary64 → Binary64
  | .finite negative units => .finite negative (units % unitsPerOne)
  | .infinite negative => .finite negative 0
  | .undefined => .undefined

/-! ## Order -/

/-- A position on the extended line that orders doubles other than the
undefined one. -/
def rank? : Binary64 → Option Int
  | .finite negative units => some (withSign negative units)
  | .infinite negative => some (withSign negative unitsLimit)
  | .undefined => none

def lessThan (left right : Binary64) : Bool :=
  match left.rank?, right.rank? with
  | some low, some high => decide (low < high)
  | _, _ => false

def atMost (left right : Binary64) : Bool :=
  match left.rank?, right.rank? with
  | some low, some high => decide (low ≤ high)
  | _, _ => false

def compareInt? (number : Binary64) (integer : Int) : Option Ordering :=
  match number with
  | .finite negative units => some (compare (withSign negative units) (integer * unitsPerOne))
  | .infinite negative => some (if negative then .lt else .gt)
  | .undefined => none

/-! ## Arithmetic -/

def negate : Binary64 → Binary64
  | .finite negative units => .finite (!negative) units
  | .infinite negative => .infinite (!negative)
  | .undefined => .undefined

def ofSigned (number : Int) (denominator : Nat) (negativeZero : Bool) : Binary64 :=
  if number = 0 then .finite negativeZero 0
  else ofUnits (decide (number < 0)) (nearestUnits number.natAbs denominator)

def add : Binary64 → Binary64 → Binary64
  | .finite left first, .finite right second =>
      ofSigned (withSign left first + withSign right second) 1 (left && right)
  | .finite _ _, .infinite negative => .infinite negative
  | .infinite negative, .finite _ _ => .infinite negative
  | .infinite left, .infinite right => if left = right then .infinite left else .undefined
  | _, _ => .undefined

def multiply : Binary64 → Binary64 → Binary64
  | .finite left first, .finite right second =>
      ofUnits (left != right) (nearestUnits (first * second) unitsPerOne)
  | .finite left first, .infinite right =>
      if first = 0 then .undefined else .infinite (left != right)
  | .infinite left, .finite right second =>
      if second = 0 then .undefined else .infinite (left != right)
  | .infinite left, .infinite right => .infinite (left != right)
  | _, _ => .undefined

def divideBy (number : Binary64) (divisor : Nat) : Binary64 :=
  match number with
  | .finite negative units => ofUnits negative (nearestUnits units divisor)
  | other => other

example : ofRatio false 1 1 = .finite false unitsPerOne := by decide +kernel
example : ofDecimal false 1 400 = .infinite false := by decide +kernel
example : ofInt? 9007199254740993 = ofInt? 9007199254740992 := by decide +kernel

end Binary64

end ThreatWatch
