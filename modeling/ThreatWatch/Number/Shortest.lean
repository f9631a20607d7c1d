import ThreatWatch.Number.Binary64

/-! Shortest decimals. A double is written with the fewest digits that read back
as the same double; of two such decimals of that length the nearer one is
taken, and the even one of two equally near. -/

namespace ThreatWatch

structure ShortDecimal where
  digits : Nat
  exponent : Int
  deriving DecidableEq, Repr, Inhabited

/-- How a decimal is laid out: from which to below which power of ten the
positional form is used, and how the exponent is written otherwise. -/
structure DecimalLayout where
  leastPositional : Int
  positionalLimit : Int
  exponentMark : Char
  exponentWidth : Nat
  infinityText : String
  undefinedText : String

namespace ShortDecimal

def digitList (number : Nat) : List Char := Nat.toDigits 10 number

/-- The power of ten just above a positive quotient. -/
def magnitude (numerator denominator : Nat) : Int :=
  let estimate : Int := (digitList numerator).length - (digitList denominator).length
  let reached :=
    if 0 ≤ estimate then decide (denominator * Nat.pow 10 estimate.toNat ≤ numerator)
    else decide (denominator ≤ numerator * Nat.pow 10 (-estimate).toNat)
  if reached then estimate + 1 else estimate

def scaled (numerator denominator : Nat) (exponent : Int) : Nat × Nat :=
  if 0 ≤ exponent then (numerator, denominator * Nat.pow 10 exponent.toNat)
  else (numerator * Nat.pow 10 (-exponent).toNat, denominator)

def readsBack (units : Nat) (candidate : ShortDecimal) : Bool :=
  Binary64.ofDecimal false candidate.digits candidate.exponent == .finite false units

/-- The candidate on the grid of one power of ten, if a neighbour of the number
on that grid reads back. -/
def onGrid? (units : Nat) (exponent : Int) : Option ShortDecimal :=
  let (numerator, denominator) := scaled units Binary64.unitsPerOne exponent
  let below := numerator / denominator
  let nearer := roundHalfEven numerator denominator
  let farther := if nearer = below then below + 1 else below
  if readsBack units ⟨nearer, exponent⟩ then some ⟨nearer, exponent⟩
  else if readsBack units ⟨farther, exponent⟩ then some ⟨farther, exponent⟩
  else none

def search (units : Nat) (top : Int) : (remaining : Nat) → (length : Nat) → ShortDecimal
  | 0, length =>
      let (numerator, denominator) := scaled units Binary64.unitsPerOne (top - length)
      ⟨roundHalfEven numerator denominator, top - length⟩
  | remaining + 1, length =>
      match onGrid? units (top - length) with
      | some found => found
      | none => search units top remaining (length + 1)

def ofUnits (units : Nat) : ShortDecimal :=
  if units = 0 then ⟨0, 0⟩
  else search units (magnitude units Binary64.unitsPerOne) 16 1

def dropZeros (digits : List Char) : List Char :=
  (digits.reverse.dropWhile (· == '0')).reverse

def normalized (decimal : ShortDecimal) : List Char × Int :=
  if decimal.digits = 0 then (['0'], 0)
  else
    let digits := digitList decimal.digits
    (dropZeros digits, decimal.exponent + (digits.length : Int) - 1)

def padded (width : Nat) (number : Nat) : List Char :=
  let digits := digitList number
  List.replicate (width - digits.length) '0' ++ digits

def positional (digits : List Char) (exponent : Int) : List Char :=
  if exponent < 0 then
    '0' :: '.' :: List.replicate ((-exponent).toNat - 1) '0' ++ digits
  else
    let count := exponent.toNat + 1
    let whole := digits.take count ++ List.replicate (count - digits.length) '0'
    let fraction := digits.drop count
    whole ++ '.' :: (if fraction.isEmpty then ['0'] else fraction)

def scientific (layout : DecimalLayout) (digits : List Char) (exponent : Int) : List Char :=
  let mantissa :=
    match digits with
    | [] => []
    | [digit] => [digit]
    | digit :: rest => digit :: '.' :: rest
  mantissa ++ layout.exponentMark :: (if exponent < 0 then '-' else '+') ::
    padded layout.exponentWidth exponent.natAbs

def written (layout : DecimalLayout) (decimal : ShortDecimal) : List Char :=
  let (digits, exponent) := decimal.normalized
  if layout.leastPositional ≤ exponent ∧ exponent < layout.positionalLimit then
    positional digits exponent
  else scientific layout digits exponent

end ShortDecimal

namespace Binary64

def written (layout : DecimalLayout) : Binary64 → String
  | .finite negative units =>
      String.ofList ((if negative then ['-'] else []) ++
        (ShortDecimal.ofUnits units).written layout)
  | .infinite negative => (if negative then "-" else "") ++ layout.infinityText
  | .undefined => layout.undefinedText

end Binary64

end ThreatWatch
