import ThreatWatch.Number.Binary64

/-! Amounts: the numbers that settings and measurements give, an integer of any
size or a double. A count is compared with an amount exactly, without rounding
either. -/

namespace ThreatWatch

inductive Amount where
  | whole (number : Int)
  | real (number : Binary64)
  deriving DecidableEq, Repr

namespace Amount

/-- The order of an amount and an integer; the undefined number has none. -/
def compareInt? (amount : Amount) (integer : Int) : Option Ordering :=
  match amount with
  | .whole number => some (compare number integer)
  | .real number => number.compareInt? integer

def atMostZero (amount : Amount) : Bool :=
  match amount.compareInt? 0 with
  | some .gt | none => false
  | some _ => true

def exceeds (amount : Amount) (count : Nat) : Bool :=
  amount.compareInt? count == some .gt

theorem exceeds_whole (number : Int) (count : Nat) :
    (whole number).exceeds count = true ↔ (count : Int) < number := by
  simp [exceeds, compareInt?, Int.compare_eq_gt]

@[simp] theorem exceeds_undefined (count : Nat) : (real .undefined).exceeds count = false := rfl

theorem exceeds_of_le {amount : Amount} {small large : Nat} (atMost : small ≤ large)
    (exceeded : amount.exceeds large = true) : amount.exceeds small = true := by
  have ordered : (small : Int) ≤ large := Int.ofNat_le.mpr atMost
  cases amount with
  | whole number =>
      rw [exceeds_whole] at exceeded ⊢
      exact Int.lt_of_le_of_lt ordered exceeded
  | real number =>
      cases number with
      | finite negative units =>
          simp only [exceeds, compareInt?, Binary64.compareInt?, Option.some_beq_some,
            beq_iff_eq, Int.compare_eq_gt] at exceeded ⊢
          have scaled := Int.mul_le_mul_of_nonneg_right ordered
            (Int.natCast_nonneg Binary64.unitsPerOne)
          exact Int.lt_of_le_of_lt scaled exceeded
      | infinite negative => exact exceeded
      | undefined => exact exceeded

end Amount

end ThreatWatch
