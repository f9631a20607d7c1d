/-! Grouping of lists. The groups of a list under a key come in the order in
which their keys first occur, and each keeps the order of the list. -/

namespace ThreatWatch

variable {α : Type u} {κ : Type v} [BEq κ]

def groupsBy (key : α → κ) (items : List α) : List (κ × List α) :=
  (items.map key).eraseDups.map fun name => (name, items.filter fun item => key item == name)

/-- The items that follow the first and are still near it, and what comes
after them; the rest is cut in the same way. -/
def runsFrom (near : α → α → Bool) : List α → List (List α)
  | [] => []
  | first :: rest =>
      (first :: rest.takeWhile (near first)) :: runsFrom near (rest.dropWhile (near first))
termination_by items => items.length
decreasing_by
  simpa using Nat.lt_succ_of_le (List.dropWhile_sublist _).length_le

@[simp] theorem runsFrom_nil (near : α → α → Bool) : runsFrom near [] = [] := by
  simp [runsFrom]

theorem runsFrom_cons (near : α → α → Bool) (first : α) (rest : List α) :
    runsFrom near (first :: rest) =
      (first :: rest.takeWhile (near first)) :: runsFrom near (rest.dropWhile (near first)) := by
  rw [runsFrom]

theorem flatten_runsFrom (near : α → α → Bool) (items : List α) :
    (runsFrom near items).flatten = items := by
  fun_induction runsFrom near items with
  | case1 => rfl
  | case2 first rest induction => simp [induction, List.takeWhile_append_dropWhile]

end ThreatWatch
