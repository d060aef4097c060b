import Mathlib.Algebra.GroupWithZero.Nat
import TaskCoordination.Number

/-!
# Sums within a limit

Of the numbers that are added up one by one only the total matters (`sumWithin_eq`): an overflow on the way is an
overflow at the end.
-/

namespace TaskCoordination

theorem addWithin_of_le {limit a b : Nat} (h : a + b ≤ limit) : addWithin limit a b = .ok (a + b) :=
  if_pos h

private theorem foldlM_addWithin (limit : Nat) (xs : List Nat) (a : Nat) (ha : a ≤ limit) :
    xs.foldlM (addWithin limit) a =
      if a + xs.sum ≤ limit then .ok (a + xs.sum) else .error .addition := by
  induction xs generalizing a with
  | nil => simp [ha, pure, Except.pure]
  | cons x xs ih =>
    rw [List.foldlM_cons]
    by_cases hx : a + x ≤ limit
    · simp only [addWithin, hx, if_true, bind, Except.bind]
      rw [ih (a + x) hx, List.sum_cons, Nat.add_assoc]
    · have : ¬ a + (x + xs.sum) ≤ limit := by omega
      simp [addWithin, hx, this, bind, Except.bind]

theorem sumWithin_eq (limit : Nat) (xs : List Nat) :
    sumWithin limit xs = if xs.sum ≤ limit then .ok xs.sum else .error .addition := by
  rw [sumWithin, foldlM_addWithin limit xs 0 (Nat.zero_le _), Nat.zero_add]

end TaskCoordination
