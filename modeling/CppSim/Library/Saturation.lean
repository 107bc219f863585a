import Mathlib.Algebra.Order.BigOperators.Group.List
import Mathlib.Algebra.Order.Group.Defs
import Mathlib.Tactic.Abel

/-!
# Saturating sums

Adding nonnegative amounts one at a time, and cutting every partial sum off at a cap,
gives the sum of all amounts cut off once.
-/

namespace Saturation

variable {α : Type*} [AddCommMonoid α] [LinearOrder α] [IsOrderedAddMonoid α] {cap total x : α}

/-- One cut-off step after another. -/
theorem min_add_min (hx : 0 ≤ x) : min cap (min cap total + x) = min cap (total + x) := by
  rcases le_total cap total with hfull | hroom
  · have hadd : cap ≤ cap + x := le_add_of_nonneg_right hx
    rw [min_eq_left hfull, min_eq_left hadd, min_eq_left (hfull.trans (le_add_of_nonneg_right hx))]
  · rw [min_eq_right hroom]

/-- A cut-off sum of nonnegative amounts after one more. -/
theorem min_sum_snoc (amounts : List α) (hx : 0 ≤ x) :
    min cap ((amounts ++ [x]).sum) = min cap (min cap amounts.sum + x) := by
  rw [List.sum_append, List.sum_singleton, min_add_min hx]

end Saturation
