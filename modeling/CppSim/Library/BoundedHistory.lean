import Mathlib.Data.List.DropRight

/-!
# Bounded histories

A history keeps the newest items that were recorded and drops the oldest when it is full.
The item may be pushed before the size is checked or after it, with the same bound in the
check: then the one history keeps as many items as the bound, and the other one more.
-/

namespace BoundedHistory

variable {T : Type*} {items : List T} {item : T} {bound : ℕ}

/-- Push the item, then drop the oldest if there are more items than the bound. -/
def pushThenEvict (bound : ℕ) (items : List T) (item : T) : List T :=
  if bound < (items ++ [item]).length then (items ++ [item]).tail else items ++ [item]

/-- Drop the oldest if there are more items than the bound, then push the item. -/
def evictThenPush (bound : ℕ) (items : List T) (item : T) : List T :=
  (if bound < items.length then items.tail else items) ++ [item]

theorem rtake_of_length_le (h : items.length ≤ bound) : items.rtake bound = items := by
  rw [List.rtake, Nat.sub_eq_zero_of_le h, List.drop_zero]

theorem length_rtake : (items.rtake bound).length = min bound items.length := by
  rw [List.rtake, List.length_drop]
  omega

/-- Without the oldest of the newest items there is one less. -/
theorem tail_rtake_succ (h : bound < items.length) :
    (items.rtake (bound + 1)).tail = items.rtake bound := by
  rw [List.rtake, List.rtake, List.tail_drop]
  congr 1
  omega

theorem pushThenEvict_rtake :
    pushThenEvict bound (items.rtake bound) item = (items ++ [item]).rtake bound := by
  rw [pushThenEvict, ← List.rtake_concat_succ, length_rtake]
  split
  · rename_i hfull
    exact tail_rtake_succ (by omega)
  · rename_i hroom
    rw [rtake_of_length_le (by omega), rtake_of_length_le (by omega)]

theorem evictThenPush_rtake :
    evictThenPush bound (items.rtake (bound + 1)) item = (items ++ [item]).rtake (bound + 1) := by
  rw [evictThenPush, length_rtake, List.rtake_concat_succ]
  congr 1
  split
  · rename_i hfull
    exact tail_rtake_succ (by omega)
  · rename_i hroom
    rw [rtake_of_length_le (by omega), rtake_of_length_le (by omega)]

/-- A step that records an item or none: pushing first keeps as many items as the bound. -/
theorem elim_pushThenEvict (item? : Option T) :
    item?.elim (items.rtake bound) (pushThenEvict bound (items.rtake bound)) =
      (items ++ item?.toList).rtake bound := by
  cases item? with
  | none => simp
  | some item => exact pushThenEvict_rtake

/-- Dropping first keeps one more. -/
theorem elim_evictThenPush (item? : Option T) :
    item?.elim (items.rtake (bound + 1)) (evictThenPush bound (items.rtake (bound + 1))) =
      (items ++ item?.toList).rtake (bound + 1) := by
  cases item? with
  | none => rw [Option.toList_none, List.append_nil, Option.elim_none]
  | some item => exact evictThenPush_rtake

/-- One more item is too many as soon as there is one. -/
theorem rtake_succ_eq_iff : items.rtake (bound + 1) = items.rtake bound ↔ items.length ≤ bound := by
  constructor
  · intro h
    have hlength := congrArg List.length h
    rw [length_rtake, length_rtake] at hlength
    omega
  · intro h
    rw [rtake_of_length_le h, rtake_of_length_le (by omega)]

end BoundedHistory
