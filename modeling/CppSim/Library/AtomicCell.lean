import Mathlib.Data.List.Basic
import Mathlib.Order.Basic
import Mathlib.Tactic.Common

/-!
# Atomic objects in relaxed order

An `AtomicCell` is an atomic object that is read and written in relaxed order.  All threads agree
on the order in which it takes its values, but on no more: a load may return any of them, an old
one too, and so may a compare-exchange that fails.  A read-modify-write acts on the last value
and puts the new one behind it.

A cell that is only ever raised has increasing values (`AtomicCell.Increasing`).  Then no old
value is above the last one, which is what a loop that raises the cell relies on.
-/

/-- An atomic object: the values it had, and the one it has. -/
structure AtomicCell (α : Type*) where
  earlier : List α
  last : α

namespace AtomicCell

variable {α : Type*} {cell : AtomicCell α} {v w : α} {k : ℕ}

/-- An object that was just constructed. -/
def fresh (v : α) : AtomicCell α := ⟨[], v⟩

/-- All values in their order. -/
def values (cell : AtomicCell α) : List α := cell.earlier ++ [cell.last]

/-- A load that returns the `k`-th value. -/
def load (cell : AtomicCell α) (k : ℕ) : Option α := cell.values[k]?

/-- The write of a read-modify-write operation. -/
def push (cell : AtomicCell α) (v : α) : AtomicCell α := ⟨cell.values, v⟩

@[simp] theorem last_push : (cell.push v).last = v := rfl

@[simp] theorem values_push : (cell.push v).values = cell.values ++ [v] := rfl

theorem mem_values_of_load (h : cell.load k = some v) : v ∈ cell.values :=
  List.mem_of_getElem? h

section Increasing

variable {β : Type*} [Preorder β] {rank : α → β}

/-- Each value ranks above the ones before it. -/
def Increasing (rank : α → β) (cell : AtomicCell α) : Prop :=
  cell.values.Pairwise fun v w => rank v < rank w

theorem increasing_fresh : (fresh v).Increasing rank := List.pairwise_singleton _ _

theorem Increasing.le_last (h : cell.Increasing rank) (hv : v ∈ cell.values) :
    rank v ≤ rank cell.last := by
  rcases List.mem_append.mp hv with hearlier | hlast
  · exact ((List.pairwise_append.mp h).2.2 v hearlier _ (List.mem_singleton_self _)).le
  · exact (congrArg rank (List.mem_singleton.mp hlast)).le

/-- Raise the last value. -/
theorem Increasing.push (h : cell.Increasing rank) (hlt : rank cell.last < rank v) :
    (cell.push v).Increasing rank := by
  refine List.pairwise_append.mpr ⟨h, List.pairwise_singleton _ _, fun w hw u hu => ?_⟩
  rw [List.mem_singleton.mp hu]
  exact (h.le_last hw).trans_lt hlt

end Increasing

end AtomicCell
