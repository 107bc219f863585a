import Mathlib.Algebra.Order.Group.Defs
import Mathlib.Data.List.Basic

/-!
# Accepting increasing numbers

A receiver remembers the last number it accepted, a start value before the first, and
accepts a number that is larger by at most a gap.  The gap may differ from one number
to the next, so a `History` keeps each number with the gap it was accepted under.
-/

namespace AntiReplay

variable {α : Type*}

/-- The last number accepted, or the start value. -/
def latest (start : α) (accepted : List (α × α)) : α :=
  (accepted.getLast?.map Prod.fst).getD start

@[simp] theorem latest_nil (start : α) : latest start [] = start := rfl

@[simp] theorem latest_snoc (start : α) (accepted : List (α × α)) (entry : α × α) :
    latest start (accepted ++ [entry]) = entry.1 := by
  simp [latest]

section Order

variable [LinearOrder α] [Add α]

/-- `number` may be accepted after `last` under `gap`. -/
def Accepts (last number gap : α) : Prop := last < number ∧ number ≤ last + gap

/-- The histories of a receiver. -/
inductive History (start : α) : List (α × α) → Prop
  | nil : History start []
  | snoc {accepted : List (α × α)} {number gap : α} :
      History start accepted → Accepts (latest start accepted) number gap →
      History start (accepted ++ [(number, gap)])

variable {start : α} {accepted : List (α × α)}

/-- Everything accepted lies between the start value and the last number. -/
theorem History.bounds (h : History start accepted) :
    start ≤ latest start accepted ∧
      ∀ entry ∈ accepted, start < entry.1 ∧ entry.1 ≤ latest start accepted := by
  induction h with
  | nil => exact ⟨le_rfl, by simp⟩
  | @snoc accepted number gap _ haccepts ih =>
      obtain ⟨hstart, hall⟩ := ih
      rw [latest_snoc]
      refine ⟨hstart.trans haccepts.1.le, ?_⟩
      intro entry hmem
      rcases List.mem_append.mp hmem with hold | hnew
      · exact ⟨(hall entry hold).1, (hall entry hold).2.trans haccepts.1.le⟩
      · rw [List.mem_singleton.mp hnew]
        exact ⟨hstart.trans_lt haccepts.1, le_rfl⟩

/-- The numbers accepted are strictly increasing. -/
theorem History.pairwise_lt (h : History start accepted) :
    (accepted.map Prod.fst).Pairwise (· < ·) := by
  induction h with
  | nil => exact List.Pairwise.nil
  | snoc hold haccepts ih =>
      rw [List.map_append, List.pairwise_append]
      refine ⟨ih, List.pairwise_singleton _ _, ?_⟩
      intro n hn m hm
      obtain ⟨entry, hmem, rfl⟩ := List.mem_map.mp hn
      rw [List.map_singleton, List.mem_singleton] at hm
      rw [hm]
      exact (hold.bounds.2 entry hmem).2.trans_lt haccepts.1

/-- No number is accepted twice. -/
theorem History.nodup (h : History start accepted) : (accepted.map Prod.fst).Nodup :=
  h.pairwise_lt.imp ne_of_lt

/-- Each number was acceptable when it was accepted. -/
theorem History.accepts (h : History start accepted) {before after : List (α × α)}
    {number gap : α} (hsplit : accepted = before ++ (number, gap) :: after) :
    Accepts (latest start before) number gap := by
  induction h generalizing after with
  | nil => simp at hsplit
  | snoc _ haccepts ih =>
      rcases after.eq_nil_or_concat' with rfl | ⟨after, last, rfl⟩
      · obtain ⟨rfl, hlast⟩ := List.append_inj' hsplit rfl
        obtain ⟨rfl, rfl⟩ := Prod.mk.inj (List.singleton_inj.mp hlast)
        exact haccepts
      · rw [← List.cons_append, ← List.append_assoc] at hsplit
        exact ih (List.append_inj' hsplit rfl).1

end Order

end AntiReplay
