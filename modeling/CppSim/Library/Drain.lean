import CppSim.Library.Machine
import Mathlib.Algebra.Ring.Nat

/-!
# Machines that drain

A machine drains when each of its *work* steps takes something off a load and each other
step adds a known amount at most.  Two facts follow, one about every schedule and one about
some schedule.

* **Termination.**  A run has no more work steps than the load it starts with and what its
  other steps add (`Drains.countP_le`).
* **Completion.**  If wherever the machine is not done some run that keeps to a condition
  takes load off, then such a run leads to a state in which it is done
  (`Drains.exists_done`).
-/

namespace Machine

variable {State Action Event : Type*} {M : Machine State Action Event} {Inv Done : State → Prop}
  {C : State → Action → Prop} {work : Action → Bool} {load : State → ℕ} {added : Action → ℕ}
  {s t : State} {as : List Action} {es : List Event}

/-- Where the invariant holds, work steps take something off the load and other steps add
`added` at most. -/
structure Drains (M : Machine State Action Event) (Inv : State → Prop) (work : Action → Bool)
    (load : State → ℕ) (added : Action → ℕ) : Prop where
  keeps : ∀ {s : State} {a : Action} {es : List Event} {t : State},
    Inv s → M.step s a es t → Inv t
  works : ∀ {s : State} {a : Action} {es : List Event} {t : State},
    Inv s → M.step s a es t → work a = true → load t < load s
  adds : ∀ {s : State} {a : Action} {es : List Event} {t : State},
    Inv s → M.step s a es t → work a = false → load t ≤ load s + added a

theorem Drains.inv (drains : Drains M Inv work load added) (run : M.Run s as es t)
    (hinit : Inv s) : Inv t :=
  run.preserves hinit fun _ _ _ _ inv h => drains.keeps inv h

/-- The work steps of a run, and what they leave of the load. -/
theorem Drains.countP_le (drains : Drains M Inv work load added) (run : M.Run s as es t)
    (hinit : Inv s) : as.countP work + load t ≤ load s + (as.map added).sum := by
  induction run with
  | refl => simp
  | @tail t u as a es es' before h ih =>
      have inv := drains.inv before hinit
      rw [List.countP_append, List.countP_singleton, List.map_append, List.sum_append,
        List.map_singleton, List.sum_singleton]
      cases hwork : work a with
      | true =>
          have hlt := drains.works inv h hwork
          rw [if_pos rfl]
          omega
      | false =>
          have hle := drains.adds inv h hwork
          rw [if_neg (by simp)]
          omega

/-- What two kinds of steps add to the load of a run. -/
theorem sum_map_added (as : List Action) (p q : Action → Bool) (m n : ℕ) :
    (as.map fun a => (if p a then m else 0) + if q a then n else 0).sum =
      m * as.countP p + n * as.countP q := by
  induction as with
  | nil => rfl
  | cons a as ih =>
      rw [List.map_cons, List.sum_cons, ih, List.countP_cons, List.countP_cons]
      split <;> split <;> simp only [Nat.mul_add, Nat.mul_one, Nat.mul_zero] <;> omega

/-- A machine that is never stuck before it is done can be brought to be done. -/
theorem Drains.exists_done (drains : Drains M Inv work load added)
    (progress : ∀ s, Inv s → ¬ Done s → ∃ as es t, (M.restrict C).Run s as es t ∧ load t < load s)
    (hinit : Inv s) : ∃ as es t, (M.restrict C).Run s as es t ∧ Done t := by
  induction hload : load s using Nat.strongRecOn generalizing s with
  | ind n ih =>
      by_cases hdone : Done s
      · exact ⟨[], [], s, .refl s, hdone⟩
      · obtain ⟨as, es, t, run, hlt⟩ := progress s hinit hdone
        have inv := drains.inv run.of_restrict hinit
        obtain ⟨bs, fs, u, rest, hdone⟩ := ih (load t) (hload ▸ hlt) inv rfl
        exact ⟨as ++ bs, es ++ fs, u, run.trans rest, hdone⟩

end Machine
