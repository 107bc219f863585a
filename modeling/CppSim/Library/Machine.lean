import Mathlib.Data.List.Basic
import Mathlib.Data.List.Flatten
import Mathlib.Tactic.Common

/-!
# Machines, runs and refinement

A `Machine` is a transition system whose steps are labelled twice: by the action
that is scheduled and by the list of events an observer sees.  A `Run` keeps both
lists, so a property of a run may speak about the state it ends in, about the
actions that were scheduled and about the events that were observed.

Three proof rules are all that is used of runs.

* **Invariants.**  `Run.invariant` carries a property of the state and of the
  events so far along a run; `Run.preserves` is the special case of a property of
  the state alone.
* **Conditions.**  The runs of `M.restrict C` are the runs of `M` each of whose
  steps satisfies `C` in the state before it; `Run.restrict_or_leaves` finds the
  first step of any other run that does not.
* **Refinement.**  A `Refinement` maps the states of one machine to those of
  another so that every step becomes a run; `Refinement.run` maps runs.

`Machine.ofStep` turns an executable step function into a machine, and
`run_of_exec` turns an evaluation of it into a run.
-/

universe u v w

/-- A transition system with scheduled actions and observed events. -/
structure Machine (State : Type u) (Action : Type v) (Event : Type w) where
  /-- `step s a es t`: in `s` the action `a` may be scheduled; it emits `es` and
  leads to `t`. -/
  step : State → Action → List Event → State → Prop

namespace Machine

variable {State Action Event : Type*}

/-- The runs of a machine, with the actions scheduled and the events observed. -/
inductive Run (M : Machine State Action Event) :
    State → List Action → List Event → State → Prop
  | refl (s : State) : Run M s [] [] s
  | tail {s t u : State} {as : List Action} {a : Action} {es es' : List Event} :
      Run M s as es t → M.step t a es' u → Run M s (as ++ [a]) (es ++ es') u

variable {M : Machine State Action Event} {s t u : State} {a : Action} {as bs : List Action}
  {es fs : List Event}

namespace Run

theorem single (h : M.step s a es t) : M.Run s [a] es t := by
  simpa using (Run.refl s).tail h

theorem trans (first : M.Run s as es t) (second : M.Run t bs fs u) :
    M.Run s (as ++ bs) (es ++ fs) u := by
  induction second with
  | refl => simpa using first
  | tail _ hstep ih =>
      rw [← List.append_assoc, ← List.append_assoc]
      exact ih.tail hstep

theorem eq_of_nil (run : M.Run s [] es t) : t = s ∧ es = [] := by
  generalize hnone : ([] : List Action) = none at run
  cases run with
  | refl => exact ⟨rfl, rfl⟩
  | tail => simp at hnone

/-- A run begins with a step that its first action schedules. -/
theorem of_cons (run : M.Run s (a :: as) es u) :
    ∃ (es₁ : List Event) (t : State) (es₂ : List Event),
      M.step s a es₁ t ∧ M.Run t as es₂ u ∧ es = es₁ ++ es₂ := by
  generalize hall : a :: as = all at run
  induction run generalizing as with
  | refl => cases hall
  | @tail t u before b es es' rest hstep ih =>
      cases before with
      | nil =>
          obtain ⟨rfl, rfl⟩ := rest.eq_of_nil
          cases hall
          exact ⟨es', u, [], hstep, refl u, by simp⟩
      | cons c before =>
          cases hall
          obtain ⟨es₁, t', es₂, hfirst, hrest, rfl⟩ := ih rfl
          exact ⟨es₁, t', es₂ ++ es', hfirst, hrest.tail hstep, by simp⟩

theorem cons (h : M.step s a es t) (rest : M.Run t as fs u) : M.Run s (a :: as) (es ++ fs) u :=
  (single h).trans rest

/-- The invariant rule: a property of the state and of the events so far that
every step preserves holds at the end of every run. -/
theorem invariant {I : State → List Event → Prop} (run : M.Run s as es t) (hinit : I s [])
    (hstep : ∀ (es : List Event) (t : State) (a : Action) (es' : List Event) (u : State),
      I t es → M.step t a es' u → I u (es ++ es')) : I t es := by
  induction run with
  | refl => exact hinit
  | tail _ h ih => exact hstep _ _ _ _ _ ih h

/-- The invariant rule for a property of the state alone. -/
theorem preserves {I : State → Prop} (run : M.Run s as es t) (hinit : I s)
    (hstep : ∀ (t : State) (a : Action) (es : List Event) (u : State),
      I t → M.step t a es u → I u) : I t :=
  run.invariant (I := fun t _ => I t) hinit fun _ t a es u hI h => hstep t a es u hI h

end Run

/-! ## Runs under a condition -/

/-- The machine that takes a step only where the condition holds of the state
before it and of the action. -/
def restrict (M : Machine State Action Event) (C : State → Action → Prop) :
    Machine State Action Event where
  step s a es t := C s a ∧ M.step s a es t

variable {C : State → Action → Prop}

theorem Run.of_restrict (run : (M.restrict C).Run s as es t) : M.Run s as es t := by
  induction run with
  | refl => exact Run.refl _
  | tail _ h ih => exact ih.tail h.2

theorem Run.mono {D : State → Action → Prop} (run : (M.restrict C).Run s as es t)
    (h : ∀ s a, C s a → D s a) : (M.restrict D).Run s as es t := by
  induction run with
  | refl => exact Run.refl _
  | tail _ hstep ih => exact ih.tail ⟨h _ _ hstep.1, hstep.2⟩

/-- A run all of whose actions satisfy a condition keeps to it. -/
theorem Run.restrict_of_forall {P : Action → Prop} (run : M.Run s as es t)
    (hall : ∀ a ∈ as, P a) : (M.restrict fun _ a => P a).Run s as es t := by
  induction run with
  | refl => exact Run.refl _
  | tail _ h ih =>
      refine (ih fun a ha => hall a (by simp [ha])).tail ⟨hall _ (by simp), h⟩

/-- A run either keeps to the condition, or there is a first step that does not. -/
theorem Run.restrict_or_leaves (run : M.Run s as es t) :
    (M.restrict C).Run s as es t ∨
      ∃ (before : List Action) (esBefore : List Event) (mid : State) (a : Action)
        (esStep : List Event) (next : State) (after : List Action) (esAfter : List Event),
        (M.restrict C).Run s before esBefore mid ∧ ¬ C mid a ∧ M.step mid a esStep next ∧
          M.Run next after esAfter t ∧ as = before ++ a :: after ∧
          es = esBefore ++ (esStep ++ esAfter) := by
  induction run with
  | refl => exact .inl (Run.refl _)
  | @tail t u as a es es' _ h ih =>
      rcases ih with kept | ⟨before, esBefore, mid, b, esStep, next, after, esAfter, kept, hC,
        hstep, rest, rfl, rfl⟩
      · by_cases hC : C t a
        · exact .inl (kept.tail ⟨hC, h⟩)
        · exact .inr ⟨as, es, t, a, es', u, [], [], kept, hC, h, Run.refl u, rfl, by simp⟩
      · exact .inr ⟨before, esBefore, mid, b, esStep, next, after ++ [a], esAfter ++ es', kept,
          hC, hstep, rest.tail h, by simp, by simp⟩

/-- If a step keeps to the condition exactly when all events of it satisfy `Q`, then so does a
run.  The run that keeps to the condition is another one, so that each direction is an
induction of its own. -/
theorem Run.forall_mem_iff_restrict {I : State → Prop} {A : Action → Prop} {Q : Event → Prop}
    (run : M.Run s as es t) (hinit : I s) (hactions : ∀ a ∈ as, A a)
    (hpreserves : ∀ s a es t, I s → A a → M.step s a es t → I t)
    (hstep : ∀ s a es t, I s → A a → M.step s a es t → ((∀ e ∈ es, Q e) ↔ C s a)) :
    (∀ e ∈ es, Q e) ↔ (M.restrict C).Run s as es t := by
  constructor
  · suffices h : I t ∧ ((∀ e ∈ es, Q e) → (M.restrict C).Run s as es t) from h.2
    induction run with
    | refl => exact ⟨hinit, fun _ => .refl _⟩
    | tail _ h ih =>
        obtain ⟨inv, ih⟩ := ih fun a ha => hactions a (List.mem_append_left _ ha)
        have ha := hactions _ (List.mem_append_right _ (List.mem_singleton_self _))
        refine ⟨hpreserves _ _ _ _ inv ha h, fun hall => ?_⟩
        obtain ⟨hbefore, hafter⟩ := List.forall_mem_append.mp hall
        exact (ih hbefore).tail ⟨(hstep _ _ _ _ inv ha h).mp hafter, h⟩
  · intro kept
    suffices h : I t ∧ ∀ e ∈ es, Q e from h.2
    clear run
    induction kept with
    | refl => exact ⟨hinit, by simp⟩
    | tail _ h ih =>
        obtain ⟨inv, ih⟩ := ih fun a ha => hactions a (List.mem_append_left _ ha)
        have ha := hactions _ (List.mem_append_right _ (List.mem_singleton_self _))
        have hafter := (hstep _ _ _ _ inv ha h.2).mpr h.1
        exact ⟨hpreserves _ _ _ _ inv ha h.2, List.forall_mem_append.mpr ⟨ih, hafter⟩⟩

/-! ## The states of a run -/

/-- The machine that shows the states it comes to. -/
def visiting (M : Machine State Action Event) : Machine State Action State where
  step s a us t := (∃ es, M.step s a es t) ∧ us = [t]

theorem Run.visiting (run : (M.restrict C).Run s as es t) :
    ∃ us, (M.visiting.restrict C).Run s as us t := by
  induction run with
  | refl => exact ⟨[], .refl _⟩
  | @tail t u as a es es' _ h ih =>
      obtain ⟨us, visited⟩ := ih
      exact ⟨us ++ [u], visited.tail ⟨h.1, ⟨es', h.2⟩, rfl⟩⟩

/-- If a property holds as long as the condition is kept to, and is lost in the first step that
does not, then all states that a run comes to have it exactly if the run keeps to the
condition. -/
theorem Run.forall_visited_iff_restrict {I P : State → Prop} {A : Action → Prop}
    {us : List State} (run : M.visiting.Run s as us t) (hinit : I s) (hactions : ∀ a ∈ as, A a)
    (hkeeps : ∀ s a es t, I s → A a → M.step s a es t → C s a → I t ∧ P t)
    (hleaves : ∀ s a es t, I s → A a → M.step s a es t → ¬ C s a → ¬ P t) :
    (∀ u ∈ us, P u) ↔ (M.visiting.restrict C).Run s as us t := by
  constructor
  · intro hall
    suffices h : I t ∧ (M.visiting.restrict C).Run s as us t from h.2
    induction run with
    | refl => exact ⟨hinit, .refl _⟩
    | @tail t u as a us _ _ h ih =>
        obtain ⟨⟨es, hstep⟩, rfl⟩ := h
        obtain ⟨hbefore, hafter⟩ := List.forall_mem_append.mp hall
        obtain ⟨inv, kept⟩ := ih (fun a ha => hactions a (List.mem_append_left _ ha)) hbefore
        have ha := hactions _ (List.mem_append_right _ (List.mem_singleton_self _))
        have hC : C t a := by
          by_contra hC
          exact hleaves _ _ _ _ inv ha hstep hC (hafter u (by simp))
        exact ⟨(hkeeps _ _ _ _ inv ha hstep hC).1, kept.tail ⟨hC, ⟨es, hstep⟩, rfl⟩⟩
  · intro kept
    suffices h : I t ∧ ∀ u ∈ us, P u from h.2
    clear run
    induction kept with
    | refl => exact ⟨hinit, by simp⟩
    | @tail t u as a us _ _ h ih =>
        obtain ⟨hC, ⟨es, hstep⟩, rfl⟩ := h
        obtain ⟨inv, hbefore⟩ := ih fun a ha => hactions a (List.mem_append_left _ ha)
        have ha := hactions _ (List.mem_append_right _ (List.mem_singleton_self _))
        obtain ⟨inv, hP⟩ := hkeeps _ _ _ _ inv ha hstep hC
        refine ⟨inv, List.forall_mem_append.mpr ⟨hbefore, ?_⟩⟩
        simpa using hP

/-- A later event of a history splits it where it split the earlier one, or is the last. -/
theorem eq_append_cons_of_snoc {history before after : List Event} {e last : Event}
    (h : history ++ [last] = before ++ e :: after) :
    (∃ rest, after = rest ++ [last] ∧ history = before ++ e :: rest) ∨
      after = [] ∧ e = last ∧ before = history := by
  rcases after.eq_nil_or_concat' with rfl | ⟨rest, final, rfl⟩
  · obtain ⟨rfl, hlast⟩ := List.append_inj' h rfl
    exact .inr ⟨rfl, (List.head_eq_of_cons_eq hlast).symm, rfl⟩
  · rw [← List.cons_append, ← List.append_assoc] at h
    obtain ⟨rfl, hlast⟩ := List.append_inj' h rfl
    exact .inl ⟨rest, by rw [List.head_eq_of_cons_eq hlast], rfl⟩

/-! ## Refinement -/

section Refinement

variable {State' Action' Event' : Type*}

/-- `M` refines `N`: every step of `M` from a state in which `Inv` holds is a run
of `N` between the views of its ends, with the events seen through `observe`. -/
structure Refinement (M : Machine State Action Event) (N : Machine State' Action' Event')
    (Inv : State → Prop) where
  view : State → State'
  observe : Event → List Event'
  preserves : ∀ {s : State} {a : Action} {es : List Event} {t : State},
    Inv s → M.step s a es t → Inv t
  simulates : ∀ {s : State} {a : Action} {es : List Event} {t : State},
    Inv s → M.step s a es t → ∃ bs, N.Run (view s) bs (es.flatMap observe) (view t)

/-- A run of the refined machine is a run of the abstract one. -/
theorem Refinement.run {N : Machine State' Action' Event'} {Inv : State → Prop}
    (R : Refinement M N Inv) (run : M.Run s as es t) (hinit : Inv s) :
    Inv t ∧ ∃ bs, N.Run (R.view s) bs (es.flatMap R.observe) (R.view t) := by
  induction run with
  | refl => exact ⟨hinit, [], Run.refl _⟩
  | tail _ hstep ih =>
      obtain ⟨hInv, bs, abstractRun⟩ := ih
      obtain ⟨cs, abstractStep⟩ := R.simulates hInv hstep
      refine ⟨R.preserves hInv hstep, bs ++ cs, ?_⟩
      rw [List.flatMap_append]
      exact abstractRun.trans abstractStep

end Refinement

/-! ## Executable machines -/

/-- The machine of an executable step function. -/
def ofStep (f : State → Action → Option (State × List Event)) : Machine State Action Event where
  step s a es t := f s a = some (t, es)

/-- Schedule a list of actions one after the other. -/
def exec (f : State → Action → Option (State × List Event)) :
    State → List Action → Option (State × List Event)
  | s, [] => some (s, [])
  | s, a :: as => do
      let (t, es) ← f s a
      let (u, fs) ← exec f t as
      pure (u, es ++ fs)

theorem run_of_exec {f : State → Action → Option (State × List Event)} :
    exec f s as = some (t, es) → (ofStep f).Run s as es t := by
  induction as generalizing s t es with
  | nil =>
      intro h
      simp only [exec, Option.some.injEq, Prod.mk.injEq] at h
      obtain ⟨rfl, rfl⟩ := h
      exact Run.refl s
  | cons a as ih =>
      intro h
      simp only [exec, Option.bind_eq_bind, Option.bind_eq_some_iff, Option.pure_def,
        Option.some.injEq, Prod.mk.injEq, Prod.exists] at h
      obtain ⟨u, fs, hstep, t', gs, hrest, rfl, rfl⟩ := h
      exact (Run.single (M := ofStep f) hstep).trans (ih hrest)

/-- The evaluation of a list of actions that are possible is a run. -/
theorem run_get {f : State → Action → Option (State × List Event)}
    (h : (exec f s as).isSome = true) :
    (ofStep f).Run s as ((exec f s as).get h).2 ((exec f s as).get h).1 :=
  run_of_exec (Option.some_get h).symm

section Guarded

variable {f : State → Action → Option (State × List Event)} {C : State → Action → Prop}
  [∀ s a, Decidable (C s a)]

/-- The step function that stops where a condition fails, which can be decided. -/
def guarded (C : State → Action → Prop) [∀ s a, Decidable (C s a)]
    (f : State → Action → Option (State × List Event)) (s : State) (a : Action) :
    Option (State × List Event) :=
  if C s a then f s a else none

theorem Run.restrict_of_guarded (run : (ofStep (guarded C f)).Run s as es t) :
    ((ofStep f).restrict C).Run s as es t := by
  induction run with
  | refl => exact .refl _
  | tail _ hstep ih =>
      obtain ⟨hC, hf⟩ := Option.ite_none_right_eq_some.mp hstep
      exact ih.tail ⟨hC, hf⟩

/-- Its evaluation is a run that keeps to the condition. -/
theorem run_restrict_get (h : (exec (guarded C f) s as).isSome = true) :
    ((ofStep f).restrict C).Run s as ((exec (guarded C f) s as).get h).2
      ((exec (guarded C f) s as).get h).1 :=
  (run_get h).restrict_of_guarded

end Guarded

end Machine
