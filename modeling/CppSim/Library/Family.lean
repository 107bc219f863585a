import CppSim.Library.Machine

/-!
# Families of machines

A family has any number of members, each a copy of one machine.  Members join at the end
of a list, in a state that satisfies `Init`, and from then on one member steps at a time.
The events carry the index of the member that emits them.

`family_member` takes a run of the family apart: every member has a run of its own, whose
events are those of the family's run that carry its index.
-/

universe u v w

namespace Machine

variable {State : Type u} {Action : Type v} {Event : Type w}

/-- What can happen in a family. -/
inductive FamilyAction (State : Type u) (Action : Type v)
  | join (s : State)
  | member (i : ℕ) (a : Action)

/-- The steps of a family. -/
inductive FamilyStep (M : Machine State Action Event) (Init : State → Prop) (ss : List State) :
    FamilyAction State Action → List (ℕ × Event) → List State → Prop
  | join {s : State} (hinit : Init s) : FamilyStep M Init ss (.join s) [] (ss ++ [s])
  | member {i : ℕ} {s t : State} {a : Action} {es : List Event} (hget : ss[i]? = some s)
      (hstep : M.step s a es t) : FamilyStep M Init ss (.member i a) (es.map (i, ·)) (ss.set i t)

/-- The family of a machine. -/
def family (M : Machine State Action Event) (Init : State → Prop) :
    Machine (List State) (FamilyAction State Action) (ℕ × Event) where
  step := FamilyStep M Init

/-- The events that member `i` emits. -/
def ownEvents (i : ℕ) (es : List (ℕ × Event)) : List Event :=
  es.filterMap fun e => if e.1 = i then some e.2 else none

section Members

variable {M : Machine State Action Event} {Init : State → Prop} {i j : ℕ}
  {es fs : List (ℕ × Event)} {as : List (FamilyAction State Action)} {ss : List State} {s : State}

@[simp] theorem ownEvents_nil : ownEvents i ([] : List (ℕ × Event)) = [] := rfl

@[simp] theorem ownEvents_append : ownEvents i (es ++ fs) = ownEvents i es ++ ownEvents i fs :=
  List.filterMap_append

@[simp] theorem ownEvents_map_self (es : List Event) : ownEvents i (es.map (i, ·)) = es := by
  induction es with
  | nil => rfl
  | cons e es ih => simp [ownEvents]

theorem ownEvents_map_ne (h : j ≠ i) (es : List Event) : ownEvents i (es.map (j, ·)) = [] := by
  simp [ownEvents, h]

theorem mem_ownEvents {e : Event} : e ∈ ownEvents i es ↔ (i, e) ∈ es := by
  simp [ownEvents]

/-- What a family's run says of its members, and that nobody else emits anything. -/
private def FamilyInv (M : Machine State Action Event) (Init : State → Prop) (ss : List State)
    (es : List (ℕ × Event)) : Prop :=
  (∀ i s, ss[i]? = some s → ∃ s₀ as, Init s₀ ∧ M.Run s₀ as (ownEvents i es) s) ∧
    ∀ i, ss.length ≤ i → ownEvents i es = []

private theorem FamilyInv.step {a : FamilyAction State Action} {tt : List State}
    (inv : FamilyInv M Init ss es) (h : FamilyStep M Init ss a fs tt) :
    FamilyInv M Init tt (es ++ fs) := by
  obtain ⟨hruns, hnone⟩ := inv
  cases h with
  | @join s₀ hinit =>
      rw [List.append_nil]
      refine ⟨fun i s hget => ?_, fun i hi => hnone i (by simp at hi; omega)⟩
      rcases Nat.lt_trichotomy i ss.length with hlt | rfl | hgt
      · rw [List.getElem?_append_left hlt] at hget
        exact hruns i s hget
      · rw [hnone _ (Nat.le_refl _)]
        simp only [List.getElem?_append_right (Nat.le_refl _), Nat.sub_self, List.getElem?_cons_zero,
          Option.some.injEq] at hget
        subst hget
        exact ⟨s₀, [], hinit, .refl s₀⟩
      · rw [List.getElem?_eq_none (by simp; omega)] at hget
        cases hget
  | @member j s t a es' hget hstep =>
      have hlt := (List.getElem?_eq_some_iff.mp hget).1
      refine ⟨fun i u hget' => ?_, fun i hi => ?_⟩
      · by_cases hij : j = i
        · subst hij
          rw [List.getElem?_set_self hlt, Option.some.injEq] at hget'
          subst hget'
          obtain ⟨s₀, as, hinit, run⟩ := hruns j s hget
          rw [ownEvents_append, ownEvents_map_self]
          exact ⟨s₀, as ++ [a], hinit, run.tail hstep⟩
        · rw [List.getElem?_set_ne hij] at hget'
          rw [ownEvents_append, ownEvents_map_ne hij, List.append_nil]
          exact hruns i u hget'
      · rw [List.length_set] at hi
        rw [ownEvents_append, hnone i hi, ownEvents_map_ne (by omega)]
        rfl

private theorem familyInv_of_run (run : (M.family Init).Run [] as es ss) :
    FamilyInv M Init ss es :=
  run.invariant (I := FamilyInv M Init) ⟨by simp, fun _ _ => rfl⟩
    fun _ _ _ _ _ inv hstep => inv.step hstep

/-- Every member of a family has a run of its own. -/
theorem family_member (run : (M.family Init).Run [] as es ss) (hget : ss[i]? = some s) :
    ∃ s₀ bs, Init s₀ ∧ M.Run s₀ bs (ownEvents i es) s :=
  (familyInv_of_run run).1 i s hget

/-- Only members emit events. -/
theorem family_lt_of_mem (run : (M.family Init).Run [] as es ss) {e : Event}
    (hmem : e ∈ ownEvents i es) : i < ss.length := by
  have inv := familyInv_of_run run
  by_contra hge
  rw [inv.2 i (by omega)] at hmem
  cases hmem

end Members

end Machine
