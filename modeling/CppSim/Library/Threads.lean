import Mathlib.Data.List.Basic
import CppSim.Library.Family

/-!
# Threads over a shared state

A program of `Threads` says what one thread does in one call: where it enters, and what each of
its steps does to the state that all threads share.  A step is told the index of the call, and a
`Choice` of whatever the scheduler, the hardware or the outside world decide.  A `Pool` is the
shared state with the local state of every call there ever was, so that an index names a call
for good.

Two rules are used of the runs of a pool.

* **Outlines.**  An `Outline` asserts something of each call that its own steps keep and that
  the steps of the others do not disturb; then it holds of all calls in every run
  (`Outline.of_run`).  The assertion may speak of the events that the call has emitted.
* **Conservation.**  Suppose that a step pays to the shared state what it takes off what the call
  owes.  Then the shared state and all debts together are worth what it was worth at first and
  what the calls came in with (`Outline.conserved`); once nobody owes anything, the shared
  state has it all (`Outline.settled`).
-/

/-- What a thread does in a call. -/
structure Threads (Shared Local Call Choice Event : Type*) where
  enter : Call → Local × List Event
  step : ℕ → Shared → Local → Choice → Option (Shared × Local × List Event)

/-- The shared state and the calls. -/
structure Pool (Shared Local : Type*) where
  shared : Shared
  locals : List Local

/-- What can happen to a pool. -/
inductive PoolAction (Call Choice : Type*)
  | call (c : Call)
  | thread (i : ℕ) (x : Choice)

/-- The calls among the actions. -/
def PoolAction.calls {Call Choice : Type*} (as : List (PoolAction Call Choice)) : List Call :=
  as.filterMap fun
    | .call c => some c
    | .thread _ _ => none

section Calls

variable {Call Choice : Type*} {as : List (PoolAction Call Choice)}

theorem PoolAction.calls_concat_call (c : Call) :
    PoolAction.calls (as ++ [.call c]) = PoolAction.calls as ++ [c] :=
  List.filterMap_append

theorem PoolAction.calls_concat_thread (i : ℕ) (x : Choice) :
    PoolAction.calls (as ++ [.thread i x]) = PoolAction.calls as := by
  simp [calls]

end Calls

namespace Threads

open Machine

variable {Shared Local Call Choice Event : Type*} (T : Threads Shared Local Call Choice Event)

/-- One step of a pool. -/
def poolStep (p : Pool Shared Local) :
    PoolAction Call Choice → Option (Pool Shared Local × List (ℕ × Event))
  | .call c =>
      some (⟨p.shared, p.locals ++ [(T.enter c).1]⟩, (T.enter c).2.map (p.locals.length, ·))
  | .thread i x =>
      p.locals[i]?.bind fun l =>
        (T.step i p.shared l x).map fun r => (⟨r.1, p.locals.set i r.2.1⟩, r.2.2.map (i, ·))

/-- The machine of a pool. -/
def machine : Machine (Pool Shared Local) (PoolAction Call Choice) (ℕ × Event) :=
  .ofStep T.poolStep

/-- The two ways a pool can step. -/
inductive PoolStep (p : Pool Shared Local) :
    PoolAction Call Choice → List (ℕ × Event) → Pool Shared Local → Prop
  | call (c : Call) :
      PoolStep p (.call c) ((T.enter c).2.map (p.locals.length, ·))
        ⟨p.shared, p.locals ++ [(T.enter c).1]⟩
  | thread {i : ℕ} {x : Choice} {l l' : Local} {s' : Shared} {es : List Event}
      (hget : p.locals[i]? = some l) (hstep : T.step i p.shared l x = some (s', l', es)) :
      PoolStep p (.thread i x) (es.map (i, ·)) ⟨s', p.locals.set i l'⟩

variable {T} {p q : Pool Shared Local} {a : PoolAction Call Choice}
  {as : List (PoolAction Call Choice)} {es : List (ℕ × Event)}

theorem poolStep_of_step (h : T.machine.step p a es q) : T.PoolStep p a es q := by
  replace h : T.poolStep p a = some (q, es) := h
  cases a with
  | call c =>
      cases h
      exact .call c
  | thread i x =>
      simp only [poolStep, Option.bind_eq_some_iff, Option.map_eq_some_iff, Prod.mk.injEq,
        Prod.exists] at h
      obtain ⟨l, hget, s', l', fs, hstep, rfl, rfl⟩ := h
      exact .thread hget hstep

/-! ## Outlines -/

variable (T) in
/-- An assertion `I` of the shared state and the history, and an assertion `P` of each call and
its own history, that hold together. -/
structure Outline (I : Shared → List (ℕ × Event) → Prop)
    (P : ℕ → Shared → Local → List Event → Prop) : Prop where
  enters : ∀ {s : Shared} {es : List (ℕ × Event)} (i : ℕ) (c : Call), I s es →
    ownEvents i es = [] → I s (es ++ (T.enter c).2.map (i, ·)) ∧ P i s (T.enter c).1 (T.enter c).2
  steps : ∀ {s s' : Shared} {es : List (ℕ × Event)} {i : ℕ} {l l' : Local} {x : Choice}
    {own fs : List Event}, I s es → P i s l own → T.step i s l x = some (s', l', fs) →
    I s' (es ++ fs.map (i, ·)) ∧ P i s' l' (own ++ fs)
  stable : ∀ {s s' : Shared} {es : List (ℕ × Event)} {i j : ℕ} {l l' m : Local} {x : Choice}
    {own fs others : List Event}, I s es → P i s l own → P j s m others → i ≠ j →
    T.step i s l x = some (s', l', fs) → P j s' m others

variable {I : Shared → List (ℕ × Event) → Prop} {P : ℕ → Shared → Local → List Event → Prop}
  {s : Shared}

/-- What an outline says of a pool. -/
structure Outlined (I : Shared → List (ℕ × Event) → Prop)
    (P : ℕ → Shared → Local → List Event → Prop) (p : Pool Shared Local)
    (es : List (ℕ × Event)) : Prop where
  shared : I p.shared es
  each : ∀ i l, p.locals[i]? = some l → P i p.shared l (ownEvents i es)
  /-- Only calls emit events. -/
  nobody : ∀ i, p.locals.length ≤ i → ownEvents i es = []

theorem Outline.step (outline : T.Outline I P) {fs : List (ℕ × Event)} (inv : Outlined I P p es)
    (h : T.PoolStep p a fs q) : Outlined I P q (es ++ fs) := by
  cases h with
  | call c =>
      obtain ⟨hI, hP⟩ := outline.enters p.locals.length c inv.shared (inv.nobody _ (Nat.le_refl _))
      refine ⟨hI, fun i l hget => ?_, fun i hi => ?_⟩
      · rw [ownEvents_append]
        rcases Nat.lt_trichotomy i p.locals.length with hlt | rfl | hgt
        · rw [ownEvents_map_ne (by omega), List.append_nil]
          rw [List.getElem?_append_left hlt] at hget
          exact inv.each i l hget
        · rw [inv.nobody _ (Nat.le_refl _), ownEvents_map_self, List.nil_append]
          rw [List.getElem?_concat_length, Option.some.injEq] at hget
          exact hget ▸ hP
        · rw [List.getElem?_eq_none (by simp; omega)] at hget
          cases hget
      · rw [List.length_append, List.length_singleton] at hi
        rw [ownEvents_append, inv.nobody i (by omega), ownEvents_map_ne (by omega)]
        rfl
  | @thread i x l l' s' fs hget hstep =>
      have hlt := (List.getElem?_eq_some_iff.mp hget).1
      obtain ⟨hI, hP⟩ := outline.steps inv.shared (inv.each i l hget) hstep
      refine ⟨hI, fun j m hget' => ?_, fun j hj => ?_⟩
      · rw [ownEvents_append]
        by_cases hij : i = j
        · subst hij
          rw [List.getElem?_set_self hlt, Option.some.injEq] at hget'
          rw [ownEvents_map_self]
          exact hget' ▸ hP
        · rw [List.getElem?_set_ne hij] at hget'
          rw [ownEvents_map_ne hij, List.append_nil]
          exact outline.stable inv.shared (inv.each i l hget) (inv.each j m hget') hij hstep
      · rw [List.length_set] at hj
        rw [ownEvents_append, inv.nobody j hj, ownEvents_map_ne (by omega)]
        rfl

/-- An outline holds in every run. -/
theorem Outline.of_run (outline : T.Outline I P) (run : T.machine.Run ⟨s, []⟩ as es p)
    (hinit : I s []) : Outlined I P p es :=
  run.invariant (I := Outlined I P) ⟨hinit, by simp, fun _ _ => rfl⟩
    fun _ _ _ _ _ inv h => outline.step inv (poolStep_of_step h)

/-! ## Conservation -/

variable (T I P) in
/-- An account of what the shared state is worth, with what was seen of it, and what each call owes
to it, in a commutative monoid: a step of a call pays what it takes off its debt. -/
structure Account (G : Type*) where
  op : G → G → G
  unit : G
  assoc : ∀ u v w, op (op u v) w = op u (op v w)
  comm : ∀ u v, op u v = op v u
  unit_op : ∀ v, op unit v = v
  value : Shared → List (ℕ × Event) → G
  owed : Local → G
  worth : Call → G
  enters : ∀ c, owed (T.enter c).1 = worth c
  value_enter : ∀ s es i c, value s (es ++ (T.enter c).2.map (i, ·)) = value s es
  pays : ∀ {s s' : Shared} {es : List (ℕ × Event)} {i : ℕ} {l l' : Local} {x : Choice}
    {own fs : List Event}, I s es → P i s l own → T.step i s l x = some (s', l', fs) →
    op (owed l) (value s es) = op (owed l') (value s' (es ++ fs.map (i, ·)))

namespace Account

variable {G A B : Type*} (account : T.Account I P G) {xs ys : List G}

/-- The sum of the monoid. -/
def sum (xs : List G) : G := xs.foldr account.op account.unit

theorem op_left_comm (u v w : G) :
    account.op u (account.op v w) = account.op v (account.op u w) := by
  rw [← account.assoc, account.comm u v, account.assoc]

theorem sum_concat (x : G) : account.sum (xs ++ [x]) = account.op x (account.sum xs) := by
  induction xs with
  | nil => rfl
  | cons y ys ih =>
      calc account.op y (account.sum (ys ++ [x]))
          = account.op y (account.op x (account.sum ys)) := by rw [ih]
        _ = account.op x (account.op y (account.sum ys)) := account.op_left_comm ..

/-- Replace a debt, and pay the difference. -/
theorem sum_set {i : ℕ} {x y v w : G} (hget : xs[i]? = some x)
    (hpay : account.op x v = account.op y w) :
    account.op (account.sum (xs.set i y)) w = account.op (account.sum xs) v := by
  induction xs generalizing i with
  | nil => cases hget
  | cons z zs ih =>
      cases i with
      | zero =>
          rw [List.getElem?_cons_zero, Option.some.injEq] at hget
          subst hget
          calc account.op (account.op y (account.sum zs)) w
              = account.op (account.sum zs) (account.op y w) := by
                rw [account.comm y (account.sum zs), account.assoc]
            _ = account.op (account.sum zs) (account.op z v) := by rw [hpay]
            _ = account.op (account.op z (account.sum zs)) v := by
                rw [account.comm z (account.sum zs), account.assoc]
      | succ i =>
          calc account.op (account.op z (account.sum (zs.set i y))) w
              = account.op z (account.op (account.sum zs) v) := by rw [account.assoc, ih hget]
            _ = account.op (account.op z (account.sum zs)) v := by rw [account.assoc]

theorem sum_eq_unit (h : ∀ x ∈ xs, x = account.unit) : account.sum xs = account.unit := by
  induction xs with
  | nil => rfl
  | cons x xs ih =>
      calc account.op x (account.sum xs)
          = account.op account.unit account.unit := by
            rw [h x (by simp), ih fun y hy => h y (by simp [hy])]
        _ = account.unit := account.unit_op _

/-- What some come in with, and the others do not. -/
theorem sum_map_elim (f : A → Option B) (g : B → G) (xs : List A) :
    account.sum (xs.map fun x => (f x).elim account.unit g) =
      account.sum ((xs.filterMap f).map g) := by
  induction xs with
  | nil => rfl
  | cons x xs ih =>
      rw [sum, List.map_cons, List.foldr_cons]
      cases hx : f x with
      | none =>
          rw [Option.elim_none, account.unit_op, List.filterMap_cons_none hx]
          exact ih
      | some y =>
          rw [Option.elim_some, List.filterMap_cons_some hx, List.map_cons]
          exact congrArg (account.op (g y)) ih

end Account

/-- What the shared state is worth and what the calls owe are together what the shared state was
worth and what the calls came in with. -/
theorem Outline.conserved {G : Type*} (outline : T.Outline I P) (account : T.Account I P G)
    (run : T.machine.Run ⟨s, []⟩ as es p) (hinit : I s []) :
    account.op (account.sum (p.locals.map account.owed)) (account.value p.shared es) =
      account.op (account.sum ((PoolAction.calls as).map account.worth)) (account.value s []) := by
  generalize hstart : (⟨s, []⟩ : Pool Shared Local) = start at run
  induction run with
  | refl =>
      subst hstart
      rfl
  | @tail t u as a es fs before h ih =>
      subst hstart
      have inv := outline.of_run before hinit
      cases poolStep_of_step h with
      | call c =>
          rw [PoolAction.calls_concat_call, account.value_enter]
          calc account.op (account.sum ((t.locals ++ [(T.enter c).1]).map account.owed))
                (account.value t.shared es)
              = account.op (account.worth c) (account.op (account.sum (t.locals.map account.owed))
                  (account.value t.shared es)) := by
                rw [List.map_append, List.map_singleton, account.sum_concat, account.enters,
                  account.assoc]
            _ = account.op (account.sum ((PoolAction.calls as ++ [c]).map account.worth))
                  (account.value s []) := by
                rw [ih, List.map_append, List.map_singleton, account.sum_concat, account.assoc]
      | @thread i x l l' s' fs hget hstep =>
          have hget' : (t.locals.map account.owed)[i]? = some (account.owed l) := by simp [hget]
          have hsame := account.sum_set hget' (account.pays inv.shared (inv.each i l hget) hstep)
          rw [List.map_set, hsame, ih, PoolAction.calls_concat_thread]

/-- Once no call owes anything, the shared state has all that came in. -/
theorem Outline.settled {G : Type*} (outline : T.Outline I P) (account : T.Account I P G)
    (run : T.machine.Run ⟨s, []⟩ as es p) (hinit : I s [])
    (hnone : ∀ l ∈ p.locals, account.owed l = account.unit) :
    account.value p.shared es =
      account.op (account.sum ((PoolAction.calls as).map account.worth)) (account.value s []) := by
  have hsum : account.sum (p.locals.map account.owed) = account.unit := by
    refine account.sum_eq_unit fun x hx => ?_
    obtain ⟨l, hl, rfl⟩ := List.mem_map.mp hx
    exact hnone l hl
  rw [← outline.conserved account run hinit, hsum, account.unit_op]

end Threads
