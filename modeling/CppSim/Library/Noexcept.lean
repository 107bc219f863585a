import Mathlib.Tactic.Common

/-!
# Exceptions and `noexcept`

A piece of code returns, throws, or has ended the program.  It keeps what it has changed
before an exception, a handler catches every exception, and an exception that leaves a
function declared `noexcept` ends the program, which nothing catches.

Code is in the monad `EStateM`, whose error is an `Interrupt`.  The simp lemmas run each
construct; the rules say when it ends the program and when an exception leaves it.
-/

namespace Noexcept

/-- How a piece of code is cut off. -/
inductive Interrupt
  | exception
  | terminate
  deriving DecidableEq

/-- Code over a state. -/
abbrev Code (State Value : Type) := EStateM Interrupt State Value

variable {State Value Value' : Type}

/-- An expression that throws or has no effect. -/
def allocate (fails : Bool) : Code State Unit := if fails then throw .exception else pure ()

/-- `try`, with a handler of every exception. -/
def catching (body handler : Code State Value) : Code State Value := fun s =>
  match body.run s with
  | .error .exception t => handler.run t
  | r => r

/-- The body of a function declared `noexcept`. -/
def noexcept (body : Code State Value) : Code State Value := fun s =>
  match body.run s with
  | .error .exception t => .error .terminate t
  | r => r

/-! ## Running -/

variable {code body handler : Code State Value} {next : Value → Code State Value'}
  {value : Value} {s t : State} {fails : Bool}

@[simp] theorem allocate_false : (allocate false : Code State Unit) = pure () := rfl

@[simp] theorem run_allocate :
    (allocate fails : Code State Unit).run s =
      if fails then .error .exception s else .ok () s := by
  cases fails <;> rfl

@[simp] theorem run_catching :
    (catching body handler).run s =
      match body.run s with
      | .error .exception t => handler.run t
      | r => r := rfl

@[simp] theorem run_noexcept :
    (noexcept body).run s =
      match body.run s with
      | .error .exception t => .error .terminate t
      | r => r := rfl

/-- Several expressions one after the other. -/
@[simp] theorem run_forM_allocate {Item : Type} (items : List Item) (fails : Item → Bool) :
    (items.forM fun item => (allocate (fails item) : Code State Unit)).run s =
      if items.any fails then .error .exception s else .ok () s := by
  induction items with
  | nil => rfl
  | cons item items ih =>
      change ((allocate (fails item) : Code State Unit) >>= fun _ => items.forM _).run s = _
      rw [EStateM.run_bind, run_allocate, List.any_cons]
      cases fails item with
      | true => rfl
      | false => exact ih

/-! ## How code ends -/

/-- The code ends the program. -/
def Terminates (code : Code State Value) (s : State) : Prop :=
  ∃ t, code.run s = .error .terminate t

/-- An exception leaves the code. -/
def Escapes (code : Code State Value) (s : State) : Prop :=
  ∃ t, code.run s = .error .exception t

theorem returned_iff :
    (∃ value t, code.run s = .ok value t) ↔ ¬ Terminates code s ∧ ¬ Escapes code s := by
  unfold Terminates Escapes
  cases code.run s with
  | ok value t => simp
  | error interrupt t => cases interrupt <;> simp

theorem escapes_bind_of_ok (h : code.run s = .ok value t) :
    Escapes (code >>= next) s ↔ Escapes (next value) t := by
  rw [Escapes, Escapes, EStateM.run_bind, h]

theorem not_escapes_bind (h : ¬ Escapes code s) (hnext : ∀ value t, ¬ Escapes (next value) t) :
    ¬ Escapes (code >>= next) s := by
  rintro ⟨t, ht⟩
  rw [EStateM.run_bind] at ht
  split at ht
  · exact hnext _ _ ⟨t, ht⟩
  · rename_i interrupt u hcode
    cases ht
    exact h ⟨t, hcode⟩

theorem not_escapes_noexcept : ¬ Escapes (noexcept body) s := by
  rintro ⟨t, ht⟩
  rw [run_noexcept] at ht
  split at ht
  · cases ht
  · rename_i hbody
    exact hbody t ht

/-- A function that does not throw may be called from one that must not. -/
theorem noexcept_of_not_escapes (h : ¬ Escapes body s) : (noexcept body).run s = body.run s := by
  rw [run_noexcept]
  split
  · rename_i t ht
    exact absurd ⟨t, ht⟩ h
  · rfl

theorem terminates_noexcept : Terminates (noexcept body) s ↔ Terminates body s ∨ Escapes body s := by
  unfold Terminates Escapes
  rw [run_noexcept]
  cases body.run s with
  | ok value t => simp
  | error interrupt t => cases interrupt <;> simp

/-- A function that does not throw ends the program where its body does. -/
theorem terminates_noexcept_of_not_escapes (h : ¬ Escapes body s) :
    Terminates (noexcept body) s ↔ Terminates body s := by
  rw [Terminates, Terminates, noexcept_of_not_escapes h]

theorem terminates_bind_of_ok (h : code.run s = .ok value t) :
    Terminates (code >>= next) s ↔ Terminates (next value) t := by
  rw [Terminates, Terminates, EStateM.run_bind, h]

theorem not_terminates_bind_of_exception (h : code.run s = .error .exception t) :
    ¬ Terminates (code >>= next) s := by
  rintro ⟨u, hu⟩
  rw [EStateM.run_bind, h] at hu
  cases hu

theorem terminates_allocate_bind {next : Unit → Code State Value} :
    Terminates (allocate fails >>= next) s ↔ fails = false ∧ Terminates (next ()) s := by
  rw [Terminates, Terminates, EStateM.run_bind, run_allocate]
  cases fails with
  | true => simp
  | false => simp

/-! ## Code that does not end the program -/

/-- The code does not end the program, whatever the state. -/
def Survives (code : Code State Value) : Prop := ∀ s, ¬ Terminates code s

/-- The code returns, whatever the state. -/
def Returns (code : Code State Value) : Prop := ∀ s, ∃ value t, code.run s = .ok value t

theorem returns_pure (value : Value) : Returns (pure value : Code State Value) :=
  fun s => ⟨value, s, rfl⟩

theorem returns_get : Returns (get : Code State State) := fun s => ⟨s, s, rfl⟩

theorem returns_set (t : State) : Returns (set t : Code State PUnit) := fun _ => ⟨_, t, rfl⟩

theorem returns_modify (f : State → State) : Returns (modify f : Code State PUnit) :=
  fun s => ⟨_, f s, rfl⟩

theorem Returns.bind (h : Returns code) (hnext : ∀ value, Returns (next value)) :
    Returns (code >>= next) := by
  intro s
  obtain ⟨value, t, hcode⟩ := h s
  rw [EStateM.run_bind, hcode]
  exact hnext value t

theorem Returns.survives (h : Returns code) : Survives code := by
  rintro s ⟨t, ht⟩
  obtain ⟨value, u, hcode⟩ := h s
  rw [hcode] at ht
  cases ht

theorem Returns.not_escapes (h : Returns code) : ¬ Escapes code s :=
  (returned_iff.mp (h s)).2

theorem Survives.bind (h : Survives code) (hnext : ∀ value, Survives (next value)) :
    Survives (code >>= next) := by
  rintro s ⟨t, ht⟩
  rw [EStateM.run_bind] at ht
  split at ht
  · exact hnext _ _ ⟨t, ht⟩
  · rename_i interrupt u hcode
    cases ht
    exact h s ⟨t, hcode⟩

theorem survives_allocate (fails : Bool) : Survives (allocate fails : Code State Unit) := by
  rintro s ⟨t, ht⟩
  rw [run_allocate] at ht
  cases fails <;> cases ht

/-- A handler that returns makes code return that does not end the program. -/
theorem Survives.catching (h : Survives body) (hhandler : Returns handler) :
    Returns (catching body handler) := by
  intro s
  rw [run_catching]
  split
  · exact hhandler _
  · rename_i hbody
    cases hrun : body.run s with
    | ok value t => exact ⟨value, t, rfl⟩
    | error interrupt t =>
        cases interrupt with
        | exception => exact absurd hrun (hbody t)
        | terminate => exact absurd ⟨t, hrun⟩ (h s)

/-- No exception leaves a handler that returns. -/
theorem not_escapes_catching (hhandler : Returns handler) :
    ¬ Escapes (catching body handler) s := by
  rintro ⟨t, ht⟩
  rw [run_catching] at ht
  split at ht
  · rename_i u _
    obtain ⟨value, v, hrun⟩ := hhandler u
    rw [hrun] at ht
    cases ht
  · rename_i hbody
    exact hbody t ht

theorem Returns.noexcept (h : Returns body) : Returns (noexcept body) := by
  intro s
  obtain ⟨value, t, hbody⟩ := h s
  exact ⟨value, t, by rw [run_noexcept, hbody]⟩

/-- What follows does not end the program. -/
theorem terminates_bind_of_survives (hnext : ∀ value, Survives (next value)) :
    Terminates (code >>= next) s ↔ Terminates code s := by
  constructor
  · rintro ⟨t, ht⟩
    rw [EStateM.run_bind] at ht
    split at ht
    · exact absurd ⟨t, ht⟩ (hnext _ _)
    · rename_i interrupt u hcode
      cases ht
      exact ⟨t, hcode⟩
  · rintro ⟨t, ht⟩
    exact ⟨t, by rw [EStateM.run_bind, ht]⟩

/-- A handler that returns leaves only the ends of the body. -/
theorem terminates_catching (hhandler : Survives handler) :
    Terminates (catching body handler) s ↔ Terminates body s := by
  constructor
  · rintro ⟨t, ht⟩
    rw [run_catching] at ht
    split at ht
    · exact absurd ⟨t, ht⟩ (hhandler _)
    · exact ⟨t, ht⟩
  · rintro ⟨t, ht⟩
    exact ⟨t, by rw [run_catching, ht]⟩

end Noexcept
