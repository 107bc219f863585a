import Mathlib.Order.Basic

/-!
# A timer whose completions are queued

A `Timer` has an expiry and any number of waits.  A wait ends by elapsing, by being
cancelled or by an error; its handler is then queued, and a queued handler is
delivered as it is whatever happens to the timer in between.  Setting the expiry
cancels the waits that are pending but does not recall the handlers that are queued.

`Due` says that the queued handlers that elapsed are not ahead of the expiry.  Every
operation keeps it but one: setting the expiry keeps it when no such handler is queued.
-/

/-- How a wait ended. -/
inductive TimerResult
  | elapsed
  | aborted
  | failed
  deriving DecidableEq

/-- A timer with the numbers of its waits: pending, and ended with the handler queued. -/
structure Timer (Time : Type*) where
  expiry : Time
  pending : ℕ
  elapsed : ℕ
  aborted : ℕ
  failed : ℕ

namespace Timer

variable {Time : Type*}

/-- A timer without waits. -/
def idle (expiry : Time) : Timer Time := ⟨expiry, 0, 0, 0, 0⟩

/-- The handlers that are pending or queued. -/
def outstanding (t : Timer Time) : ℕ := t.pending + t.elapsed + t.aborted + t.failed

/-- Start a wait. -/
def asyncWait (t : Timer Time) : Timer Time := { t with pending := t.pending + 1 }

/-- Cancel the pending waits. -/
def cancel (t : Timer Time) : Timer Time :=
  { t with pending := 0, aborted := t.aborted + t.pending }

/-- Set the expiry, which cancels the pending waits. -/
def expiresAt (t : Timer Time) (expiry : Time) : Timer Time := { t.cancel with expiry }

/-- The pending waits elapse once the expiry is reached. -/
def elapse [LE Time] [DecidableLE Time] (t : Timer Time) (now : Time) : Option (Timer Time) :=
  if t.expiry ≤ now then some { t with pending := 0, elapsed := t.elapsed + t.pending } else none

/-- The pending waits fail. -/
def fail (t : Timer Time) : Timer Time := { t with pending := 0, failed := t.failed + t.pending }

/-- Take a queued handler off the queue. -/
def deliver (t : Timer Time) : TimerResult → Option (Timer Time)
  | .elapsed => if 0 < t.elapsed then some { t with elapsed := t.elapsed - 1 } else none
  | .aborted => if 0 < t.aborted then some { t with aborted := t.aborted - 1 } else none
  | .failed => if 0 < t.failed then some { t with failed := t.failed - 1 } else none

/-! ## Outstanding handlers -/

theorem outstanding_cancel (t : Timer Time) : t.cancel.outstanding = t.outstanding := by
  simp only [outstanding, cancel]
  omega

theorem outstanding_fail (t : Timer Time) : t.fail.outstanding = t.outstanding := by
  simp only [outstanding, fail]
  omega

theorem outstanding_of_elapse [LE Time] [DecidableLE Time] {t t' : Timer Time} {now : Time}
    (h : t.elapse now = some t') : t'.outstanding = t.outstanding := by
  simp only [elapse, Option.ite_none_right_eq_some, Option.some.injEq] at h
  obtain ⟨_, rfl⟩ := h
  simp only [outstanding]
  omega

/-- A delivered handler was outstanding. -/
theorem outstanding_of_deliver {t t' : Timer Time} {result : TimerResult}
    (h : t.deliver result = some t') : t.outstanding = t'.outstanding + 1 := by
  cases result <;> simp only [deliver, Option.ite_none_right_eq_some, Option.some.injEq] at h <;>
    obtain ⟨_, rfl⟩ := h <;> simp only [outstanding] <;> omega

theorem expiry_of_deliver {t t' : Timer Time} {result : TimerResult}
    (h : t.deliver result = some t') : t'.expiry = t.expiry ∧ t'.elapsed ≤ t.elapsed := by
  cases result <;> simp only [deliver, Option.ite_none_right_eq_some, Option.some.injEq] at h <;>
    obtain ⟨_, rfl⟩ := h <;> simp

/-! ## Handlers that elapsed -/

section Due

variable [Preorder Time] {t t' : Timer Time} {now later expiry : Time}

/-- A queued handler that elapsed finds the expiry reached. -/
def Due (t : Timer Time) (now : Time) : Prop := 0 < t.elapsed → t.expiry ≤ now

theorem due_idle : (idle expiry).Due now := by
  simp [Due, idle]

theorem Due.mono (h : t.Due now) (hle : now ≤ later) : t.Due later :=
  fun hpos => (h hpos).trans hle

theorem Due.asyncWait (h : t.Due now) : t.asyncWait.Due now := h

theorem Due.cancel (h : t.Due now) : t.cancel.Due now := h

theorem Due.fail (h : t.Due now) : t.fail.Due now := h

theorem due_expiresAt (hnone : t.elapsed = 0) : (t.expiresAt expiry).Due now := by
  simp [Due, expiresAt, Timer.cancel, hnone]

theorem due_of_elapse [DecidableLE Time] (h : t.elapse now = some t') : t'.Due now := by
  unfold elapse at h
  split at h
  · obtain rfl := Option.some.inj h
    rename_i hreached
    exact fun _ => hreached
  · cases h

theorem Due.deliver {result : TimerResult} (h : t.Due now) (hd : t.deliver result = some t') :
    t'.Due now := by
  obtain ⟨hexpiry, hle⟩ := expiry_of_deliver hd
  intro hpos
  rw [hexpiry]
  exact h (Nat.lt_of_lt_of_le hpos hle)

/-- A handler that elapsed is delivered no earlier than the expiry. -/
theorem Due.expiry_le_of_deliver (h : t.Due now) (hd : t.deliver .elapsed = some t') :
    t.expiry ≤ now := by
  simp only [Timer.deliver, Option.ite_none_right_eq_some] at hd
  exact h hd.1

end Due

end Timer
