import CppSim.Library.Machine
import Mathlib.Tactic.Linarith

/-!
# An outbox drained by one chain of continuations

An `Outbox` is a bounded queue whose messages are handed one at a time to an
asynchronous operation.  Any number of producers push; at most one *chain* drains.
The producer that finds no chain running starts one, and the chain then alternates
between two asynchronous points: it is *scheduled* to take the head of the queue,
and it is *active* while the operation it handed the head to is pending.

An outbox can be closed.  A request to close refuses further messages, and the
check it asks for shuts the outbox down only when no chain is running; a running
chain notices the request when it has emptied the queue.  An outbox can also be
aborted, which stops the chain where it is.

## Invariants

* `ChainInv`: the flag `busy` counts the chain, a message waiting in an open outbox
  has a chain, and a chain that is scheduled in an open outbox finds a message.
* `OrderInv`: the accepted messages are, in order, those handed over, the one
  taken, those waiting and those a failure lost.
* `CloseInv`: a request to close an open outbox is still being checked, or is left
  to the running chain, or has reached the shutdown; the shutdown begins once.
-/

/-- What an observer sees of an outbox. -/
inductive Outbox.Signal (α : Type*)
  | accepted (m : α)
  | refused (m : α)
  | handed (m : α)
  | completed (m : α)
  | failed (m : α)
  | shutdown

/-- The state of an outbox.  The counters locate the continuations under way. -/
structure Outbox (α : Type*) where
  queue : List α
  busy : Bool
  closing : Bool
  closed : Bool
  /-- Continuations that hold the chain and are about to be scheduled. -/
  starting : ℕ
  /-- Continuations that are scheduled to take the head of the queue. -/
  scheduled : ℕ
  /-- Messages taken off the queue and not yet handed over. -/
  taken : List α
  /-- Messages handed over whose operation is pending. -/
  active : List α
  /-- Requests to close that have yet to look at `busy`. -/
  asking : ℕ
  /-- Continuations that have decided to shut the outbox down. -/
  shutting : ℕ
  /-- Some continuation has entered the shutdown. -/
  initiated : Bool
  /-- Continuations between closing the outbox and running the shutdown. -/
  ending : ℕ

namespace Outbox

variable {α : Type*}

/-! ## Steps -/

/-- The steps of an outbox that holds at most `capacity` messages. -/
inductive Step (capacity : ℕ) : Outbox α → List (Signal α) → Outbox α → Prop
  | pushStart {b : Outbox α} (m : α) (hopen : b.closed = false) (hkeep : b.closing = false)
      (hroom : b.queue.length < capacity) (hidle : b.busy = false) :
      Step capacity b [.accepted m]
        { b with queue := b.queue ++ [m], busy := true, starting := b.starting + 1 }
  | pushJoin {b : Outbox α} (m : α) (hopen : b.closed = false) (hkeep : b.closing = false)
      (hroom : b.queue.length < capacity) (hbusy : b.busy = true) :
      Step capacity b [.accepted m] { b with queue := b.queue ++ [m] }
  | refuse {b : Outbox α} (m : α) : Step capacity b [.refused m] b
  | schedule {b : Outbox α} {n : ℕ} (hstarting : b.starting = n + 1) :
      Step capacity b [] { b with starting := n, scheduled := b.scheduled + 1 }
  | take {b : Outbox α} {n : ℕ} {m : α} {rest : List α} (hscheduled : b.scheduled = n + 1)
      (hopen : b.closed = false) (hqueue : b.queue = m :: rest) :
      Step capacity b []
        { b with scheduled := n, queue := rest, taken := b.taken ++ [m] }
  | abandon {b : Outbox α} {n : ℕ} (hscheduled : b.scheduled = n + 1)
      (hstop : b.closed = true ∨ b.queue = []) :
      Step capacity b [] { b with scheduled := n, busy := false }
  | hand {b : Outbox α} {m : α} {rest : List α} (htaken : b.taken = m :: rest) :
      Step capacity b [.handed m] { b with taken := rest, active := b.active ++ [m] }
  | finish {b : Outbox α} {m : α} {rest : List α} (hactive : b.active = m :: rest)
      (hqueue : b.queue = []) (hkeep : b.closing = false) :
      Step capacity b [.completed m] { b with active := rest, busy := false }
  | finishClosing {b : Outbox α} {m : α} {rest : List α} (hactive : b.active = m :: rest)
      (hqueue : b.queue = []) (hclosing : b.closing = true) :
      Step capacity b [.completed m]
        { b with active := rest, busy := false, shutting := b.shutting + 1 }
  | continue {b : Outbox α} {m : α} {rest : List α} (hactive : b.active = m :: rest)
      (hqueue : b.queue ≠ []) :
      Step capacity b [.completed m]
        { b with active := rest, busy := true, starting := b.starting + 1 }
  | fail {b : Outbox α} {m : α} {rest : List α} (hactive : b.active = m :: rest) :
      Step capacity b [.failed m]
        { b with active := rest, busy := false, closing := true, queue := [],
                 shutting := b.shutting + 1 }
  | ask {b : Outbox α} :
      Step capacity b [] { b with closing := true, asking := b.asking + 1 }
  | askClosed {b : Outbox α} (hclosed : b.closed = true) :
      Step capacity b [] { b with closing := true }
  | forget {b : Outbox α} {n : ℕ} (hasking : b.asking = n + 1) (hclosed : b.closed = true) :
      Step capacity b [] { b with asking := n }
  | checkBusy {b : Outbox α} {n : ℕ} (hasking : b.asking = n + 1) (hbusy : b.busy = true) :
      Step capacity b [] { b with asking := n }
  | checkIdle {b : Outbox α} {n : ℕ} (hasking : b.asking = n + 1) (hidle : b.busy = false) :
      Step capacity b [] { b with asking := n, shutting := b.shutting + 1 }
  | begin {b : Outbox α} {n : ℕ} (hshutting : b.shutting = n + 1) (hfirst : b.initiated = false)
      (hopen : b.closed = false) :
      Step capacity b []
        { b with shutting := n, initiated := true, closed := true, ending := b.ending + 1 }
  | skip {b : Outbox α} {n : ℕ} (hshutting : b.shutting = n + 1)
      (hdone : b.initiated = true ∨ b.closed = true) :
      Step capacity b [] { b with shutting := n, initiated := true }
  | shutdown {b : Outbox α} {n : ℕ} (hending : b.ending = n + 1) :
      Step capacity b [.shutdown] { b with ending := n }
  | abort {b : Outbox α} : Step capacity b [] { b with closed := true }

/-- The machine of an outbox. -/
def machine (α : Type*) (capacity : ℕ) : Machine (Outbox α) Unit (Signal α) where
  step b _ es b' := Step capacity b es b'

/-- An outbox before its first message. -/
def empty (α : Type*) : Outbox α where
  queue := []
  busy := false
  closing := false
  closed := false
  starting := 0
  scheduled := 0
  taken := []
  active := []
  asking := 0
  shutting := 0
  initiated := false
  ending := 0

/-- The number of chains running: continuations between the step that sets `busy`
and the step that clears it. -/
def chains (b : Outbox α) : ℕ := b.starting + b.scheduled + b.taken.length + b.active.length

/-! ## What an observer counts -/

def accepted (es : List (Signal α)) : List α :=
  es.filterMap fun | .accepted m => some m | _ => none

def handed (es : List (Signal α)) : List α :=
  es.filterMap fun | .handed m => some m | _ => none

def completed (es : List (Signal α)) : List α :=
  es.filterMap fun | .completed m => some m | _ => none

def failed (es : List (Signal α)) : List α :=
  es.filterMap fun | .failed m => some m | _ => none

/-- The messages whose operation is over, successfully or not. -/
def settled (es : List (Signal α)) : List α :=
  es.filterMap fun | .completed m => some m | .failed m => some m | _ => none

def shutdowns (es : List (Signal α)) : ℕ :=
  (es.filter fun | .shutdown => true | _ => false).length

theorem settled_eq_completed {es : List (Signal α)} (hnone : failed es = []) :
    settled es = completed es := by
  induction es with
  | nil => rfl
  | cons e es ih =>
      cases e <;> simp_all [settled, completed, failed]

/-! ## The chain -/

section Chain

variable {capacity : ℕ} {b b' : Outbox α} {es : List (Signal α)} {n : ℕ} {m : α} {rest : List α}

/-- The flag, the counters and the queue agree. -/
structure ChainInv (capacity : ℕ) (b : Outbox α) : Prop where
  chains_eq : b.chains = b.busy.toNat
  busy_of_waiting : b.closed = false → b.queue ≠ [] → b.busy = true
  waiting_of_scheduled : b.closed = false → 0 < b.starting + b.scheduled → b.queue ≠ []
  length_le : b.queue.length ≤ capacity

theorem chainInv_empty : ChainInv capacity (empty α) := by
  constructor <;> simp [empty, chains]

/-- With the flag clear there is no continuation of the chain anywhere. -/
theorem ChainInv.of_idle (inv : ChainInv capacity b) (h : b.busy = false) :
    b.starting = 0 ∧ b.scheduled = 0 ∧ b.taken = [] ∧ b.active = [] := by
  have hchains := inv.chains_eq
  rw [h, chains, Bool.toNat_false] at hchains
  refine ⟨by omega, by omega, List.length_eq_zero_iff.mp (by omega),
    List.length_eq_zero_iff.mp (by omega)⟩

theorem ChainInv.chains_le_one (inv : ChainInv capacity b) : b.chains ≤ 1 := by
  rw [inv.chains_eq]
  exact Bool.toNat_le b.busy

/-- Wherever a continuation of the chain is found, the flag is set. -/
theorem ChainInv.busy_of_pos (inv : ChainInv capacity b) (h : 0 < b.chains) :
    b.busy = true := by
  have hchains := inv.chains_eq
  cases hbusy : b.busy
  · simp [hbusy] at hchains; omega
  · rfl

theorem ChainInv.of_starting (inv : ChainInv capacity b) (h : b.starting = n + 1) :
    b.busy = true ∧ n = 0 ∧ b.scheduled = 0 ∧ b.taken = [] ∧ b.active = [] := by
  have hone := inv.chains_le_one
  have hbusy := inv.busy_of_pos (by unfold chains; omega)
  unfold chains at hone
  exact ⟨hbusy, by omega, by omega, List.length_eq_zero_iff.mp (by omega),
    List.length_eq_zero_iff.mp (by omega)⟩

theorem ChainInv.of_scheduled (inv : ChainInv capacity b) (h : b.scheduled = n + 1) :
    b.busy = true ∧ n = 0 ∧ b.starting = 0 ∧ b.taken = [] ∧ b.active = [] := by
  have hone := inv.chains_le_one
  have hbusy := inv.busy_of_pos (by unfold chains; omega)
  unfold chains at hone
  exact ⟨hbusy, by omega, by omega, List.length_eq_zero_iff.mp (by omega),
    List.length_eq_zero_iff.mp (by omega)⟩

theorem ChainInv.of_taken (inv : ChainInv capacity b) (h : b.taken = m :: rest) :
    b.busy = true ∧ rest = [] ∧ b.starting = 0 ∧ b.scheduled = 0 ∧ b.active = [] := by
  have hone := inv.chains_le_one
  have hlength : b.taken.length = rest.length + 1 := by simp [h]
  have hbusy := inv.busy_of_pos (by unfold chains; omega)
  unfold chains at hone
  exact ⟨hbusy, List.length_eq_zero_iff.mp (by omega), by omega, by omega,
    List.length_eq_zero_iff.mp (by omega)⟩

theorem ChainInv.of_active (inv : ChainInv capacity b) (h : b.active = m :: rest) :
    b.busy = true ∧ rest = [] ∧ b.starting = 0 ∧ b.scheduled = 0 ∧ b.taken = [] := by
  have hone := inv.chains_le_one
  have hlength : b.active.length = rest.length + 1 := by simp [h]
  have hbusy := inv.busy_of_pos (by unfold chains; omega)
  unfold chains at hone
  exact ⟨hbusy, List.length_eq_zero_iff.mp (by omega), by omega, by omega,
    List.length_eq_zero_iff.mp (by omega)⟩

theorem ChainInv.step (h : Step capacity b es b') (inv : ChainInv capacity b) :
    ChainInv capacity b' := by
  have hwaiting := inv.busy_of_waiting
  have hscheduled := inv.waiting_of_scheduled
  have hlength := inv.length_le
  cases h with
  -- the flag was clear, so this is the only chain
  | pushStart m hopen hkeep hroom hidle =>
      obtain ⟨hstarting, hsched, htaken, hactive⟩ := inv.of_idle hidle
      refine ⟨?_, by simp, by simp, by simpa using Nat.succ_le_of_lt hroom⟩
      simp [chains, hstarting, hsched, htaken, hactive]
  | pushJoin m hopen hkeep hroom hbusy =>
      exact ⟨inv.chains_eq, fun _ _ => hbusy, by simp, by simpa using Nat.succ_le_of_lt hroom⟩
  | refuse => exact inv
  -- the one continuation moves to the next point of the chain
  | schedule hstarting =>
      obtain ⟨hbusy, rfl, hsched, htaken, hactive⟩ := inv.of_starting hstarting
      refine ⟨?_, fun _ _ => hbusy, fun hopen _ => hscheduled hopen (by omega), hlength⟩
      simp [chains, hbusy, hsched, htaken, hactive]
  | take hsched hopen hqueue =>
      obtain ⟨hbusy, rfl, hstarting, htaken, hactive⟩ := inv.of_scheduled hsched
      refine ⟨?_, fun _ _ => hbusy, by simp [hstarting], ?_⟩
      · simp [chains, hbusy, hstarting, htaken, hactive]
      · simp only [hqueue, List.length_cons] at hlength
        exact (Nat.le_succ _).trans hlength
  -- the chain ends, and the flag is cleared
  | abandon hsched hstop =>
      obtain ⟨_, rfl, hstarting, htaken, hactive⟩ := inv.of_scheduled hsched
      refine ⟨by simp [chains, hstarting, htaken, hactive], ?_, by simp [hstarting], hlength⟩
      intro hopen hne
      rcases hstop with hclosed | hnil
      · exact absurd hclosed (by simpa using hopen)
      · exact absurd hnil hne
  | hand htaken =>
      obtain ⟨hbusy, rfl, hstarting, hsched, hactive⟩ := inv.of_taken htaken
      refine ⟨?_, fun _ _ => hbusy, by simp [hstarting, hsched], hlength⟩
      simp [chains, hbusy, hstarting, hsched, hactive]
  | finish hactive hqueue =>
      obtain ⟨_, rfl, hstarting, hsched, htaken⟩ := inv.of_active hactive
      exact ⟨by simp [chains, hstarting, hsched, htaken], by simp [hqueue],
        by simp [hstarting, hsched], hlength⟩
  | finishClosing hactive hqueue =>
      obtain ⟨_, rfl, hstarting, hsched, htaken⟩ := inv.of_active hactive
      exact ⟨by simp [chains, hstarting, hsched, htaken], by simp [hqueue],
        by simp [hstarting, hsched], hlength⟩
  | «continue» hactive hqueue =>
      obtain ⟨_, rfl, hstarting, hsched, htaken⟩ := inv.of_active hactive
      exact ⟨by simp [chains, hstarting, hsched, htaken], by simp, fun _ _ => hqueue, hlength⟩
  | fail hactive =>
      obtain ⟨_, rfl, hstarting, hsched, htaken⟩ := inv.of_active hactive
      exact ⟨by simp [chains, hstarting, hsched, htaken], by simp,
        by simp [hstarting, hsched], by simp⟩
  | begin | abort => exact ⟨inv.chains_eq, by simp, by simp, hlength⟩
  | ask | askClosed | forget | checkBusy | checkIdle | skip | shutdown =>
      exact ⟨inv.chains_eq, hwaiting, hscheduled, hlength⟩

end Chain

/-! ## The order of the messages -/

section Order

variable {capacity : ℕ} {b b' : Outbox α} {τ es : List (Signal α)}

/-- Where each accepted message is, in the order of acceptance. -/
structure OrderInv (b : Outbox α) (τ : List (Signal α)) : Prop where
  accepted_eq : ∃ lost, accepted τ = handed τ ++ b.taken ++ b.queue ++ lost ∧
    (lost ≠ [] → b.closing = true ∧ b.taken = [] ∧ b.queue = [] ∧ failed τ ≠ [])
  handed_eq : handed τ = settled τ ++ b.active

theorem orderInv_empty : OrderInv (empty α) [] :=
  ⟨⟨[], by simp [accepted, handed, empty], by simp⟩, by simp [handed, settled, empty]⟩

/-- A step that hands nothing over and accepts nothing leaves the order alone. -/
private theorem OrderInv.of_silent (inv : OrderInv b τ) (hqueue : b'.queue = b.queue)
    (htaken : b'.taken = b.taken) (hactive : b'.active = b.active)
    (hclosing : b.closing = true → b'.closing = true) : OrderInv b' (τ ++ []) := by
  obtain ⟨⟨lost, haccepted, hlost⟩, hhanded⟩ := inv
  rw [List.append_nil]
  refine ⟨⟨lost, by rw [haccepted, hqueue, htaken], fun hne => ?_⟩, by rw [hhanded, hactive]⟩
  obtain ⟨hc, ht, hq, hf⟩ := hlost hne
  exact ⟨hclosing hc, htaken.trans ht, hqueue.trans hq, hf⟩

theorem OrderInv.step (h : Step capacity b es b') (chain : ChainInv capacity b)
    (inv : OrderInv b τ) : OrderInv b' (τ ++ es) := by
  obtain ⟨⟨lost, haccepted, hlost⟩, hhanded⟩ := id inv
  cases h with
  | pushStart m hopen hkeep | pushJoin m hopen hkeep =>
      -- nothing is lost before a failure, and a failure asks to close
      have hnil : lost = [] := by
        by_contra hne
        simp [hkeep] at hlost
        exact hne hlost
      subst hnil
      refine ⟨⟨[], ?_, by simp⟩, ?_⟩
      · simp_all [accepted, handed]
      · simp_all [handed, settled]
  | refuse m =>
      refine ⟨⟨lost, by simpa [accepted, handed] using haccepted, fun hne => ?_⟩,
        by simpa [handed, settled] using hhanded⟩
      obtain ⟨hc, ht, hq, hf⟩ := hlost hne
      exact ⟨hc, ht, hq, by simpa [failed] using hf⟩
  | take hsched hopen hqueue =>
      have hnil : lost = [] := by
        by_contra hne
        simpa [hqueue] using (hlost hne).2.2.1
      subst hnil
      exact ⟨⟨[], by simp [haccepted, hqueue], by simp⟩, by simpa using hhanded⟩
  -- handed over in the order of the queue
  | hand htaken =>
      obtain ⟨_, rfl, _, _, hactive⟩ := chain.of_taken htaken
      have hnil : lost = [] := by
        by_contra hne
        simpa [htaken] using (hlost hne).2.1
      subst hnil
      refine ⟨⟨[], ?_, by simp⟩, ?_⟩
      · simpa [accepted, handed, htaken] using haccepted
      · simpa [handed, settled, hactive] using hhanded
  | finish hactive hqueue | finishClosing hactive hqueue | «continue» hactive hqueue =>
      obtain ⟨_, rfl, _⟩ := chain.of_active hactive
      refine ⟨⟨lost, by simpa [accepted, handed] using haccepted, fun hne => ?_⟩, ?_⟩
      · obtain ⟨hc, ht, hq, hf⟩ := hlost hne
        exact ⟨hc, ht, hq, by simpa [failed] using hf⟩
      · simpa [handed, settled, hactive] using hhanded
  -- a failure loses what is still queued
  | fail hactive =>
      obtain ⟨_, rfl, _, _, htaken⟩ := chain.of_active hactive
      refine ⟨⟨b.queue ++ lost, ?_, fun _ => ⟨rfl, htaken, rfl, by simp [failed]⟩⟩, ?_⟩
      · simpa [accepted, handed, htaken] using haccepted
      · simpa [handed, settled, hactive] using hhanded
  | shutdown =>
      refine ⟨⟨lost, by simpa [accepted, handed] using haccepted, fun hne => ?_⟩,
        by simpa [handed, settled] using hhanded⟩
      obtain ⟨hc, ht, hq, hf⟩ := hlost hne
      exact ⟨hc, ht, hq, by simpa [failed] using hf⟩
  | schedule | abandon | ask | askClosed | forget | checkBusy | checkIdle | begin | skip | abort =>
      exact inv.of_silent rfl rfl rfl (by simp)

/-- What has been handed over is a prefix of what was accepted. -/
theorem OrderInv.handed_isPrefix_accepted (inv : OrderInv b τ) : handed τ <+: accepted τ := by
  obtain ⟨lost, haccepted, _⟩ := inv.accepted_eq
  exact ⟨b.taken ++ b.queue ++ lost, by simp [haccepted]⟩

end Order

/-! ## Closing -/

section Close

variable {capacity : ℕ} {b b' : Outbox α} {τ es : List (Signal α)}

/-- Where a request to close is, and how far the shutdown has come. -/
structure CloseInv (b : Outbox α) (τ : List (Signal α)) : Prop where
  closing_of_pending : 0 < b.asking + b.shutting → b.closing = true
  pending_of_closing : b.closing = true → b.closed = false →
    0 < b.asking + b.shutting ∨ b.busy = true
  drained_of_shutting : 0 < b.shutting → b.closed = false → b.busy = false ∧ b.queue = []
  closed_of_initiated : b.initiated = true → b.closed = true
  shutdowns_le : shutdowns τ + b.ending ≤ b.initiated.toNat
  drained_of_ending : 0 < b.ending →
    b.closed = true ∧ b.starting + b.scheduled = 0 ∧ b.taken = [] ∧ b.active = [] ∧ b.queue = []

theorem closeInv_empty : CloseInv (empty α) [] := by
  constructor <;> simp [empty, shutdowns]

/-- A request to close that has not closed the outbox keeps its accounts across a
step that leaves the flags and the requests alone. -/
private theorem CloseInv.of_chain_step (inv : CloseInv b τ) (hclosing : b'.closing = b.closing)
    (hclosed : b'.closed = b.closed) (hasking : b'.asking = b.asking)
    (hshutting : b'.shutting = b.shutting) (hinitiated : b'.initiated = b.initiated)
    (hending : b'.ending = b.ending) (hshutdowns : shutdowns (τ ++ es) = shutdowns τ)
    (hpending : b.closing = true → b.closed = false →
      b'.busy = true ∨ 0 < b.asking + b.shutting)
    (hdrained : 0 < b.shutting → b.closed = false → b'.busy = false ∧ b'.queue = [])
    (hended : 0 < b.ending → b'.starting + b'.scheduled = 0 ∧ b'.taken = [] ∧ b'.active = [] ∧
      b'.queue = []) : CloseInv b' (τ ++ es) := by
  refine ⟨?_, ?_, ?_, ?_, ?_, ?_⟩
  · rw [hasking, hshutting, hclosing]
    exact inv.closing_of_pending
  · rw [hasking, hshutting, hclosing, hclosed]
    exact fun h h' => (hpending h h').symm
  · rw [hshutting, hclosed]
    exact hdrained
  · rw [hinitiated, hclosed]
    exact inv.closed_of_initiated
  · rw [hshutdowns, hending, hinitiated]
    exact inv.shutdowns_le
  · rw [hending, hclosed]
    exact fun h => ⟨(inv.drained_of_ending h).1, hended h⟩

theorem CloseInv.step (h : Step capacity b es b') (chain : ChainInv capacity b)
    (inv : CloseInv b τ) : CloseInv b' (τ ++ es) := by
  obtain ⟨hclosing, hpending, hdrained, hinit, honce, hended⟩ := id inv
  cases h with
  | pushStart m hopen hkeep | pushJoin m hopen hkeep =>
      -- a push needs an open outbox that nobody has asked to close
      have hnone : ¬ 0 < b.asking + b.shutting := fun hpos => by simp [hclosing hpos] at hkeep
      refine inv.of_chain_step rfl rfl rfl rfl rfl rfl (by simp [shutdowns]) ?_ ?_ ?_
      · simp [hkeep]
      · intro hpos
        omega
      · intro hpos
        simp [(hended hpos).1] at hopen
  | refuse =>
      exact inv.of_chain_step rfl rfl rfl rfl rfl rfl (by simp [shutdowns])
        (fun h h' => (hpending h h').symm) hdrained (fun h => (hended h).2)
  | schedule hstarting =>
      refine inv.of_chain_step rfl rfl rfl rfl rfl rfl (by simp)
        (fun h h' => (hpending h h').symm) hdrained ?_
      intro hpos
      have := (hended hpos).2.1
      omega
  | take hsched hopen hqueue =>
      refine inv.of_chain_step rfl rfl rfl rfl rfl rfl (by simp)
        (fun h h' => (hpending h h').symm) ?_ ?_
      · intro hpos hopen
        simp [(hdrained hpos hopen).2] at hqueue
      · intro hpos
        simp [(hended hpos).1] at hopen
  | abandon hsched hstop =>
      -- a scheduled continuation of an open outbox would have found a message
      have hclosed : b.closed = true := by
        rcases hstop with hclosed | hnil
        · exact hclosed
        · by_contra hopen
          exact chain.waiting_of_scheduled (by simpa using hopen) (by omega) hnil
      refine inv.of_chain_step rfl rfl rfl rfl rfl rfl (by simp) ?_ ?_ ?_
      · simp [hclosed]
      · simp [hclosed]
      · intro hpos
        have := (hended hpos).2.1
        omega
  | hand htaken =>
      refine inv.of_chain_step rfl rfl rfl rfl rfl rfl (by simp [shutdowns])
        (fun h h' => (hpending h h').symm) hdrained ?_
      intro hpos
      simp [(hended hpos).2.2.1] at htaken
  | finish hactive hqueue hkeep =>
      have hnone : ¬ 0 < b.asking + b.shutting := fun hpos => by simp [hclosing hpos] at hkeep
      refine inv.of_chain_step rfl rfl rfl rfl rfl rfl (by simp [shutdowns]) ?_ ?_ ?_
      · simp [hkeep]
      · intro hpos
        omega
      · intro hpos
        simp [(hended hpos).2.2.2.1] at hactive
  | «continue» hactive hqueue =>
      refine inv.of_chain_step rfl rfl rfl rfl rfl rfl (by simp [shutdowns]) ?_ ?_ ?_
      · exact fun _ _ => .inl rfl
      · intro hpos hopen
        exact absurd (hdrained hpos hopen).2 hqueue
      · intro hpos
        simp [(hended hpos).2.2.2.1] at hactive
  -- the last completion after a request asks for the shutdown itself
  | finishClosing hactive hqueue hclosing =>
      refine ⟨fun _ => hclosing, fun _ _ => .inl (by simp), fun _ _ => ⟨rfl, hqueue⟩, hinit,
        by simpa [shutdowns] using honce, ?_⟩
      intro hpos
      simp [(hended hpos).2.2.2.1] at hactive
  | fail hactive =>
      refine ⟨fun _ => rfl, fun _ _ => .inl (by simp), fun _ _ => ⟨rfl, rfl⟩, hinit,
        by simpa [shutdowns] using honce, ?_⟩
      intro hpos
      simp [(hended hpos).2.2.2.1] at hactive
  -- requests to close, from the call to the check of the flag
  | ask =>
      exact ⟨fun _ => rfl, fun _ _ => .inl (by simp), hdrained, hinit, by simpa using honce,
        hended⟩
  | askClosed hclosed =>
      exact ⟨fun _ => rfl, by simp [hclosed], hdrained, hinit, by simpa using honce, hended⟩
  | forget hasking hclosed =>
      exact ⟨fun _ => hclosing (by omega), by simp [hclosed], by simp [hclosed], hinit,
        by simpa using honce, hended⟩
  | checkBusy hasking hbusy =>
      exact ⟨fun _ => hclosing (by omega), fun _ _ => .inr hbusy, hdrained, hinit,
        by simpa using honce, hended⟩
  | checkIdle hasking hidle =>
      refine ⟨fun _ => hclosing (by omega), fun _ _ => .inl (by simp), ?_, hinit,
        by simpa using honce, hended⟩
      intro _ hopen
      refine ⟨hidle, ?_⟩
      by_contra hne
      simp [chain.busy_of_waiting hopen hne] at hidle
  -- the flag that lets only the first shutdown through
  | begin hshutting hfirst hopen =>
      obtain ⟨hidle, hqueue⟩ := hdrained (by omega) hopen
      obtain ⟨hstarting, hsched, htaken, hactive⟩ := chain.of_idle hidle
      refine ⟨fun _ => hclosing (by omega), by simp, by simp, by simp, ?_, ?_⟩
      · simp only [hfirst, Bool.toNat_false] at honce
        simp only [List.append_nil, Bool.toNat_true]
        omega
      · exact fun _ => ⟨rfl, by simp [hstarting, hsched], htaken, hactive, hqueue⟩
  | skip hshutting hdone =>
      have hclosed : b.closed = true := hdone.elim hinit id
      refine ⟨fun _ => hclosing (by omega), by simp [hclosed], by simp [hclosed],
        fun _ => hclosed, ?_, hended⟩
      have := Bool.toNat_le b.initiated
      simp only [List.append_nil, Bool.toNat_true]
      omega
  | shutdown hending =>
      refine ⟨hclosing, hpending, hdrained, hinit, ?_, fun _ => hended (by omega)⟩
      simp only [shutdowns, List.filter_append, List.length_append] at honce ⊢
      simp
      omega
  | abort =>
      exact ⟨hclosing, by simp, by simp, fun _ => rfl, by simpa using honce,
        fun hpos => ⟨rfl, (hended hpos).2⟩⟩

end Close

/-! ## Runs -/

section Runs

variable {capacity : ℕ} {b : Outbox α} {us : List Unit} {τ : List (Signal α)}

/-- Everything that holds of an outbox along its runs. -/
structure Inv (capacity : ℕ) (b : Outbox α) (τ : List (Signal α)) : Prop where
  chain : ChainInv capacity b
  order : OrderInv b τ
  close : CloseInv b τ

theorem inv_of_run (run : (machine α capacity).Run (empty α) us τ b) : Inv capacity b τ := by
  refine run.invariant ⟨chainInv_empty, orderInv_empty, closeInv_empty⟩ ?_
  intro es t _ es' u inv hstep
  exact ⟨inv.chain.step hstep, inv.order.step hstep inv.chain, inv.close.step hstep inv.chain⟩

/-- A requested close is not lost: an outbox at rest that was asked to close is closed. -/
theorem Inv.closed_of_closing (inv : Inv capacity b τ) (hclosing : b.closing = true)
    (hrest : b.chains = 0) (hasking : b.asking = 0) (hshutting : b.shutting = 0) :
    b.closed = true := by
  by_contra hopen
  rcases inv.close.pending_of_closing hclosing (by simpa using hopen) with hpos | hbusy
  · omega
  · have hchains := inv.chain.chains_eq
    simp [hbusy, hrest] at hchains

theorem Inv.shutdowns_le_one (inv : Inv capacity b τ) : shutdowns τ ≤ 1 := by
  have := inv.close.shutdowns_le
  have := Bool.toNat_le b.initiated
  omega

/-- The shutdown flushes first: unless an operation failed, every accepted message has been
handed over and its operation has completed. -/
theorem Inv.flushed_of_ending (inv : Inv capacity b τ) (hending : 0 < b.ending)
    (hnone : failed τ = []) : handed τ = accepted τ ∧ completed τ = accepted τ := by
  obtain ⟨_, _, htaken, hactive, hqueue⟩ := inv.close.drained_of_ending hending
  obtain ⟨lost, haccepted, hlost⟩ := inv.order.accepted_eq
  have hnil : lost = [] := by
    by_contra hne
    exact (hlost hne).2.2.2 hnone
  have hhanded : handed τ = accepted τ := by
    rw [haccepted]
    simp [htaken, hqueue, hnil]
  refine ⟨hhanded, ?_⟩
  rw [← hhanded, inv.order.handed_eq, settled_eq_completed hnone]
  simp [hactive]

end Runs

end Outbox
