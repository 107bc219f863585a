import CppSim.Library.Machine
import CppSim.Server.Config

/-!
# The accept loop

`AcceptLoop` is the acceptor's half of a server, without the world of its sessions.
`on_accept` and the handler of the backoff timer run on the acceptor's strand; `stop` runs
on a thread of its own, of which `StopPhase` says how far it has come.  `make_shared` of a
session may throw, and so may `do_accept`, which then logs and returns.  An outstanding
wait of a backoff timer may complete with or without an error at any time, whether the
timer is still `backoff_timer_` or was cancelled: a handler that was queued before the
cancel completes without an error.

An observer sees how the accepts end that the backoff depends on, and each delay that
`expires_after` is given.  `AcceptTransition` says what a step can do.
-/

namespace CppSim.Server

/-- How an `async_accept` completes. -/
inductive AcceptResult
  | accepted
  /-- `operation_aborted`. -/
  | aborted
  | failed (isFatal : Bool)

/-- What the handler on the acceptor's strand does next. -/
inductive AcceptStrand
  | idle
  /-- `on_accept` with an error: the backoff timer. -/
  | backoff
  /-- The handler of the backoff timer: whether to retry. -/
  | checkRetry (timer : ℕ)
  /-- `on_accept`: release the timer, and look at `stopped_` and `alive_`. -/
  | releaseTimer
  | checkStopped
  | checkAlive
  | create
  /-- `run` of the new session. -/
  | running (i : ℕ)
  | doAccept
  deriving DecidableEq

/-- How far the call of `stop` has come that found `stopped_` unset. -/
inductive StopPhase
  | notCalled
  | requested
  | notAlive
  | timerReleased
  | acceptorClosed
  | sweeping (call : ℕ)
  | returned
  deriving DecidableEq

structure AcceptLoop where
  acceptorOpen : Bool
  alive : Bool
  stopped : Bool
  backoffSeconds : Int32
  /-- `backoff_timer_`, by number. -/
  backoffTimer : Option ℕ
  /-- The timers made so far. -/
  timers : ℕ
  /-- The timers whose wait is outstanding. -/
  backoffWaits : List ℕ
  /-- Outstanding `async_accept` operations. -/
  accepts : ℕ
  strand : AcceptStrand
  stopPhase : StopPhase

/-- What can happen next to an accept loop. -/
inductive AcceptAction
  /-- `run`, whose `do_accept` may throw. -/
  | run (throws : Bool)
  /-- Completions, which start on an idle strand. -/
  | onAccept (result : AcceptResult)
  | onBackoff (timer : ℕ) (failed : Bool)
  /-- The handler on the strand goes on.  Two of its steps may throw. -/
  | resume
  | create (session : Option ℕ)
  | doAccept (throws : Bool)
  /-- A thread calls `stop`, and the one that stops the server goes on: `call` is the number of
  its call of `stop_all`. -/
  | stop
  | stopNext (call : ℕ)

/-- What an observer sees of an accept loop. -/
inductive AcceptEvent
  | accepted
  /-- A transient error. -/
  | failed
  /-- `expires_after` of the backoff timer, in seconds. -/
  | retryAfter (delay : Int32)
  deriving DecidableEq

namespace AcceptLoop

/-- The constructor. -/
def construct : AcceptLoop where
  acceptorOpen := true
  alive := true
  stopped := false
  backoffSeconds := 1
  backoffTimer := none
  timers := 0
  backoffWaits := []
  accepts := 0
  strand := .idle
  stopPhase := .notCalled

/-- `do_accept`. -/
def doAccept (v : AcceptLoop) (throws : Bool) : AcceptLoop :=
  if throws then v else { v with accepts := v.accepts + 1 }

/-- `on_accept`, whose completion is off the queue. -/
def onAccept (v : AcceptLoop) : AcceptResult → AcceptLoop × List AcceptEvent
  | .aborted => (v, [])
  | .failed isFatal =>
      if !v.acceptorOpen || isFatal then (v, []) else ({ v with strand := .backoff }, [.failed])
  | .accepted => ({ v with backoffSeconds := 1, strand := .releaseTimer }, [.accepted])

/-- `on_accept` with an error: a new backoff timer. -/
def backoff (v : AcceptLoop) : AcceptLoop × List AcceptEvent :=
  ({ v with backoffTimer := some v.timers, timers := v.timers + 1,
            backoffWaits := v.backoffWaits ++ [v.timers],
            backoffSeconds := min (v.backoffSeconds * 2) (Int32.ofNat Config.maxBackoff),
            strand := .idle },
    [.retryAfter v.backoffSeconds])

/-- The handler of the backoff timer, up to the lock. -/
def onBackoff (v : AcceptLoop) (timer : ℕ) (failed : Bool) : AcceptLoop :=
  if !failed && v.alive then { v with strand := .checkRetry timer } else v

/-- The next step of the handler on the strand, where nothing throws. -/
def resume (v : AcceptLoop) : Option (AcceptLoop × List AcceptEvent) :=
  match v.strand with
  | .backoff => some v.backoff
  | .checkRetry timer =>
      some ({ v with strand :=
        if v.acceptorOpen && v.backoffTimer == some timer then .doAccept else .idle }, [])
  | .releaseTimer => some ({ v with backoffTimer := none, strand := .checkStopped }, [])
  | .checkStopped => some ({ v with strand := if v.stopped then .idle else .checkAlive }, [])
  | .checkAlive => some ({ v with strand := if v.alive then .create else .idle }, [])
  | .running _ => some ({ v with strand := .doAccept }, [])
  | .idle | .create | .doAccept => none

/-- The next step of `stop`, of whose `stop_all` the loop sees the beginning and the end. -/
def stopNext (v : AcceptLoop) (call : ℕ) : Option AcceptLoop :=
  match v.stopPhase with
  | .notCalled | .returned => none
  | .requested => some { v with alive := false, stopPhase := .notAlive }
  | .notAlive => some { v with backoffTimer := none, stopPhase := .timerReleased }
  | .timerReleased => some { v with acceptorOpen := false, stopPhase := .acceptorClosed }
  | .acceptorClosed => some { v with stopPhase := .sweeping call }
  | .sweeping _ => some { v with stopPhase := .returned }

/-- One step of an accept loop. -/
def step (v : AcceptLoop) : AcceptAction → Option (AcceptLoop × List AcceptEvent)
  | .run throws => some (v.doAccept throws, [])
  | .onAccept result =>
      match v.accepts with
      | 0 => none
      | n + 1 => if v.strand = .idle then some ({ v with accepts := n }.onAccept result) else none
  | .onBackoff timer failed =>
      if v.strand = .idle ∧ timer ∈ v.backoffWaits then
        some ({ v with backoffWaits := v.backoffWaits.erase timer }.onBackoff timer failed, [])
      else none
  | .resume => v.resume
  | .create session =>
      if v.strand = .create then
        -- a session that could not be made is logged
        some ({ v with strand := session.elim .doAccept .running }, [])
      else none
  | .doAccept throws =>
      if v.strand = .doAccept then some ({ v with strand := .idle }.doAccept throws, []) else none
  | .stop =>
      if v.stopped then some (v, [])
      else some ({ v with stopped := true, stopPhase := .requested }, [])
  | .stopNext call => (v.stopNext call).map fun v' => (v', [])

end AcceptLoop

/-- The machine of an accept loop. -/
def acceptLoop : Machine AcceptLoop AcceptAction AcceptEvent :=
  Machine.ofStep AcceptLoop.step

def AcceptAction.isRun : AcceptAction → Bool
  | .run _ => true
  | _ => false

/-! ## What a step of an accept loop can do -/

/-- The branches of `AcceptLoop.step`. -/
inductive AcceptTransition (v : AcceptLoop) :
    AcceptAction → List AcceptEvent → AcceptLoop → Prop
  | ran {throws : Bool} : AcceptTransition v (.run throws) [] (v.doAccept throws)
  -- `on_accept`
  | acceptEnded {result : AcceptResult} {n : ℕ} (haccepts : v.accepts = n + 1)
      (hidle : v.strand = .idle)
      (hends : result = .aborted ∨ result = .failed true ∨
        result = .failed false ∧ v.acceptorOpen = false) :
      AcceptTransition v (.onAccept result) [] { v with accepts := n }
  | acceptFailed {n : ℕ} (haccepts : v.accepts = n + 1) (hidle : v.strand = .idle)
      (hopen : v.acceptorOpen = true) :
      AcceptTransition v (.onAccept (.failed false)) [.failed]
        { v with accepts := n, strand := .backoff }
  | accepted {n : ℕ} (haccepts : v.accepts = n + 1) (hidle : v.strand = .idle) :
      AcceptTransition v (.onAccept .accepted) [.accepted]
        { v with accepts := n, backoffSeconds := 1, strand := .releaseTimer }
  | backedOff (hstrand : v.strand = .backoff) :
      AcceptTransition v .resume v.backoff.2 v.backoff.1
  | timerReleased (hstrand : v.strand = .releaseTimer) :
      AcceptTransition v .resume [] { v with backoffTimer := none, strand := .checkStopped }
  | discarded (hstrand : v.strand = .checkStopped ∨ v.strand = .checkAlive)
      (hstop : v.stopped = true ∨ v.alive = false) :
      AcceptTransition v .resume [] { v with strand := .idle }
  /-- The guards of `on_accept`, the session and its `run`. -/
  | went {a : AcceptAction} {strand : AcceptStrand}
      (hgoes : a = .resume ∨ ∃ session, a = .create session) (hbusy : v.strand ≠ .idle)
      (hstrand : v.strand ≠ .backoff)
      (hnext : strand ≠ .idle ∧ strand ≠ .backoff ∧ ∀ timer, strand ≠ .checkRetry timer)
      (hcreate : strand = .create → v.alive = true) :
      AcceptTransition v a [] { v with strand }
  | reaccepting {throws : Bool} (hstrand : v.strand = .doAccept) :
      AcceptTransition v (.doAccept throws) [] ({ v with strand := .idle }.doAccept throws)
  -- the handler of the backoff timer
  | backoffEnded {timer : ℕ} {failed : Bool} (hidle : v.strand = .idle)
      (hwaits : timer ∈ v.backoffWaits) (hends : failed = true ∨ v.alive = false) :
      AcceptTransition v (.onBackoff timer failed) []
        { v with backoffWaits := v.backoffWaits.erase timer }
  | backoffElapsed {timer : ℕ} (hidle : v.strand = .idle) (hwaits : timer ∈ v.backoffWaits)
      (halive : v.alive = true) :
      AcceptTransition v (.onBackoff timer false) []
        { v with backoffWaits := v.backoffWaits.erase timer, strand := .checkRetry timer }
  | stale {timer : ℕ} (hstrand : v.strand = .checkRetry timer)
      (hstale : v.acceptorOpen = false ∨ v.backoffTimer ≠ some timer) :
      AcceptTransition v .resume [] { v with strand := .idle }
  -- `stop`
  | stopRequested (hstopped : v.stopped = false) :
      AcceptTransition v .stop [] { v with stopped := true, stopPhase := .requested }
  | stopAgain (hstopped : v.stopped = true) : AcceptTransition v .stop [] v
  | stopping {call : ℕ} {v' : AcceptLoop} (hphase : v.stopPhase ≠ .notCalled)
      (hphase' : v'.stopPhase ≠ .notCalled) (hstopped : v'.stopped = v.stopped)
      (haccepts : v'.accepts = v.accepts) (hwaits : v'.backoffWaits = v.backoffWaits)
      (hstrand : v'.strand = v.strand) (hseconds : v'.backoffSeconds = v.backoffSeconds) :
      AcceptTransition v (.stopNext call) [] v'

section Steps

variable {v v' : AcceptLoop} {a : AcceptAction} {es : List AcceptEvent}

theorem acceptTransition_onAccept {result : AcceptResult}
    (h : v.step (.onAccept result) = some (v', es)) : AcceptTransition v (.onAccept result) es v' := by
  simp only [AcceptLoop.step] at h
  split at h
  · cases h
  · rename_i n haccepts
    obtain ⟨hidle, h⟩ := Option.ite_none_right_eq_some.mp h
    cases result with
    | accepted =>
        cases h
        exact .accepted haccepts hidle
    | aborted =>
        cases h
        exact .acceptEnded haccepts hidle (.inl rfl)
    | failed isFatal =>
        simp only [AcceptLoop.onAccept] at h
        by_cases hends : (!v.acceptorOpen || isFatal) = true
        · rw [if_pos hends] at h
          cases h
          refine .acceptEnded haccepts hidle (.inr ?_)
          cases isFatal <;> simp_all
        · rw [if_neg hends] at h
          cases h
          simp only [Bool.or_eq_true, Bool.not_eq_eq_eq_not, Bool.not_true, not_or,
            Bool.not_eq_false, Bool.not_eq_true] at hends
          rw [hends.2]
          exact .acceptFailed haccepts hidle hends.1

theorem acceptTransition_resume (h : v.resume = some (v', es)) :
    AcceptTransition v .resume es v' := by
  unfold AcceptLoop.resume at h
  split at h
  · cases h
    exact .backedOff ‹_›
  · rename_i timer hstrand
    cases h
    by_cases hretry : (v.acceptorOpen && v.backoffTimer == some timer) = true
    · rw [if_pos hretry]
      exact .went (.inl rfl) (by simp [hstrand]) (by simp [hstrand]) (by simp) nofun
    · rw [if_neg hretry]
      refine .stale hstrand ?_
      cases hopen : v.acceptorOpen with
      | false => exact .inl rfl
      | true => exact .inr (by simpa [hopen] using hretry)
  · cases h
    exact .timerReleased ‹_›
  · rename_i hstrand
    cases h
    by_cases hstopped : v.stopped = true
    · rw [if_pos hstopped]
      exact .discarded (.inl hstrand) (.inl hstopped)
    · rw [if_neg hstopped]
      exact .went (.inl rfl) (by simp [hstrand]) (by simp [hstrand]) (by simp) nofun
  · rename_i hstrand
    cases h
    by_cases halive : v.alive = true
    · rw [if_pos halive]
      exact .went (.inl rfl) (by simp [hstrand]) (by simp [hstrand]) (by simp) fun _ => halive
    · rw [if_neg halive]
      exact .discarded (.inr hstrand) (.inr (by simpa using halive))
  · rename_i hstrand
    cases h
    exact .went (.inl rfl) (by simp [hstrand]) (by simp [hstrand]) (by simp) nofun
  all_goals cases h

/-- Every step of an accept loop is one of the branches. -/
theorem acceptTransition_of_step (h : acceptLoop.step v a es v') : AcceptTransition v a es v' := by
  replace h : v.step a = some (v', es) := h
  cases a with
  | run throws =>
      cases h
      exact .ran
  | onAccept result => exact acceptTransition_onAccept h
  | onBackoff timer failed =>
      obtain ⟨⟨hidle, hwaits⟩, h⟩ := Option.ite_none_right_eq_some.mp h
      cases h
      unfold AcceptLoop.onBackoff
      by_cases helapsed : (!failed && v.alive) = true
      · rw [if_pos helapsed]
        obtain ⟨rfl, halive⟩ : failed = false ∧ v.alive = true := by simpa using helapsed
        exact .backoffElapsed hidle hwaits halive
      · rw [if_neg helapsed]
        refine .backoffEnded hidle hwaits ?_
        cases failed <;> simp_all
  | resume => exact acceptTransition_resume h
  | create session =>
      obtain ⟨hstrand, h⟩ := Option.ite_none_right_eq_some.mp h
      cases h
      refine .went (.inr ⟨_, rfl⟩) (by simp [hstrand]) (by simp [hstrand]) ?_ ?_ <;>
        cases session <;> simp
  | doAccept throws =>
      obtain ⟨hstrand, h⟩ := Option.ite_none_right_eq_some.mp h
      cases h
      exact .reaccepting hstrand
  | stop =>
      simp only [AcceptLoop.step] at h
      by_cases hstopped : v.stopped = true
      · rw [if_pos hstopped] at h
        cases h
        exact .stopAgain hstopped
      · rw [if_neg hstopped] at h
        cases h
        exact .stopRequested (by simpa using hstopped)
  | stopNext call =>
      obtain ⟨next, hnext, heq⟩ := Option.map_eq_some_iff.mp h
      cases heq
      unfold AcceptLoop.stopNext at hnext
      split at hnext <;> cases hnext <;> exact .stopping (by simp [*]) (by simp) rfl rfl rfl rfl rfl

/-- Apart from `stop`, a step of the accept loop leaves the flags alone, and goes on to make a
session only while the server is alive. -/
theorem AcceptTransition.accepting (h : AcceptTransition v a es v') (hstop : a ≠ .stop)
    (hnext : ∀ call, a ≠ .stopNext call) :
    v'.alive = v.alive ∧ v'.stopped = v.stopped ∧ v'.stopPhase = v.stopPhase ∧
      (v'.strand = .create → v.strand = .create ∨ v.alive = true) := by
  cases h with
  | @ran throws => cases throws <;> exact ⟨rfl, rfl, rfl, .inl⟩
  | @reaccepting throws => cases throws <;> exact ⟨rfl, rfl, rfl, nofun⟩
  | acceptEnded | backoffEnded => exact ⟨rfl, rfl, rfl, .inl⟩
  | went _ _ _ _ hcreate => exact ⟨rfl, rfl, rfl, fun hstrand => .inr (hcreate hstrand)⟩
  | stopRequested | stopAgain => exact absurd rfl hstop
  | stopping => exact absurd rfl (hnext _)
  | _ => exact ⟨rfl, rfl, rfl, nofun⟩

end Steps

end CppSim.Server
