import CppSim.Server.Session.Barred
import CppSim.Server.Session.Deadline
import CppSim.Server.Session.RateLimit

/-!
# The chain of deadline waits

Each wait for the deadline is started by the handler of the one before it.  `on_read` only cancels
the pending wait and relies on its handler to start the next, so that there are moments at which
nothing waits although the handler of a wait is queued.

* `Waits` lists what a step can do to the waits: nothing, to start the first of them, to end the
  chain of a session that is closing, or to time out.
* `protected_of_run`: from the end of `run` on, a session that is open has exactly one wait, or
  the handler of its elapsed wait is running and is about to request a close.
-/

namespace CppSim.Server

open Protocol

section DeadlineChain

variable {lib : JsonLib} {s t : WebsocketSession} {a : Action} {es fs : List Event}

/-- What a step into `t` that emits `es` does to the waits. -/
inductive Waits (s t : WebsocketSession) (es : List Event) : Prop
  | kept (hphase : t.runPhase = .constructed ↔ s.runPhase = .constructed)
      (hsame : t.deadline.outstanding = s.deadline.outstanding)
      (hnone : ∀ message, .timedOut message ∉ es)
  | armed (hphase : s.runPhase = .constructed) (hphase' : t.runPhase = .armed)
      (hone : t.deadline.outstanding = s.deadline.outstanding + 1)
      (hnone : ∀ message, .timedOut message ∉ es)
  | stopped (hphase : t.runPhase = s.runPhase) (hclosing : s.isClosing = true)
      (hone : s.deadline.outstanding = t.deadline.outstanding + 1)
  | timedOut (hphase : t.runPhase = s.runPhase)
      (hone : s.deadline.outstanding = t.deadline.outstanding + 1)
      (htimeout : ∃ message, .timedOut message ∈ es) (hidle : s.strand = .idle)
      (hcloses : t.strand.requestsClose = true)

/-- Only the handler of a wait that elapsed times out. -/
theorem Transition.not_timedOut (h : Transition lib s a es t)
    (ha : ∀ what, a ≠ .onDeadline .elapsed what) (message : Text) : .timedOut message ∉ es := by
  intro hmem
  cases h.emits hmem
  exact ha _ rfl

theorem Transition.waits (h : Transition lib s a es t) : Waits s t es := by
  have hnone := h.not_timedOut
  cases h with
  | elapsed helapse => exact .kept .rfl (Timer.outstanding_of_elapse helapse) (hnone (by simp))
  | timerFailed => exact .kept .rfl (Timer.outstanding_fail _) (hnone (by simp))
  | armed hphase =>
      refine .armed hphase rfl ?_ (hnone (by simp))
      have hcancelled := Timer.outstanding_cancel s.deadline
      simp only [Timer.outstanding, Timer.expiresAt, Timer.asyncWait] at hcancelled ⊢
      omega
  | accepting hphase => exact .kept (by simp [hphase]) rfl (hnone (by simp))
  | destroyed | acceptFailed | readFailed | closeUnregistered =>
      exact .kept .rfl (Timer.outstanding_cancel _) (hnone (by simp))
  | rearmed => exact .kept .rfl (Timer.outstanding_cancel s.deadline) (hnone (by simp))
  | deadlineStopped hidle hdeliver hclosing =>
      exact .stopped rfl hclosing (Timer.outstanding_of_deliver hdeliver)
  | deadlineRewaited hidle hdeliver hopen hresult =>
      refine .kept .rfl ?_ (hnone fun what hwhat => hresult (by cases hwhat; rfl))
      rw [Timer.outstanding_of_deliver hdeliver]
      simp only [Timer.outstanding, Timer.asyncWait]
      omega
  | timedOut hidle hdeliver =>
      exact .timedOut rfl (Timer.outstanding_of_deliver hdeliver) ⟨_, List.mem_singleton_self _⟩
        hidle rfl
  | failing => exact .kept .rfl rfl (by simp)
  | _ => exact .kept .rfl rfl (hnone (by simp))

/-- One wait is pending or has its handler queued, or the handler of the elapsed one is about to
request a close. -/
inductive TimeoutProtected (es : List Event) (s : WebsocketSession) : Prop
  | waiting (hnone : ∀ message, .timedOut message ∉ es) (hone : s.deadline.outstanding = 1)
  | timingOut (htimeout : ∃ message, .timedOut message ∈ es)
      (hnone : s.deadline.outstanding = 0) (hcloses : s.strand.requestsClose = true)

/-- What holds of the waits after the events of a run. -/
structure DeadlineChainInv (s : WebsocketSession) (es : List Event) : Prop where
  control : ControlInv s
  unarmed : s.runPhase = .constructed →
    s.deadline.outstanding = 0 ∧ ∀ message, .timedOut message ∉ es
  armed : s.runPhase ≠ .constructed → s.isClosing = false → TimeoutProtected es s

theorem deadlineChainInv_construct (now handshakeTimeout : ℤ) :
    DeadlineChainInv (.construct now handshakeTimeout) [] where
  control := controlInv_construct _ _
  unarmed _ := ⟨rfl, by simp⟩
  armed hphase := absurd rfl hphase

theorem DeadlineChainInv.step (inv : DeadlineChainInv s es) (h : (session lib).step s a fs t) :
    DeadlineChainInv t (es ++ fs) := by
  have htransition := (transition_of_step h).2
  have hopen (hopen' : t.isClosing = false) : s.isClosing = false := by
    by_contra hclosing
    rw [htransition.isClosing inv.control (by simpa using hclosing)] at hopen'
    cases hopen'
  have hnone (hbefore : ∀ message, .timedOut message ∉ es)
      (hafter : ∀ message, .timedOut message ∉ fs) (message : Text) :
      .timedOut message ∉ es ++ fs := by
    rw [List.mem_append]
    exact not_or.mpr ⟨hbefore message, hafter message⟩
  refine ⟨inv.control.step h, ?_, ?_⟩
  · intro hphase
    cases htransition.waits with
    | kept hphase' hsame hnone' =>
        obtain ⟨hzero, hbefore⟩ := inv.unarmed (hphase'.mp hphase)
        exact ⟨hsame.trans hzero, hnone hbefore hnone'⟩
    | armed _ hphase' =>
        rw [hphase'] at hphase
        cases hphase
    | stopped hphase' _ hone | timedOut hphase' hone =>
        obtain ⟨hzero, -⟩ := inv.unarmed (hphase' ▸ hphase)
        omega
  · intro hphase hopen'
    cases htransition.waits with
    | kept hphase' hsame hnone' =>
        cases inv.armed (fun hs => hphase (hphase'.mpr hs)) (hopen hopen') with
        | waiting hbefore hone => exact .waiting (hnone hbefore hnone') (hsame.trans hone)
        | timingOut htimeout hzero hcloses =>
            -- the handler that timed out goes on, or has requested the close
            have hrequested := (WebsocketSession.isClosing_eq_false.mp hopen').2
            have hcloses' := (htransition.requestsClose (.inr hcloses)).resolve_left
              (by simp [hrequested])
            obtain ⟨message, hmem⟩ := htimeout
            exact .timingOut ⟨message, List.mem_append_left _ hmem⟩ (hsame.trans hzero) hcloses'
    | armed hphase' _ hone hnone' =>
        obtain ⟨hzero, hbefore⟩ := inv.unarmed hphase'
        exact .waiting (hnone hbefore hnone') (by rw [hone, hzero])
    | stopped _ hclosing =>
        rw [hopen hopen'] at hclosing
        cases hclosing
    | timedOut hphase' hone htimeout hidle hcloses =>
        cases inv.armed (hphase' ▸ hphase) (hopen hopen') with
        | waiting _ hone' =>
            obtain ⟨message, hmem⟩ := htimeout
            exact .timingOut ⟨message, List.mem_append_right _ hmem⟩ (by omega) hcloses
        | timingOut _ _ hcloses' =>
            rw [hidle] at hcloses'
            cases hcloses'

theorem deadlineChainInv_of_run {now handshakeTimeout : ℤ} {as : List Action}
    (run : SessionRun lib now handshakeTimeout as es s) : DeadlineChainInv s es :=
  run.invariant (deadlineChainInv_construct _ _) fun _ _ _ _ _ inv h => inv.step h

/-- A handler that is about to request a close has requested it when it returns. -/
theorem closeRequested_of_run {as : List Action} (run : (session lib).Run s as es t)
    (hcloses : s.strand.requestsClose = true) (hidle : t.strand = .idle) :
    t.closeRequested = true := by
  have hkept : t.closeRequested = true ∨ t.strand.requestsClose = true :=
    run.preserves (.inr hcloses) fun _ _ _ _ hclose h => (transition_of_step h).2.requestsClose hclose
  refine hkept.resolve_right fun hstrand => ?_
  rw [hidle] at hstrand
  cases hstrand

/-- The handler of an elapsed wait is running, and does not return before it has requested a
close. -/
structure TimingOut (lib : JsonLib) (es : List Event) (s : WebsocketSession) : Prop where
  timedOut : ∃ message, .timedOut message ∈ es
  noWait : s.deadline.outstanding = 0
  running : s.strand ≠ .idle
  closes : ∀ as fs t, (session lib).Run s as fs t → t.strand = .idle → t.closeRequested = true

/-- A session that is open after `run` has returned has exactly one wait that is pending or whose
handler is queued, from its construction up to the time at which the handler of one that elapsed
runs. -/
theorem protected_of_run {now handshakeTimeout : ℤ} {as : List Action}
    (run : SessionRun lib now handshakeTimeout as es s) (hphase : s.runPhase = .returned)
    (hstate : s.state ≠ .closed) (hopen : s.closeRequested = false) :
    s.deadline.outstanding = 1 ∧ (∀ message, .timedOut message ∉ es) ∨ TimingOut lib es s := by
  have inv := deadlineChainInv_of_run run
  cases inv.armed (by simp [hphase]) (WebsocketSession.isClosing_eq_false.mpr ⟨hstate, hopen⟩) with
  | waiting hnone hone => exact .inl ⟨hone, hnone⟩
  | timingOut htimeout hzero hcloses =>
      refine .inr ⟨htimeout, hzero, ?_, fun as fs t run => closeRequested_of_run run hcloses⟩
      intro hidle
      rw [hidle] at hcloses
      cases hcloses

/-- A client that is authenticated.  Its deadline was set anew, and nothing waits for it yet. -/
def rearmedClient : WebsocketSession × List Event :=
  (Machine.exec (sessionStep (JsonLib.knowing [handshakeEnvelope])) (.construct 0 (seconds 10))
    (connectActions (text "sess_a"))).get (by decide +kernel)

theorem protected_rearmedClient :
    rearmedClient.1.deadline.outstanding = 1 ∧ (∀ message, .timedOut message ∉ rearmedClient.2) ∨
      TimingOut (JsonLib.knowing [handshakeEnvelope]) rearmedClient.2 rearmedClient.1 := by
  have run : SessionRun (JsonLib.knowing [handshakeEnvelope]) 0 (seconds 10)
      (connectActions (text "sess_a")) rearmedClient.2 rearmedClient.1 := Machine.run_get _
  exact protected_of_run run (by decide +kernel) (by decide +kernel) (by decide +kernel)

/-- The handshake of the client that sends nothing has timed out. -/
def timingOutClient : WebsocketSession × List Event :=
  (Machine.exec (sessionStep (JsonLib.knowing [])) (.construct 0 (seconds 10))
    [.armDeadline, .startAccept, .onAccept none, .resume, .tick 10000000000, .elapse,
      .onDeadline .elapsed []]).get (by decide +kernel)

/-- While the handler of the wait that elapsed sends its error, nothing waits. -/
theorem not_one_wait :
    ¬ ∀ (lib : JsonLib) (now handshakeTimeout : ℤ) (as : List Action) (es : List Event)
      (s : WebsocketSession), SessionRun lib now handshakeTimeout as es s →
      s.runPhase = .returned → s.state ≠ .closed → s.closeRequested = false →
      s.deadline.outstanding = 1 := by
  intro hall
  have run : SessionRun (JsonLib.knowing []) 0 (seconds 10) _ timingOutClient.2
      timingOutClient.1 := Machine.run_get _
  have hone := hall _ _ _ _ _ _ run (by decide +kernel) (by decide +kernel) (by decide +kernel)
  exact absurd hone (by decide +kernel)

end DeadlineChain

end CppSim.Server
