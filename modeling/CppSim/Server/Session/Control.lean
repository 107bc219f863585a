import CppSim.Server.Session.Transition

/-!
# Where control is

Three facts about the position of the strand that the other invariants build on.

* **One reader.**  Accepting, reading and handling a message form a chain of which
  there is never more than one: `run` starts it with `async_accept`, and each of its
  handlers goes on with at most one `async_read`.
* **Nothing runs after the destructor**, which finds the strand idle.
* **Handshakes run unauthenticated.**  Between the verdict on a HANDSHAKE and the
  store of `state::authenticated` the session is unauthenticated, since only the
  strand stores `state_`.
-/

namespace CppSim.Server

/-! ## The chain of reads -/

def After.reading : After → ℕ
  | .leave => 0
  | .readGuard => 1

def Next.reading : Next → ℕ
  | .close after => after.reading
  | .authenticate _ | .commit _ => 1
  | .leave => 0

/-- The handler on the strand may go on to read the next message. -/
def Strand.reading : Strand → ℕ
  | .checkBurst _ | .generate _ | .insert _ _ | .storeId _ | .sendResponse _ | .authenticate _
  | .sendReload _ _ | .commitReload _ | .readGuard | .doRead => 1
  | .sendError _ _ after | .close after | .closeCheck after | .doClose after
  | .doCloseUnregister _ after | .doCloseShutdown _ after => after.reading
  | .post next => next.reading
  | .idle | .unregister _ | .asyncWrite _ => 0

theorem After.reading_le (after : After) : after.reading ≤ 1 := by cases after <;> decide

@[simp] theorem After.reading_strand (after : After) : after.strand.reading = after.reading := by
  cases after <;> rfl

@[simp] theorem Next.reading_strand (next : Next) : next.strand.reading = next.reading := by
  cases next <;> rfl

/-- The places from which the session may yet read a message. -/
def WebsocketSession.readers (s : WebsocketSession) : ℕ :=
  (if s.runPhase = .returned then 0 else 1) + s.accepts + s.reads + s.strand.reading

/-! ## The handshake -/

/-- The strand is between the verdict on a HANDSHAKE and its end. -/
def Strand.handshaking : Strand → Bool
  | .generate _ | .insert _ _ | .storeId _ | .sendResponse _ | .authenticate _
  | .post (.authenticate _) => true
  | _ => false

@[simp] theorem After.handshaking_strand (after : After) : after.strand.handshaking = false := by
  cases after <;> rfl

/-- Where control is, along every run. -/
structure ControlInv (s : WebsocketSession) : Prop where
  readers_le : s.readers ≤ 1
  unauthenticated : s.strand.handshaking = true → s.state = .unauthenticated
  idle_of_destroyed : s.destroyed = true → s.strand = .idle

section Invariant

variable {lib : JsonLib} {s t : WebsocketSession} {a : Action} {es : List Event}

theorem controlInv_construct (now handshakeTimeout : ℤ) :
    ControlInv (.construct now handshakeTimeout) := by
  constructor <;>
    simp [WebsocketSession.construct, WebsocketSession.readers, Strand.reading, Strand.handshaking]

/-- The strand moves on without another read. -/
private theorem readers_le_of_strand (hphase : t.runPhase = s.runPhase)
    (haccepts : t.accepts = s.accepts) (hreads : t.reads = s.reads)
    (hstrand : t.strand.reading ≤ s.strand.reading) : t.readers ≤ s.readers := by
  unfold WebsocketSession.readers
  rw [hphase, haccepts, hreads]
  omega

theorem Strand.reading_of_mayFail {strand : Strand} (h : strand.mayFail) : strand.reading = 1 := by
  cases strand <;> first | rfl | exact h.elim

theorem Sends.reading {source : Source} {message : Text} {next : Next} {failed : Strand}
    (h : Sends lib s source message next failed) :
    next.reading = s.strand.reading ∧ failed.reading = s.strand.reading := by
  cases h with
  | error hstrand | response hstrand | reload hstrand => rw [hstrand]; exact ⟨rfl, rfl⟩

/-- No step adds a reader. -/
theorem Transition.readers_le (h : Transition lib s a es t) : t.readers ≤ s.readers := by
  cases h with
  | tick | elapsed | timerFailed | managerDropped | destroyed | deadlineStopped
  | deadlineRewaited | callerStart | callerJoin | callerRefused | callerPosted | closeCalled
  | closeForgotten | closeDispatched | writeAbandoned | writtenLast => exact le_refl _
  | armed hphase => simp [WebsocketSession.readers, hphase]
  | accepting hphase =>
      simp only [WebsocketSession.readers, hphase, reduceCtorEq, if_false, if_true]
      omega
  | acceptDropped _ haccepts | acceptFailed _ haccepts =>
      simp only [WebsocketSession.readers]
      omega
  | accepted hidle haccepts =>
      simp only [WebsocketSession.readers, hidle, Strand.reading]
      omega
  | readDropped _ hreads =>
      simp only [WebsocketSession.readers]
      omega
  | readFailed hidle hreads =>
      have hquiet : (if s.sessionId = [] then Strand.idle
          else .unregister s.sessionId).reading = 0 := by
        split <;> rfl
      simp only [WebsocketSession.readers, hquiet]
      omega
  | readLimited hidle hreads | readPassed hidle hreads =>
      simp only [WebsocketSession.readers, hidle, Strand.reading, After.reading]
      omega
  | failing hmay =>
      refine readers_le_of_strand rfl rfl rfl ?_
      rw [Strand.reading_of_mayFail hmay]
      exact After.reading_le _
  | actionAccepted hstrand | reloadAccepted hstrand | disconnecting hstrand
  | registering hstrand | generated hstrand | collided hstrand | registered hstrand
  | idStored hstrand | authenticated hstrand | committed hstrand | guardStopped hstrand
  | rearmed hstrand | readStopped hstrand | errorUnprinted hstrand | closeOpen hstrand
  | checkIdle hstrand | closeBegun hstrand | closeUnregistered hstrand | unregistered hstrand
  | handed hstrand =>
      exact readers_le_of_strand rfl rfl rfl (by simp [hstrand, Strand.reading, After.reading])
  | reading hstrand =>
      simp only [WebsocketSession.readers, hstrand, Strand.reading]
      omega
  | queuedStart hsends =>
      exact readers_le_of_strand rfl rfl rfl hsends.reading.1.le
  | queuedJoin hsends =>
      exact readers_le_of_strand rfl rfl rfl (by simp [hsends.reading.1])
  | sendRefused hsends => exact readers_le_of_strand rfl rfl rfl hsends.reading.2.le
  | posted hstrand =>
      exact readers_le_of_strand rfl rfl rfl (by rw [hstrand]; exact (Next.reading_strand _).le)
  | closeClosed hstrand | checkBusy hstrand | closeSkipped hstrand | shutdown hstrand =>
      exact readers_le_of_strand rfl rfl rfl
        (by rw [hstrand]; exact (After.reading_strand _).le)
  | lambdaBusy hidle | lambdaIdle hidle | writeTaken hidle | writeFailed hidle
  | writtenClosing hidle | writtenMore hidle | timedOut hidle =>
      exact readers_le_of_strand rfl rfl rfl (by
        simp [hidle, Strand.reading, After.reading, Next.reading])

theorem Transition.unauthenticated (h : Transition lib s a es t)
    (hinv : s.strand.handshaking = true → s.state = .unauthenticated)
    (hhandshaking : t.strand.handshaking = true) : t.state = .unauthenticated := by
  cases h with
  | registering _ _ hverdict => exact WebsocketSession.state_of_register hverdict
  | generated hstrand | collided hstrand | registered hstrand | idStored hstrand =>
      exact hinv (by rw [hstrand]; rfl)
  | queuedStart hsends | queuedJoin hsends =>
      cases hsends with
      | response hstrand => exact hinv (by rw [hstrand]; rfl)
      | error | reload => cases hhandshaking
  | sendRefused hsends =>
      cases hsends <;> cases hhandshaking
  | posted hstrand =>
      refine hinv ?_
      rename_i next
      rw [hstrand]
      cases next with
      | authenticate => rfl
      | close | commit | leave => simp [Next.strand, Strand.handshaking] at hhandshaking
  | readFailed =>
      exfalso
      dsimp only at hhandshaking
      split at hhandshaking <;> cases hhandshaking
  | acceptFailed hidle => simp [hidle, Strand.handshaking] at hhandshaking
  | checkBusy | closeClosed | closeSkipped | shutdown =>
      simp at hhandshaking
  | tick | elapsed | timerFailed | managerDropped | destroyed | deadlineStopped
  | deadlineRewaited | callerStart | callerJoin | callerRefused | callerPosted | closeCalled
  | closeForgotten | closeDispatched | writeAbandoned | writtenLast | armed | accepting
  | acceptDropped | readDropped => exact hinv hhandshaking
  | _ => cases hhandshaking

/-- Only the destructor destroys, and it finds the strand idle. -/
theorem Transition.idle_of_destroyed (h : Transition lib s a es t) (hlive : s.destroyed = false)
    (hdestroyed : t.destroyed = true) : t.strand = .idle := by
  cases h with
  | destroyed hrest =>
      simp only [WebsocketSession.unreferenced, Bool.and_eq_true, beq_iff_eq] at hrest
      exact hrest.1.1.1.1.1.1.1.2
  | _ => exact absurd hdestroyed (by simp [hlive])

theorem ControlInv.step (h : (session lib).step s a es t) (inv : ControlInv s) : ControlInv t := by
  obtain ⟨hlive, htransition⟩ := transition_of_step h
  exact ⟨htransition.readers_le.trans inv.readers_le, htransition.unauthenticated inv.unauthenticated,
    htransition.idle_of_destroyed hlive⟩

theorem controlInv_of_run {now handshakeTimeout : ℤ} {as : List Action}
    (run : SessionRun lib now handshakeTimeout as es s) : ControlInv s :=
  run.preserves (controlInv_construct _ _) fun _ _ _ _ inv h => inv.step h

end Invariant

end CppSim.Server
