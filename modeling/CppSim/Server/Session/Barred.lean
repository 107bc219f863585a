import CppSim.Server.Session.Control

/-!
# Sessions that can no longer enter

A session enters the registry in the middle of its handshake and becomes authenticated at
the end of it.  `Barred` is the condition under which a session that is not authenticated
does neither any more, whatever the client sends: nothing is being read, and the strand
is on its way to a close, or away from the handshake with the close already requested.
Every step preserves it.

A requested close alone does not bar a session, since `on_read` goes on with the message
that a pending read delivers.
-/

namespace CppSim.Server

/-- The strand can lead neither to an insertion nor to `state::authenticated`, given which
messages register. -/
def Strand.barred (registers : Text → Bool) (closeRequested : Bool) : Strand → Bool
  | .sendError _ _ _ | .close _ | .post (.close _) => true
  | .checkBurst message => closeRequested && !registers message
  | .generate _ | .insert _ _ | .authenticate _ | .post (.authenticate _) | .sendReload _ _
  | .commitReload _ | .post (.commit _) => false
  | _ => closeRequested

section Barred

variable {lib : JsonLib} {s t : WebsocketSession} {a : Action} {es : List Event}

/-- The message is a HANDSHAKE that the session would be registered for. -/
def WebsocketSession.registers (lib : JsonLib) (s : WebsocketSession) (message : Text) : Bool :=
  (s.handleHandshakeMessage lib message).verdict == .register

/-- The session can neither be registered nor become authenticated. -/
def WebsocketSession.Barred (lib : JsonLib) (s : WebsocketSession) : Prop :=
  s.state = .unauthenticated → s.reads = 0 ∧ s.strand.barred (s.registers lib) s.closeRequested = true

instance (lib : JsonLib) (s : WebsocketSession) : Decidable (s.Barred lib) :=
  inferInstanceAs (Decidable (_ → _))

theorem Strand.barred_true {registers : Text → Bool} {closeRequested : Bool} {strand : Strand}
    (h : strand.barred registers closeRequested = true) : strand.barred registers true = true := by
  cases closeRequested with
  | true => exact h
  | false =>
      cases strand with
      | post next => cases next <;> first | rfl | cases h
      | _ => first | rfl | cases h

theorem After.barred_strand (after : After) (registers : Text → Bool) :
    after.strand.barred registers true = true := by
  cases after <;> rfl

theorem WebsocketSession.handle_verdict_of_unauthenticated {message : Text} {gap logged : Int64}
    (hstate : s.state = .unauthenticated) :
    (s.handle lib message gap logged).verdict = (s.handleHandshakeMessage lib message).verdict := by
  rw [handle, if_pos hstate]

/-- Once a session is barred, it stays so, as long as it has a manager to bar it from. -/
theorem Transition.barred (h : Transition lib s a es t) (hkeep : a ≠ .dropManager)
    (hbarred : s.Barred lib) : t.Barred lib := by
  intro hstate
  cases h with
  | managerDropped => exact absurd rfl hkeep
  | closeCalled => exact ⟨(hbarred hstate).1, Strand.barred_true (hbarred hstate).2⟩
  | closeClosed _ hclosed | readDropped _ _ hclosed =>
      rw [hclosed] at hstate
      cases hstate
  | readFailed | acceptFailed | closeBegun | authenticated => cases hstate
  -- no read starts once the close is requested
  | accepted hidle _ hopen =>
      have hb := (hbarred hstate).2
      rw [hidle] at hb
      rw [WebsocketSession.isClosing_of_closeRequested hb] at hopen
      cases hopen
  | readLimited _ hreads | readPassed _ hreads =>
      rw [(hbarred hstate).1] at hreads
      cases hreads
  | reading hstrand hopen | rearmed hstrand hopen =>
      have hb := (hbarred hstate).2
      rw [hstrand] at hb
      rw [WebsocketSession.isClosing_of_closeRequested hb] at hopen
      cases hopen
  -- the session is not authenticated
  | actionAccepted hstrand _ hverdict =>
      exact absurd hstate (WebsocketSession.handle_eq_acceptAction.mp hverdict).1
  | reloadAccepted hstrand _ hverdict =>
      exact absurd hstate (WebsocketSession.handle_eq_acceptReload.mp hverdict).1
  -- the message that it may still handle does not register
  | registering hstrand _ hverdict =>
      have hb := (hbarred hstate).2
      rw [WebsocketSession.handle_verdict_of_unauthenticated (show s.state = _ from hstate)]
        at hverdict
      simp [hstrand, Strand.barred, WebsocketSession.registers, hverdict] at hb
  | generated hstrand | collided hstrand | registered hstrand | committed hstrand =>
      have hb := (hbarred hstate).2
      rw [hstrand] at hb
      cases hb
  -- no response is sent either
  | queuedStart hsends hopen | queuedJoin hsends hopen =>
      cases hsends with
      | error => exact ⟨(hbarred hstate).1, rfl⟩
      | response hstrand =>
          have hb := (hbarred hstate).2
          rw [hstrand] at hb
          rw [WebsocketSession.isClosing_of_closeRequested hb] at hopen
          cases hopen
      | reload hstrand =>
          have hb := (hbarred hstate).2
          rw [hstrand] at hb
          cases hb
  | sendRefused hsends =>
      cases hsends <;> exact ⟨(hbarred hstate).1, rfl⟩
  -- on the way to `close`
  | failing | errorUnprinted | closeOpen | timedOut | disconnecting | writeFailed =>
      exact ⟨(hbarred hstate).1, rfl⟩
  | posted hstrand =>
      have hb := (hbarred hstate).2
      rename_i next
      rw [hstrand] at hb
      cases next with
      | close | leave => exact ⟨(hbarred hstate).1, hb⟩
      | authenticate | commit => cases hb
  | checkBusy hstrand | closeSkipped hstrand | shutdown hstrand =>
      have hb := (hbarred hstate).2
      rw [hstrand] at hb
      replace hb : s.closeRequested = true := hb
      refine ⟨(hbarred hstate).1, ?_⟩
      rw [hb]
      exact After.barred_strand _ _
  | idStored hstrand | guardStopped hstrand | readStopped hstrand | checkIdle hstrand
  | closeUnregistered hstrand | unregistered hstrand | handed hstrand =>
      have hb := (hbarred hstate).2
      rw [hstrand] at hb
      exact ⟨(hbarred hstate).1, hb⟩
  | lambdaBusy hidle | lambdaIdle hidle | writeTaken hidle | writtenClosing hidle
  | writtenMore hidle =>
      have hb := (hbarred hstate).2
      rw [hidle] at hb
      exact ⟨(hbarred hstate).1, hb⟩
  | _ => exact hbarred hstate

/-- A barred session is not at the insertion. -/
theorem WebsocketSession.Barred.not_inserting {attempt : ℕ} {sid : Text} (hbarred : s.Barred lib)
    (control : ControlInv s) : s.strand ≠ .insert attempt sid := by
  intro hstrand
  have hb := (hbarred (control.unauthenticated (by rw [hstrand]; rfl))).2
  rw [hstrand] at hb
  cases hb

/-- A barred session does not become authenticated. -/
theorem WebsocketSession.Barred.not_authenticated (hbarred : s.Barred lib) (control : ControlInv s)
    (h : Transition lib s a es t) (hstate : t.state = .authenticated) :
    s.state = .authenticated := by
  cases h with
  | authenticated hstrand =>
      have hb := (hbarred (control.unauthenticated (by rw [hstrand]; rfl))).2
      rw [hstrand] at hb
      cases hb
  | readFailed | acceptFailed | closeBegun => cases hstate
  | _ => exact hstate

/-- A session that is closing goes on closing. -/
theorem Transition.isClosing (h : Transition lib s a es t) (control : ControlInv s)
    (hclosing : s.isClosing = true) : t.isClosing = true := by
  cases h with
  | authenticated hstrand =>
      have hopen := control.unauthenticated (by rw [hstrand]; rfl)
      simp only [WebsocketSession.isClosing, hopen, Bool.or_eq_true, beq_iff_eq] at hclosing
      rcases hclosing with hclosed | hclose
      · cases hclosed
      · exact WebsocketSession.isClosing_of_closeRequested hclose
  | closeCalled | closeOpen | closeClosed | writeFailed =>
      exact WebsocketSession.isClosing_of_closeRequested rfl
  | readFailed | acceptFailed | closeBegun => exact WebsocketSession.isClosing_of_closed rfl
  | _ => exact hclosing

end Barred

end CppSim.Server
