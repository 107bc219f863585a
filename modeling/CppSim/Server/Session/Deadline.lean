import CppSim.Server.Session.Transition

/-!
# The deadline

`check_deadline` waits for the deadline and `on_read` sets it anew after a message.
Setting it cancels the pending wait but not a wait that has elapsed and whose handler is
queued: that handler runs after `on_read`, sees success, and closes the session although
the deadline it was told about is no longer the deadline.

`no_premature_timeout` says when this cannot happen: no message is handled to its end
while the handler of an elapsed wait is queued.
-/

namespace CppSim.Server

open Protocol

section Deadline

variable {lib : JsonLib} {now handshakeTimeout : ℤ} {s t : WebsocketSession} {a : Action}
  {as : List Action} {es : List Event}

/-- `on_read` does not set the deadline while the handler of an elapsed wait is queued. -/
def RearmsInTime (s : WebsocketSession) (a : Action) : Prop :=
  match a with
  | .rearm _ => s.isClosing = false → s.deadline.elapsed = 0
  | _ => True

/-- The deadline has been set by `run` before anything waits for it, and a queued handler
that elapsed finds the deadline reached. -/
structure DeadlineInv (s : WebsocketSession) : Prop where
  unarmed : s.runPhase = .constructed → s.deadline.outstanding = 0
  due : s.deadline.Due s.now

theorem deadlineInv_construct : DeadlineInv (.construct now handshakeTimeout) :=
  ⟨fun _ => rfl, Timer.due_idle⟩

theorem DeadlineInv.step (h : Transition lib s a es t) (hcond : RearmsInTime s a)
    (inv : DeadlineInv s) : DeadlineInv t := by
  obtain ⟨hunarmed, hdue⟩ := id inv
  cases h with
  | tick duration => exact ⟨hunarmed, hdue.mono (by simp)⟩
  | elapsed helapse =>
      exact ⟨fun hphase => (Timer.outstanding_of_elapse helapse).trans (hunarmed hphase),
        Timer.due_of_elapse helapse⟩
  | timerFailed =>
      exact ⟨fun hphase => (Timer.outstanding_fail _).trans (hunarmed hphase), hdue.fail⟩
  | armed hphase =>
      have hnone : s.deadline.elapsed = 0 := by
        have hrest := hunarmed hphase
        simp only [Timer.outstanding] at hrest
        omega
      refine ⟨?_, (Timer.due_expiresAt hnone).asyncWait⟩
      intro hphase
      cases hphase
  | accepting =>
      refine ⟨?_, hdue⟩
      intro hphase
      cases hphase
  | destroyed | acceptFailed | readFailed | closeUnregistered =>
      exact ⟨fun hphase => (Timer.outstanding_cancel _).trans (hunarmed hphase), hdue.cancel⟩
  | rearmed hstrand hopen =>
      refine ⟨fun hphase => ?_, Timer.due_expiresAt (hcond hopen)⟩
      exact (Timer.outstanding_cancel s.deadline).trans (hunarmed hphase)
  | deadlineStopped hidle hdeliver | timedOut hidle hdeliver =>
      refine ⟨fun hphase => ?_, hdue.deliver hdeliver⟩
      have hdelivered := Timer.outstanding_of_deliver hdeliver
      have hrest := hunarmed hphase
      omega
  | deadlineRewaited hidle hdeliver =>
      refine ⟨fun hphase => ?_, (hdue.deliver hdeliver).asyncWait⟩
      have hdelivered := Timer.outstanding_of_deliver hdeliver
      have hrest := hunarmed hphase
      omega
  | _ => exact ⟨hunarmed, hdue⟩

/-- The deadline handler requests a close only once the deadline is reached, whatever
happens next in `s`. -/
def NoPrematureTimeout (lib : JsonLib) (s : WebsocketSession) : Prop :=
  ∀ a es t message, (session lib).step s a es t → .timedOut message ∈ es →
    s.deadline.expiry ≤ s.now

/-- A timeout is the delivery of a handler that elapsed. -/
theorem Transition.deliver_of_timedOut (h : Transition lib s a es t) {message : Text}
    (he : .timedOut message ∈ es) : ∃ deadline, s.deadline.deliver .elapsed = some deadline := by
  -- the step is that of the handler of an elapsed wait
  cases h.emits he
  cases h with
  | timedOut _ hdeliver => exact ⟨_, hdeliver⟩
  | failing | deadlineStopped | deadlineRewaited => simp at he

/-- In a run that re-arms the deadline in time, no reached state times out prematurely. -/
theorem no_premature_timeout
    (run : ((session lib).restrict RearmsInTime).Run (.construct now handshakeTimeout) as es s) :
    NoPrematureTimeout lib s := by
  have inv : DeadlineInv s := run.preserves deadlineInv_construct
    fun s a es t inv hstep => inv.step (transition_of_step hstep.2).2 hstep.1
  intro a fs t message hstep he
  obtain ⟨deadline, hdeliver⟩ := (transition_of_step hstep).2.deliver_of_timedOut he
  exact inv.due.expiry_le_of_deliver hdeliver

instance (s : WebsocketSession) : ∀ a, Decidable (RearmsInTime s a)
  | .rearm _ => inferInstanceAs (Decidable (s.isClosing = false → s.deadline.elapsed = 0))
  | .tick _ | .elapse | .timerError | .armDeadline | .startAccept | .onAccept _ | .onRead _
  | .onWrite _ | .doWrite | .closeLambda | .onDeadline _ _ | .resume | .handleMessage _ _
  | .generated _ | .emplaced _ | .send _ | .postWrite | .close | .dispatchClose | .dropManager
  | .destroy => isTrue trivial

/-- A client that is authenticated after five seconds, which sets its deadline anew, and sends
nothing for the ten seconds it then has. -/
def idleClient : WebsocketSession × List Event :=
  (Machine.exec (Machine.guarded RearmsInTime (sessionStep (JsonLib.knowing [handshakeEnvelope])))
    (.construct 0 (seconds 10))
    [.armDeadline, .startAccept, .onAccept none, .resume, .tick 5000000000,
      .onRead (.message (handshakeEnvelope.print 4) (seconds 1) 10 10),
      .handleMessage 10000 10000, .generated (text "sess_0000000000000001"),
      .emplaced (.success 1), .resume, .resume, .resume, .resume, .rearm (seconds 10), .resume,
      .onDeadline .aborted [], .tick 10000000000, .elapse]).get (by decide +kernel)

/-- Its idle timeout is in time. -/
theorem no_premature_timeout_idleClient :
    idleClient.1.deadline.expiry = seconds 15 ∧ idleClient.1.now = seconds 15 ∧
      NoPrematureTimeout (JsonLib.knowing [handshakeEnvelope]) idleClient.1 := by
  have run : ((session (JsonLib.knowing [handshakeEnvelope])).restrict RearmsInTime).Run
      (.construct 0 (seconds 10)) _ idleClient.2 idleClient.1 := Machine.run_restrict_get _
  exact ⟨by decide +kernel, by decide +kernel, no_premature_timeout run⟩

/-- A client whose handshake is read after the deadline elapsed and before its handler runs. -/
def lateHandshake : WebsocketSession × List Event :=
  (Machine.exec (sessionStep (JsonLib.knowing [handshakeEnvelope])) (.construct 0 (seconds 10))
    [.armDeadline, .startAccept, .onAccept none, .resume, .tick 10000000000, .elapse,
      .onRead (.message (handshakeEnvelope.print 4) (seconds 1) 10 10),
      .handleMessage 10000 10000, .generated (text "sess_0000000000000001"),
      .emplaced (.success 1), .resume, .resume, .resume, .resume, .rearm (seconds 86400),
      .resume]).get (by decide +kernel)

/-- The session is authenticated and has a day to go when the handler closes it. -/
theorem not_noPrematureTimeout :
    ¬ ∀ (lib : JsonLib) (now handshakeTimeout : ℤ) (as : List Action) (es : List Event)
      (s : WebsocketSession), SessionRun lib now handshakeTimeout as es s →
      NoPrematureTimeout lib s := by
  intro hall
  have run : SessionRun (JsonLib.knowing [handshakeEnvelope]) 0 (seconds 10) _ lateHandshake.2
      lateHandshake.1 := Machine.run_get _
  have hevents : (sessionStep (JsonLib.knowing [handshakeEnvelope]) lateHandshake.1
      (.onDeadline .elapsed [])).map Prod.snd = some [.timedOut (text "Idle timeout")] := by
    decide +kernel
  obtain ⟨⟨t, es⟩, hstep, rfl⟩ := Option.map_eq_some_iff.mp hevents
  have hreached := hall _ _ _ _ _ _ run _ _ t _ hstep (List.mem_singleton_self _)
  exact absurd hreached (by decide +kernel)

end Deadline

end CppSim.Server
