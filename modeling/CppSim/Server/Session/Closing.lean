import CppSim.Server.Session.WritePipeline

/-!
# Closing a session

A request to close may come from any thread and at any time; whichever handler notices
it last shuts the session down.

* **Not lost.**  At rest, a session that was asked to close is closed.
* **Once.**  The shutdown body runs once, and `unregister_session` is called once.
* **Flush first.**  Unless a write fails, the body runs when every queued message has
  been handed over and written.

The first, the second and the fourth hold of every outbox.  The calls of
`unregister_session` come from three places, `on_read`, `do_close` and the destructor;
each is preceded by the step that leaves `state::closed` behind, and there is one such
step.
-/

namespace CppSim.Server

section Closing

variable {lib : JsonLib} {now handshakeTimeout : ℤ} {s t : WebsocketSession} {a : Action}
  {as : List Action} {es fs : List Event}

/-! ## Unregistering -/

/-- The calls of `unregister_session`. -/
def unregisterCalls (es : List Event) : ℕ :=
  (es.filter fun | .unregister _ => true | _ => false).length

/-- The strand is about to call `unregister_session`. -/
def Strand.unregistering : Strand → ℕ
  | .doCloseUnregister _ _ | .unregister _ => 1
  | _ => 0

@[simp] theorem After.unregistering_strand (after : After) : after.strand.unregistering = 0 := by
  cases after <;> rfl

@[simp] theorem Next.unregistering_strand (next : Next) : next.strand.unregistering = 0 := by
  cases next <;> rfl

/-- The session has passed the one point at which a call of `unregister_session` is due. -/
def WebsocketSession.ended (s : WebsocketSession) : Bool := s.state == .closed || s.destroyed

/-- The calls made and the call that is due. -/
def UnregisterInv (s : WebsocketSession) (es : List Event) : Prop :=
  unregisterCalls es + s.strand.unregistering ≤ s.ended.toNat

theorem unregisterCalls_append : unregisterCalls (es ++ fs) = unregisterCalls es + unregisterCalls fs := by
  simp [unregisterCalls]

theorem unregisterCalls_unregisterEvents (sid : Text) :
    unregisterCalls (s.unregisterEvents sid) ≤ 1 := by
  unfold WebsocketSession.unregisterEvents
  split <;> simp [unregisterCalls]

/-- A step that calls nothing, is about to call nothing and does not reopen the session. -/
private theorem UnregisterInv.of_silent (inv : UnregisterInv s es)
    (hcalls : unregisterCalls fs = 0) (hstrand : t.strand.unregistering ≤ s.strand.unregistering)
    (hended : s.ended = true → t.ended = true) : UnregisterInv t (es ++ fs) := by
  unfold UnregisterInv at inv ⊢
  rw [unregisterCalls_append, hcalls]
  have hle : s.ended.toNat ≤ t.ended.toNat := by
    cases hs : s.ended with
    | false => simp
    | true => simp [hended hs]
  omega

/-- With a call that is due or with none made, the session that has ended holds one call. -/
private theorem UnregisterInv.of_ended (hended : t.ended = true)
    (hcount : unregisterCalls es + unregisterCalls fs + t.strand.unregistering ≤ 1) :
    UnregisterInv t (es ++ fs) := by
  unfold UnregisterInv
  rw [unregisterCalls_append, hended]
  exact hcount

theorem UnregisterInv.step (h : Transition lib s a fs t) (hlive : s.destroyed = false)
    (control : ControlInv s) (inv : UnregisterInv s es) : UnregisterInv t (es ++ fs) := by
  have hcount := inv
  unfold UnregisterInv at hcount
  have hone := Bool.toNat_le s.ended
  have hnone (hopen : s.state ≠ .closed) : s.ended.toNat = 0 := by
    simp [WebsocketSession.ended, hlive, hopen]
  cases h with
  | readFailed hidle hreads hopen =>
      have hzero := hnone hopen
      refine .of_ended rfl ?_
      simp only [unregisterCalls, List.filter_nil, List.length_nil]
      split <;> simp only [Strand.unregistering] <;> unfold unregisterCalls at hcount <;> omega
  | acceptFailed hidle hreads hopen =>
      have hzero := hnone hopen
      refine .of_ended rfl ?_
      simp only [hidle, Strand.unregistering] at hcount ⊢
      simpa [unregisterCalls] using hcount.trans hone
  | closeBegun hstrand hfirst hopen =>
      have hzero := hnone hopen
      refine .of_ended rfl ?_
      simp only [hstrand, Strand.unregistering] at hcount ⊢
      simp only [unregisterCalls, List.filter_nil, List.length_nil] at hcount ⊢
      omega
  | closeUnregistered hstrand | unregistered hstrand =>
      have hcalls := unregisterCalls_unregisterEvents (s := s)
      simp only [hstrand, Strand.unregistering] at hcount
      refine .of_ended ?_ ?_
      · cases hended : s.ended with
        | false => simp [hended] at hcount
        | true => exact hended
      · simp only [Strand.unregistering]
        refine le_trans ?_ (hcount.trans hone)
        exact Nat.add_le_add_left (hcalls _) _
  | destroyed hrest hes =>
      have hcalls : unregisterCalls fs ≤ 1 - s.ended.toNat := by
        rw [hes]
        split
        · exact Nat.zero_le _
        · rename_i hopen
          rw [hnone hopen]
          exact unregisterCalls_unregisterEvents _
      refine .of_ended (by simp [WebsocketSession.ended]) ?_
      dsimp only
      omega
  | authenticated hstrand =>
      have hstate := control.unauthenticated (by rw [hstrand]; rfl)
      refine inv.of_silent rfl (Nat.zero_le _) ?_
      simp [WebsocketSession.ended, hstate, hlive]
  | shutdown hstrand he =>
      refine inv.of_silent ?_ (by simp) id
      rw [he]
      split <;> rfl
  | posted | queuedJoin | closeClosed | checkBusy | closeSkipped =>
      exact inv.of_silent rfl (by simp) id
  | sendRefused hsends =>
      refine inv.of_silent rfl ?_ id
      cases hsends <;> exact Nat.zero_le _
  | tick | elapsed | timerFailed | managerDropped | deadlineStopped | deadlineRewaited
  | callerStart | callerJoin | callerRefused | callerPosted | closeCalled | closeForgotten
  | closeDispatched | writeAbandoned | writtenLast | armed | accepting | acceptDropped
  | readDropped => exact inv.of_silent rfl le_rfl id
  | _ => exact inv.of_silent rfl (Nat.zero_le _) id

theorem unregisterInv_construct : UnregisterInv (.construct now handshakeTimeout) [] := by
  simp [UnregisterInv, unregisterCalls, WebsocketSession.construct, Strand.unregistering]

theorem unregisterInv_of_run (run : SessionRun lib now handshakeTimeout as es s) :
    UnregisterInv s es := by
  have hinv := run.invariant (I := fun s es => ControlInv s ∧ UnregisterInv s es)
    ⟨controlInv_construct _ _, unregisterInv_construct⟩
    (by
      intro es t a fs u ⟨control, inv⟩ hstep
      obtain ⟨hlive, htransition⟩ := transition_of_step hstep
      exact ⟨control.step hstep, inv.step htransition hlive control⟩)
  exact hinv.2

/-! ## Flushing -/

/-- The event of the shutdown body. -/
def Event.isShutdown : Event → Bool
  | .socketClosed | .asyncClosed => true
  | _ => false

/-- An `async_write` that completes with an error. -/
def Action.isWriteError : Action → Bool
  | .onWrite (some _) => true
  | _ => false

/-- The shutdown body runs from within `do_close`. -/
theorem Transition.ending_of_shutdown (h : Transition lib s a es t) {e : Event} (he : e ∈ es)
    (hshutdown : e.isShutdown = true) : 0 < s.strand.ending := by
  cases h with
  | shutdown hstrand =>
      rw [hstrand]
      exact Nat.one_pos
  | destroyed _ hes =>
      rw [hes] at he
      split at he
      · cases he
      · rw [(WebsocketSession.mem_unregisterEvents he).1] at hshutdown
        cases hshutdown
  | closeUnregistered | unregistered =>
      rw [(WebsocketSession.mem_unregisterEvents he).1] at hshutdown
      cases hshutdown
  | _ =>
      exfalso
      simp only [List.not_mem_nil, List.mem_singleton] at he
      try (rw [he] at hshutdown; cases hshutdown)

/-- A write fails only in `on_write` with an error. -/
theorem Transition.failed_eq_nil (h : Transition lib s a es t) (ha : a.isWriteError = false) :
    Outbox.failed (es.flatMap Event.signals) = [] := by
  cases h with
  | writeFailed => cases ha
  | destroyed _ hes =>
      rw [hes]
      split
      · rfl
      · rw [WebsocketSession.signals_unregisterEvents]
        rfl
  | closeUnregistered | unregistered =>
      rw [WebsocketSession.signals_unregisterEvents]
      rfl
  | shutdown _ he =>
      rw [he]
      split <;> rfl
  | _ => rfl

/-- Every message queued so far has been handed over and written. -/
def Flushed (es : List Event) : Prop :=
  handedMessages es = queuedMessages es ∧ writtenMessages es = queuedMessages es

/-- Whenever the shutdown body ran, the messages queued before were flushed. -/
def FlushedFirst (es : List Event) : Prop :=
  ∀ before e after, es = before ++ e :: after → e.isShutdown = true → Flushed before

theorem flushedFirst_append (h : FlushedFirst es) (hone : fs.length ≤ 1)
    (hflushed : ∀ e ∈ fs, e.isShutdown = true → Flushed es) : FlushedFirst (es ++ fs) := by
  intro before e after hsplit hshutdown
  match fs, hone with
  | [], _ => exact h before e after (by simpa using hsplit) hshutdown
  | [f], _ =>
      rcases after.eq_nil_or_concat' with rfl | ⟨after, last, rfl⟩
      · obtain ⟨rfl, hlast⟩ := List.append_inj' hsplit rfl
        obtain rfl : f = e := by simpa using hlast
        exact hflushed f (by simp) hshutdown
      · refine h before e after ?_ hshutdown
        have hsplit' : es ++ [f] = (before ++ e :: after) ++ [last] := by simpa using hsplit
        exact (List.append_inj' hsplit' rfl).1

theorem flushedFirst_of_run (run : SessionRun lib now handshakeTimeout as es s)
    (hclean : ∀ a ∈ as, a.isWriteError = false) : FlushedFirst es := by
  have hinv := (run.restrict_of_forall hclean).invariant
    (I := fun s es => ControlInv s ∧
      (∃ us, pipeline.Run (Outbox.empty Text) us (es.flatMap Event.signals) s.outbox) ∧
      Outbox.failed (es.flatMap Event.signals) = [] ∧ FlushedFirst es)
    ⟨controlInv_construct _ _, ⟨[], .refl _⟩, rfl, by
      intro before e after hsplit
      simp at hsplit⟩
    (by
      rintro es t a fs u ⟨control, ⟨us, outboxRun⟩, hnone, hfirst⟩ ⟨ha, hstep⟩
      obtain ⟨_, htransition⟩ := transition_of_step hstep
      obtain ⟨vs, outboxStep⟩ := htransition.outbox_run control
      refine ⟨control.step hstep, ⟨us ++ vs, ?_⟩, ?_, ?_⟩
      · rw [List.flatMap_append]
        exact outboxRun.trans outboxStep
      · rw [List.flatMap_append, Outbox.failed, List.filterMap_append, ← Outbox.failed, hnone,
          ← Outbox.failed, htransition.failed_eq_nil ha]
        rfl
      · refine flushedFirst_append hfirst htransition.length_events ?_
        intro e he hshutdown
        have hending : 0 < t.outbox.ending := htransition.ending_of_shutdown he hshutdown
        obtain ⟨hhanded, hwritten⟩ :=
          (Outbox.inv_of_run outboxRun).flushed_of_ending hending hnone
        rw [handed_signals, accepted_signals] at hhanded
        rw [completed_signals, accepted_signals] at hwritten
        exact ⟨hhanded, hwritten⟩)
  exact hinv.2.2.2

/-! ## A requested close -/

/-- The runs of the shutdown body. -/
def shutdownBodies (es : List Event) : ℕ := (es.filter Event.isShutdown).length

theorem shutdowns_signals (es : List Event) :
    Outbox.shutdowns (es.flatMap Event.signals) = shutdownBodies es := by
  unfold Outbox.shutdowns shutdownBodies
  induction es with
  | nil => rfl
  | cons e es ih =>
      rw [List.flatMap_cons, List.filter_append, List.length_append, ih, List.filter_cons]
      cases e <;> simp [Event.signals, Event.isShutdown, Nat.add_comm]

/-- No handler is queued or running, no other thread is inside `send` or `close`, and no
`async_write` is outstanding. -/
def WebsocketSession.atRest (s : WebsocketSession) : Prop :=
  s.strand = .idle ∧ s.postedWrites = 0 ∧ s.postedCloses = 0 ∧ s.posters = 0 ∧ s.closers = 0 ∧
    s.writes = []

instance (s : WebsocketSession) : Decidable s.atRest := inferInstanceAs (Decidable (_ ∧ _))

/-- A requested close is not lost, happens once and flushes first. -/
theorem close_once_flushed (run : SessionRun lib now handshakeTimeout as es s) :
    (s.atRest → s.closeRequested = true → s.state = .closed) ∧ shutdownBodies es ≤ 1 ∧
      unregisterCalls es ≤ 1 ∧
      ((∀ a ∈ as, a.isWriteError = false) → FlushedFirst es) := by
  obtain ⟨_, inv⟩ := outboxInv_of_run run
  refine ⟨?_, ?_, ?_, flushedFirst_of_run run⟩
  · rintro ⟨hstrand, hwrites, hcloses, hposters, hclosers, hactive⟩ hrequested
    have hclosed := inv.closed_of_closing hrequested
      (by simp [Outbox.chains, WebsocketSession.outbox, hstrand, hwrites, hposters, hactive])
      (by simp [WebsocketSession.outbox, hstrand, hcloses, hclosers])
      (by simp [WebsocketSession.outbox, hstrand])
    simpa [WebsocketSession.outbox] using hclosed
  · rw [← shutdowns_signals]
    exact inv.shutdowns_le_one
  · have hcount := unregisterInv_of_run run
    unfold UnregisterInv at hcount
    have := Bool.toNat_le s.ended
    omega

/-- A session that another thread closes while a greeting is being written. -/
def closedRun : WebsocketSession × List Event :=
  (Machine.exec (sessionStep (JsonLib.knowing [])) (.construct 0 10)
    [.armDeadline, .startAccept, .send (text "hello"), .onAccept none, .resume, .close,
      .dispatchClose, .closeLambda, .postWrite, .doWrite, .resume, .onWrite none, .resume, .resume,
      .resume]).get (by decide +kernel)

/-- The close waits for the greeting, and then closes the session. -/
theorem close_once_flushed_greeting :
    closedRun.1.state = .closed ∧ shutdownBodies closedRun.2 ≤ 1 ∧
      unregisterCalls closedRun.2 ≤ 1 ∧ FlushedFirst closedRun.2 := by
  have run : SessionRun (JsonLib.knowing []) 0 10 _ closedRun.2 closedRun.1 := Machine.run_get _
  obtain ⟨hclosed, hbodies, hcalls, hflushed⟩ := close_once_flushed run
  exact ⟨hclosed (by decide +kernel) (by decide +kernel), hbodies, hcalls,
    hflushed (by simp [Action.isWriteError])⟩

end Closing

end CppSim.Server
