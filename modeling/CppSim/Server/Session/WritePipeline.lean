import CppSim.Library.Outbox
import CppSim.Server.Session.Control

/-!
# The write pipeline

`queue_message`, `do_write`, `on_write`, `close` and `do_close` implement an outbox:
`writing_` is its flag, the posted `do_write` and the outstanding `async_write` are the
two asynchronous points of its chain, `close_requested_` asks it to close, and leaving
`state::closed` behind shuts it down.  `outbox` is that view of a session and
`writePipeline` the refinement, so what holds of every outbox holds of every session.
-/

namespace CppSim.Server

/-! ## The view -/

namespace Strand

/-- The strand is about to post `do_write`. -/
def posting : Strand → ℕ
  | .post _ => 1
  | _ => 0

/-- The message `do_write` took off the queue. -/
def taken : Strand → List Text
  | .asyncWrite message => [message]
  | _ => []

/-- The strand is about to look at `writing_`. -/
def asking : Strand → ℕ
  | .closeCheck _ => 1
  | _ => 0

/-- The strand is about to enter `do_close`. -/
def shutting : Strand → ℕ
  | .doClose _ => 1
  | _ => 0

/-- The strand is in `do_close`, before the shutdown body. -/
def ending : Strand → ℕ
  | .doCloseUnregister _ _ | .doCloseShutdown _ _ => 1
  | _ => 0

section Points

variable {strand : Strand} {message : Text} {next : Next} {after : After} {prevState : SessionState}

@[simp] theorem posting_post : (post next).posting = 1 := rfl
@[simp] theorem taken_asyncWrite : (asyncWrite message).taken = [message] := rfl
@[simp] theorem asking_closeCheck : (closeCheck after).asking = 1 := rfl
@[simp] theorem shutting_doClose : (doClose after).shutting = 1 := rfl
@[simp] theorem ending_doCloseUnregister : (doCloseUnregister prevState after).ending = 1 := rfl
@[simp] theorem ending_doCloseShutdown : (doCloseShutdown prevState after).ending = 1 := rfl

@[simp] theorem posting_eq_zero (h : ∀ next, strand ≠ .post next) : strand.posting = 0 := by
  cases strand with
  | post next => exact absurd rfl (h next)
  | _ => rfl

@[simp] theorem taken_eq_nil (h : ∀ message, strand ≠ .asyncWrite message) : strand.taken = [] := by
  cases strand with
  | asyncWrite message => exact absurd rfl (h message)
  | _ => rfl

@[simp] theorem asking_eq_zero (h : ∀ after, strand ≠ .closeCheck after) : strand.asking = 0 := by
  cases strand with
  | closeCheck after => exact absurd rfl (h after)
  | _ => rfl

@[simp] theorem shutting_eq_zero (h : ∀ after, strand ≠ .doClose after) : strand.shutting = 0 := by
  cases strand with
  | doClose after => exact absurd rfl (h after)
  | _ => rfl

@[simp] theorem ending_eq_zero (h : ∀ prevState after, strand ≠ .doCloseUnregister prevState after)
    (h' : ∀ prevState after, strand ≠ .doCloseShutdown prevState after) : strand.ending = 0 := by
  cases strand with
  | doCloseUnregister prevState after => exact absurd rfl (h prevState after)
  | doCloseShutdown prevState after => exact absurd rfl (h' prevState after)
  | _ => rfl

end Points

end Strand

/-- What an event says of the outbox. -/
def Event.signals : Event → List (Outbox.Signal Text)
  | .queued _ message => [.accepted message]
  | .refused _ message => [.refused message]
  | .handed message => [.handed message]
  | .written message => [.completed message]
  | .writeFailed message => [.failed message]
  | .socketClosed | .asyncClosed => [.shutdown]
  | _ => []

/-- A session as an outbox. -/
def WebsocketSession.outbox (s : WebsocketSession) : Outbox Text where
  queue := s.writeQueue
  busy := s.writing
  closing := s.closeRequested
  closed := s.state == .closed
  starting := s.posters + s.strand.posting
  scheduled := s.postedWrites
  taken := s.strand.taken
  active := s.writes
  asking := s.closers + s.postedCloses + s.strand.asking
  shutting := s.strand.shutting
  initiated := s.closeInitiated
  ending := s.strand.ending

section Views

variable (after : After) (next : Next)

@[simp] theorem After.posting_strand : after.strand.posting = 0 := by cases after <;> rfl
@[simp] theorem After.taken_strand : after.strand.taken = [] := by cases after <;> rfl
@[simp] theorem After.asking_strand : after.strand.asking = 0 := by cases after <;> rfl
@[simp] theorem After.shutting_strand : after.strand.shutting = 0 := by cases after <;> rfl
@[simp] theorem After.ending_strand : after.strand.ending = 0 := by cases after <;> rfl
@[simp] theorem Next.posting_strand : next.strand.posting = 0 := by cases next <;> rfl
@[simp] theorem Next.taken_strand : next.strand.taken = [] := by cases next <;> rfl
@[simp] theorem Next.asking_strand : next.strand.asking = 0 := by cases next <;> rfl
@[simp] theorem Next.shutting_strand : next.strand.shutting = 0 := by cases next <;> rfl
@[simp] theorem Next.ending_strand : next.strand.ending = 0 := by cases next <;> rfl

end Views

/-- A strand that does nothing for the outbox. -/
structure Strand.Quiet (strand : Strand) : Prop where
  posting : strand.posting = 0
  taken : strand.taken = []
  asking : strand.asking = 0
  shutting : strand.shutting = 0
  ending : strand.ending = 0

theorem Strand.quiet_after (after : After) : after.strand.Quiet := by constructor <;> simp

theorem Strand.quiet_next (next : Next) : next.strand.Quiet := by constructor <;> simp

theorem Strand.Quiet.of_mayFail {strand : Strand} (h : strand.mayFail) : strand.Quiet := by
  cases strand <;> first | (constructor <;> rfl) | exact h.elim

section Refinement

variable {lib : JsonLib} {s t : WebsocketSession} {a : Action} {es : List Event}

/-- The outbox of a session. -/
abbrev pipeline : Machine (Outbox Text) Unit (Outbox.Signal Text) :=
  Outbox.machine Text Config.maxWriteQueueSize

theorem Sends.quiet {source : Source} {message : Text} {next : Next} {failed : Strand}
    (h : Sends lib s source message next failed) : s.strand.Quiet ∧ failed.Quiet := by
  cases h with
  | error hstrand | response hstrand | reload hstrand =>
      constructor
      · rw [hstrand]
        constructor <;> rfl
      · constructor <;> rfl

theorem WebsocketSession.signals_unregisterEvents (sid : Text) :
    (s.unregisterEvents sid).flatMap Event.signals = [] := by
  unfold unregisterEvents
  split <;> rfl

private theorem silent (h : t.outbox = s.outbox) : ∃ us, pipeline.Run s.outbox us [] t.outbox :=
  ⟨[], h ▸ Machine.Run.refl _⟩

private theorem visible {b : Outbox Text} {signals : List (Outbox.Signal Text)}
    (h : Outbox.Step Config.maxWriteQueueSize s.outbox signals b) (heq : t.outbox = b) :
    ∃ us, pipeline.Run s.outbox us signals t.outbox :=
  ⟨[()], heq ▸ Machine.Run.single h⟩

/-- The strand moves between two points that are nothing to the outbox. -/
private theorem silent_of_quiet {strand : Strand} (hs : s.strand.Quiet) (ht : strand.Quiet)
    (h : t.outbox = { s with strand }.outbox) : ∃ us, pipeline.Run s.outbox us [] t.outbox := by
  refine silent (h.trans ?_)
  simp [WebsocketSession.outbox, hs.posting, hs.taken, hs.asking, hs.shutting, hs.ending,
    ht.posting, ht.taken, ht.asking, ht.shutting, ht.ending]

/-- At a point that is nothing to the outbox, the strand does not show. -/
private theorem outbox_of_quiet (h : s.strand.Quiet) :
    s.outbox = { s.outbox with starting := s.posters, taken := [],
                               asking := s.closers + s.postedCloses, shutting := 0,
                               ending := 0 } := by
  simp [WebsocketSession.outbox, h.posting, h.taken, h.asking, h.shutting, h.ending]

/-- A message pushed on the strand. -/
private theorem outbox_push {strand : Strand} {message : Text} (hs : s.strand.Quiet)
    (hq : strand.taken = [] ∧ strand.asking = 0 ∧ strand.shutting = 0 ∧ strand.ending = 0) :
    { s with writeQueue := s.writeQueue ++ [message], writing := true, strand }.outbox =
      { s.outbox with queue := s.outbox.queue ++ [message], busy := true,
                      starting := s.outbox.starting + strand.posting } := by
  simp [WebsocketSession.outbox, hs.posting, hs.taken, hs.asking, hs.shutting, hs.ending, hq]

/-- Every branch of a session is a run of its outbox. -/
theorem Transition.outbox_run (h : Transition lib s a es t) (inv : ControlInv s) :
    ∃ us, pipeline.Run s.outbox us (es.flatMap Event.signals) t.outbox := by
  cases h with
  | tick | elapsed | timerFailed | armed | accepting | managerDropped => exact silent rfl
  | acceptDropped | readDropped | deadlineStopped | deadlineRewaited => exact silent rfl
  | destroyed _ hes =>
      have hnone : es.flatMap Event.signals = [] := by
        rw [hes]
        split
        · rfl
        · exact WebsocketSession.signals_unregisterEvents _
      rw [hnone]
      exact silent rfl
  -- `on_accept` and `on_read` set the state to closed without `do_close`
  | acceptFailed => exact visible .abort rfl
  | readFailed hidle =>
      refine visible .abort ?_
      by_cases hsid : s.sessionId = [] <;>
        simp [WebsocketSession.outbox, hidle, hsid]
  | accepted hidle | readLimited hidle | readPassed hidle | timedOut hidle =>
      exact silent_of_quiet (hidle ▸ by constructor <;> rfl) (by constructor <;> rfl) rfl
  -- between two points of a handler that are nothing to the outbox
  | failing hmay => exact silent_of_quiet (.of_mayFail hmay) (by constructor <;> rfl) rfl
  | actionAccepted hstrand | reloadAccepted hstrand | disconnecting hstrand | registering hstrand
  | generated hstrand | collided hstrand | registered hstrand | idStored hstrand
  | committed hstrand | guardStopped hstrand | rearmed hstrand | readStopped hstrand
  | reading hstrand | errorUnprinted hstrand =>
      exact silent_of_quiet (hstrand ▸ by constructor <;> rfl) (by constructor <;> rfl) rfl
  | authenticated hstrand =>
      have hstate := inv.unauthenticated (by rw [hstrand]; rfl)
      exact silent (by simp [WebsocketSession.outbox, hstrand, hstate])
  -- a message of the strand, pushed or refused
  | queuedStart hsends hopen hroom hidle =>
      obtain ⟨hclosed, hkeep⟩ := WebsocketSession.isClosing_eq_false.mp hopen
      exact visible (.pushStart _ (by simpa [WebsocketSession.outbox] using hclosed) hkeep hroom
        hidle) (outbox_push hsends.quiet.1 ⟨rfl, rfl, rfl, rfl⟩)
  | queuedJoin hsends hopen hroom hbusy =>
      obtain ⟨hclosed, hkeep⟩ := WebsocketSession.isClosing_eq_false.mp hopen
      refine visible (.pushJoin _ (by simpa [WebsocketSession.outbox] using hclosed) hkeep hroom
        hbusy) ((outbox_push hsends.quiet.1 (by simp)).trans ?_)
      simp [WebsocketSession.outbox, hbusy]
  | sendRefused hsends =>
      obtain ⟨hs, hfailed⟩ := hsends.quiet
      refine visible (.refuse _) ?_
      simp [WebsocketSession.outbox, hs.posting, hs.taken, hs.asking, hs.shutting, hs.ending,
        hfailed.posting, hfailed.taken, hfailed.asking, hfailed.shutting, hfailed.ending]
  | @posted next hstrand =>
      refine visible (.schedule (show s.outbox.starting = s.posters + 1 by
        simp [WebsocketSession.outbox, hstrand])) ?_
      refine (outbox_of_quiet (Strand.quiet_next next)).trans ?_
      simp [WebsocketSession.outbox, hstrand]
  -- `close` on the strand, and its check of `writing_`
  | closeClosed hstrand hclosed =>
      refine visible (.askClosed (by simp [WebsocketSession.outbox, hclosed])) ?_
      refine (outbox_of_quiet (Strand.quiet_after _)).trans ?_
      simp [WebsocketSession.outbox, hstrand]
  | closeOpen hstrand =>
      refine visible .ask ?_
      simp [WebsocketSession.outbox, hstrand]
  | checkBusy hstrand hbusy =>
      refine visible (.checkBusy (show s.outbox.asking = s.closers + s.postedCloses + 1 by
        simp [WebsocketSession.outbox, hstrand]) hbusy) ?_
      refine (outbox_of_quiet (Strand.quiet_after _)).trans ?_
      simp [WebsocketSession.outbox, hstrand]
  | checkIdle hstrand hidle =>
      refine visible (.checkIdle (show s.outbox.asking = s.closers + s.postedCloses + 1 by
        simp [WebsocketSession.outbox, hstrand]) hidle) ?_
      simp [WebsocketSession.outbox, hstrand]
  -- the same check, in the lambda that another thread dispatched
  | @lambdaBusy n hidle hposted hbusy =>
      refine visible (.checkBusy (show s.outbox.asking = s.closers + n + 1 by
        simp [WebsocketSession.outbox, hidle, hposted, ← add_assoc]) hbusy) ?_
      simp [WebsocketSession.outbox, hidle]
  | @lambdaIdle n hidle hposted hwriting =>
      refine visible (.checkIdle (show s.outbox.asking = s.closers + n + 1 by
        simp [WebsocketSession.outbox, hidle, hposted, ← add_assoc]) hwriting) ?_
      simp [WebsocketSession.outbox, hidle]
  -- `do_close`
  | closeSkipped hstrand hdone =>
      refine visible (.skip (show s.outbox.shutting = 0 + 1 by
        simp [WebsocketSession.outbox, hstrand])
        (hdone.imp id fun h => by simp [WebsocketSession.outbox, h])) ?_
      refine (outbox_of_quiet (Strand.quiet_after _)).trans ?_
      simp [WebsocketSession.outbox, hstrand]
  | closeBegun hstrand hfirst hopen =>
      refine visible (.begin (show s.outbox.shutting = 0 + 1 by
        simp [WebsocketSession.outbox, hstrand]) hfirst
        (by simpa [WebsocketSession.outbox] using hopen)) ?_
      simp [WebsocketSession.outbox, hstrand]
  | closeUnregistered hstrand =>
      rw [WebsocketSession.signals_unregisterEvents]
      exact silent (by simp [WebsocketSession.outbox, hstrand])
  | @shutdown prevState after e hstrand he =>
      have hsignal : [e].flatMap Event.signals = [.shutdown] := by
        rw [he]
        split <;> rfl
      rw [hsignal]
      refine visible (.shutdown (show s.outbox.ending = 0 + 1 by
        simp [WebsocketSession.outbox, hstrand])) ?_
      refine (outbox_of_quiet (Strand.quiet_after _)).trans ?_
      simp [WebsocketSession.outbox, hstrand]
  | unregistered hstrand =>
      rw [WebsocketSession.signals_unregisterEvents]
      exact silent (by simp [WebsocketSession.outbox, hstrand])
  -- the chain: `do_write`, `async_write` and `on_write`
  | writeAbandoned hidle hposted hstop =>
      exact visible (.abandon hposted (hstop.imp (fun h => by simp [WebsocketSession.outbox, h])
        id)) rfl
  | writeTaken hidle hposted hopen hqueue =>
      refine visible (.take hposted (by simpa [WebsocketSession.outbox] using hopen) hqueue) ?_
      simp [WebsocketSession.outbox, hidle]
  | handed hstrand =>
      refine visible (.hand (by rw [WebsocketSession.outbox, hstrand]; rfl)) ?_
      simp [WebsocketSession.outbox, hstrand]
  | writeFailed hidle hwrites =>
      refine visible (.fail hwrites) ?_
      simp [WebsocketSession.outbox, hidle]
  | writtenClosing hidle hwrites hclose hqueue =>
      refine visible (.finishClosing hwrites hqueue hclose) ?_
      simp [WebsocketSession.outbox, hidle]
  | writtenLast hidle hwrites hkeep hqueue => exact visible (.finish hwrites hqueue hkeep) rfl
  | writtenMore hidle hwrites hqueue =>
      refine visible (.continue hwrites hqueue) ?_
      simp [WebsocketSession.outbox, hidle]
  -- `send` and `close` of other threads, which do not wait for the strand
  | callerStart hopen hroom hidle =>
      obtain ⟨hclosed, hkeep⟩ := WebsocketSession.isClosing_eq_false.mp hopen
      refine visible (.pushStart _ (by simpa [WebsocketSession.outbox] using hclosed) hkeep hroom
        hidle) ?_
      simp [WebsocketSession.outbox, Nat.add_right_comm]
  | callerJoin hopen hroom hbusy =>
      obtain ⟨hclosed, hkeep⟩ := WebsocketSession.isClosing_eq_false.mp hopen
      refine visible (.pushJoin _ (by simpa [WebsocketSession.outbox] using hclosed) hkeep hroom
        hbusy) ?_
      simp [WebsocketSession.outbox, hbusy]
  | callerRefused => exact visible (.refuse _) rfl
  | @callerPosted n hposters =>
      refine visible (.schedule (show s.outbox.starting = n + s.strand.posting + 1 by
        simp [WebsocketSession.outbox, hposters, Nat.add_right_comm])) rfl
  | closeCalled =>
      refine visible .ask ?_
      simp [WebsocketSession.outbox, Nat.add_right_comm]
  | @closeForgotten n hclosers hclosed =>
      refine visible (.forget
        (show s.outbox.asking = n + s.postedCloses + s.strand.asking + 1 by
          simp [WebsocketSession.outbox, hclosers, Nat.add_right_comm])
        (by simp [WebsocketSession.outbox, hclosed])) rfl
  | closeDispatched hclosers =>
      refine silent ?_
      simp [WebsocketSession.outbox, hclosers, Nat.add_right_comm, Nat.add_assoc]

/-- A session refines its outbox. -/
def writePipeline (lib : JsonLib) : Machine.Refinement (session lib) pipeline ControlInv where
  view := WebsocketSession.outbox
  observe := Event.signals
  preserves inv h := inv.step h
  simulates inv h := (transition_of_step h).2.outbox_run inv

end Refinement

/-! ## Runs -/

section Runs

variable {lib : JsonLib} {now handshakeTimeout : ℤ} {s : WebsocketSession} {as : List Action}
  {es : List Event}

/-- What holds of an outbox holds of the session. -/
theorem outboxInv_of_run (run : SessionRun lib now handshakeTimeout as es s) :
    ControlInv s ∧
      Outbox.Inv Config.maxWriteQueueSize s.outbox (es.flatMap Event.signals) := by
  obtain ⟨inv, us, outboxRun⟩ := (writePipeline lib).run run (controlInv_construct _ _)
  exact ⟨inv, Outbox.inv_of_run outboxRun⟩

/-- The messages for which `send` returned true, in the order in which they were queued. -/
def queuedMessages (es : List Event) : List Text :=
  es.filterMap fun | .queued _ message => some message | _ => none

/-- The messages handed to `async_write`. -/
def handedMessages (es : List Event) : List Text :=
  es.filterMap fun | .handed message => some message | _ => none

/-- The messages whose `async_write` completed without an error. -/
def writtenMessages (es : List Event) : List Text :=
  es.filterMap fun | .written message => some message | _ => none

/-- A projection of the signals is a projection of the events when it is on each event. -/
private theorem filterMap_signals {β : Type} {f : Outbox.Signal Text → Option β}
    {g : Event → Option β} (h : ∀ e, (Event.signals e).filterMap f = (g e).toList)
    (es : List Event) : (es.flatMap Event.signals).filterMap f = es.filterMap g := by
  induction es with
  | nil => rfl
  | cons e es ih =>
      rw [List.flatMap_cons, List.filterMap_append, h, ih]
      cases hg : g e <;> simp [hg]

theorem accepted_signals (es : List Event) :
    Outbox.accepted (es.flatMap Event.signals) = queuedMessages es :=
  filterMap_signals (fun e => by cases e <;> rfl) es

theorem handed_signals (es : List Event) :
    Outbox.handed (es.flatMap Event.signals) = handedMessages es :=
  filterMap_signals (fun e => by cases e <;> rfl) es

theorem completed_signals (es : List Event) :
    Outbox.completed (es.flatMap Event.signals) = writtenMessages es :=
  filterMap_signals (fun e => by cases e <;> rfl) es

/-- The write chains that are running, from the step that sets `writing_` to the step that
clears it: threads about to post `do_write`, posted `do_write` handlers, a message between
the queue and `async_write`, and outstanding `async_write` operations. -/
def WebsocketSession.writeChains (s : WebsocketSession) : ℕ :=
  s.posters + s.strand.posting + s.postedWrites + s.strand.taken.length + s.writes.length

/-- In every reachable state at most one write chain is running, and one is exactly when
`writing_` is set; a message waiting in an open session has a chain, which finds it; the
queue is bounded; and messages are handed over in the order in which they were queued. -/
theorem writePipeline_safe (run : SessionRun lib now handshakeTimeout as es s) :
    s.writeChains ≤ 1 ∧ (s.writeChains = 1 ↔ s.writing = true) ∧
      (s.state ≠ .closed → s.writeQueue ≠ [] → s.writing = true) ∧
      (s.state ≠ .closed → 0 < s.postedWrites → s.writeQueue ≠ []) ∧
      s.writeQueue.length ≤ Config.maxWriteQueueSize ∧
      handedMessages es <+: queuedMessages es := by
  obtain ⟨_, inv⟩ := outboxInv_of_run run
  have hchains : s.writeChains = s.writing.toNat := inv.chain.chains_eq
  refine ⟨?_, ?_, ?_, ?_, inv.chain.length_le, ?_⟩
  · rw [hchains]
    exact Bool.toNat_le _
  · rw [hchains]
    cases s.writing <;> simp
  · intro hopen
    exact inv.chain.busy_of_waiting (by simpa [WebsocketSession.outbox] using hopen)
  · intro hopen hposted
    refine inv.chain.waiting_of_scheduled (by simpa [WebsocketSession.outbox] using hopen) ?_
    exact Nat.add_pos_right _ hposted
  · rw [← handed_signals, ← accepted_signals]
    exact inv.order.handed_isPrefix_accepted

/-- A session that is upgraded, while another thread sends two messages: the second is queued
while the first is on its way. -/
def greetingRun : WebsocketSession × List Event :=
  (Machine.exec (sessionStep (JsonLib.knowing [])) (.construct 0 10)
    [.armDeadline, .startAccept, .send (text "hello"), .onAccept none, .resume, .postWrite,
      .send (text "world"), .doWrite, .resume, .onWrite none, .resume, .send (text "again"),
      .doWrite, .resume]).get (by decide +kernel)

/-- Two messages are handed over in their order, and the third waits for the chain. -/
theorem writePipeline_safe_greeting :
    handedMessages greetingRun.2 = [text "hello", text "world"] ∧
      greetingRun.1.writeQueue = [text "again"] ∧ greetingRun.1.writeChains ≤ 1 ∧
      (greetingRun.1.writeChains = 1 ↔ greetingRun.1.writing = true) ∧
      handedMessages greetingRun.2 <+: queuedMessages greetingRun.2 := by
  have run : SessionRun (JsonLib.knowing []) 0 10 _ greetingRun.2 greetingRun.1 :=
    Machine.run_get _
  obtain ⟨hone, hiff, _, _, _, horder⟩ := writePipeline_safe run
  exact ⟨by decide +kernel, by decide +kernel, hone, hiff, horder⟩

end Runs

end CppSim.Server
