import CppSim.Server.Session.Control

/-!
# One message at a time

`on_read` handles a message from its first check to the guard at its end while the strand
is busy.  Other threads take their steps in between; this file says what those cannot
change (`frame_of_step`), and follows the two ways in which a handler ends.

* **Closing** (`ClosingInv`): it calls `close`, and with that the session is done.  No
  read is outstanding then and none is started, so no later message is handled.
* **Reading** (`ReadingInv`): it reaches the guard with no close requested, and reads on.

A handler speaks to the client through `send`; `replies` are the messages it sends, as far
as they were queued and as far as they were refused.
-/

namespace CppSim.Server

open Protocol

/-! ## Replies -/

/-- A call of `send` by the session itself. -/
def Event.isReply : Event → Bool
  | .queued source _ | .refused source _ => source != .caller
  | _ => false

/-- What the session itself sends, in order. -/
def replies (es : List Event) : List Event := es.filter Event.isReply

@[simp] theorem replies_nil : replies [] = [] := rfl

@[simp] theorem replies_append (es fs : List Event) :
    replies (es ++ fs) = replies es ++ replies fs :=
  List.filter_append ..

/-! ## Undisturbed handlers -/

/-- A step while the strand is busy: no other thread requests a close, and the burst
detector lets the message pass. -/
structure Undisturbed (s : WebsocketSession) (a : Action) : Prop where
  busy : s.strand ≠ .idle
  close : a ≠ .close
  quiet : ∀ gap logged, a = .handleMessage gap logged →
    (checkSuspiciousActivity s.now s.activity).2 = false

/-- The step is no close, and no burst is detected in it. -/
def Action.quiet (s : WebsocketSession) : Action → Bool
  | .close => false
  | .handleMessage _ _ => !(checkSuspiciousActivity s.now s.activity).2
  | _ => true

theorem undisturbed_iff {s : WebsocketSession} {a : Action} :
    Undisturbed s a ↔ s.strand ≠ .idle ∧ a.quiet s = true := by
  constructor
  · rintro ⟨hbusy, hclose, hquiet⟩
    refine ⟨hbusy, ?_⟩
    cases a with
    | close => exact absurd rfl hclose
    | handleMessage gap logged => simpa [Action.quiet] using hquiet gap logged
    | _ => rfl
  · rintro ⟨hbusy, ha⟩
    cases a with
    | close => cases ha
    | handleMessage => exact ⟨hbusy, by simp, by simpa [Action.quiet] using ha⟩
    | _ => exact ⟨hbusy, by simp, by simp⟩

instance (s : WebsocketSession) (a : Action) : Decidable (Undisturbed s a) :=
  decidable_of_iff _ undisturbed_iff.symm

/-- What has been taken of a handler since it was in `s`. -/
def HandlerRun (lib : JsonLib) (s : WebsocketSession) (as : List Action) (es : List Event)
    (t : WebsocketSession) : Prop :=
  ((session lib).restrict Undisturbed).Run s as es t

/-- The handler is about to send a reply. -/
def Strand.sends : Strand → Prop
  | .sendError _ _ _ | .sendReload _ _ | .sendResponse _ => True
  | _ => False

/-- There is room for a reply when the handler sends it. -/
def HasRoom (s : WebsocketSession) (a : Action) : Prop :=
  a = .resume → s.strand.sends → s.writeQueue.length < Config.maxWriteQueueSize

/-- The steps of the handler itself. -/
def Action.ofStrand : Action → Bool
  | .resume | .handleMessage _ _ | .generated _ | .emplaced _ | .rearm _ => true
  | _ => false

/-- What the handler on the strand does next. -/
inductive StrandStep (lib : JsonLib) (s : WebsocketSession) : Action → Reaction → Prop
  | resume {r : Reaction} (h : s.resume lib = some r) : StrandStep lib s .resume r
  | handleMessage {message : Text} (gap logged : Int64) (hstrand : s.strand = .checkBurst message) :
      StrandStep lib s (.handleMessage gap logged) (s.handleMessage lib message gap logged)
  | generated {attempt : ℕ} (sid : Text) (hstrand : s.strand = .generate attempt) :
      StrandStep lib s (.generated sid) (s.generated attempt sid)
  | emplaced {attempt : ℕ} {sid : Text} (result : EmplaceResult)
      (hstrand : s.strand = .insert attempt sid) :
      StrandStep lib s (.emplaced result) (s.emplaced attempt sid result)
  | rearm (timeout : ℤ) (hstrand : s.strand = .readGuard) :
      StrandStep lib s (.rearm timeout) ⟨s.rearm timeout, [], []⟩

/-- The members a client message may change have the same values. -/
structure Held (s t : WebsocketSession) : Prop where
  lastSequenceNumber : t.lastSequenceNumber = s.lastSequenceNumber
  currentStack : t.currentStack = s.currentStack
  sessionId : t.sessionId = s.sessionId

/-- The members that a handler looks at have the same values. -/
structure Kept (s t : WebsocketSession) : Prop extends Held s t where
  state : t.state = s.state
  closeRequested : t.closeRequested = s.closeRequested
  reads : t.reads = s.reads

/-- And the handler is where it was. -/
structure Frame (s t : WebsocketSession) : Prop extends Kept s t where
  strand : t.strand = s.strand

section Frames

variable {lib : JsonLib} {s t u : WebsocketSession} {a : Action} {as : List Action}
  {es fs : List Event}

theorem Held.refl (s : WebsocketSession) : Held s s := ⟨rfl, rfl, rfl⟩

theorem Kept.refl (s : WebsocketSession) : Kept s s := ⟨.refl s, rfl, rfl, rfl⟩

theorem Held.trans (h : Held s t) (h' : Held t u) : Held s u :=
  ⟨h'.lastSequenceNumber.trans h.lastSequenceNumber, h'.currentStack.trans h.currentStack,
    h'.sessionId.trans h.sessionId⟩

theorem Kept.trans (h : Kept s t) (h' : Kept t u) : Kept s u :=
  ⟨h.toHeld.trans h'.toHeld, h'.state.trans h.state, h'.closeRequested.trans h.closeRequested,
    h'.reads.trans h.reads⟩

/-- A step of a session is a reaction of it. -/
theorem step_eq_some (h : (session lib).step s a es t) :
    ∃ r, s.step lib a = some r ∧ r.next = t ∧ r.events = es := by
  obtain ⟨r, hr, hnext⟩ := Option.map_eq_some_iff.mp h
  exact ⟨r, hr, (Prod.mk.inj hnext).1, (Prod.mk.inj hnext).2⟩

theorem strandStep_of_step (h : (session lib).step s a es t) (hown : a.ofStrand = true) :
    ∃ r, StrandStep lib s a r ∧ r.next = t ∧ r.events = es := by
  obtain ⟨r, hr, hnext⟩ := step_eq_some h
  refine ⟨r, ?_, hnext⟩
  unfold WebsocketSession.step at hr
  split at hr
  · cases hr
  · cases a with
    | resume => exact .resume hr
    | handleMessage gap logged =>
        simp only at hr
        split at hr
        · cases Option.some.inj hr
          exact .handleMessage gap logged ‹_›
        · cases hr
    | generated sid =>
        simp only at hr
        split at hr
        · cases Option.some.inj hr
          exact .generated sid ‹_›
        · cases hr
    | emplaced result =>
        simp only at hr
        split at hr
        · cases Option.some.inj hr
          exact .emplaced result ‹_›
        · cases hr
    | rearm timeout =>
        simp only at hr
        split at hr
        · cases Option.some.inj hr
          exact .rearm timeout ‹_›
        · cases hr
    | _ => cases hown

theorem frame_of_sendFromCaller (message : Text) :
    Frame s (s.sendFromCaller message).next ∧ replies (s.sendFromCaller message).events = [] := by
  unfold WebsocketSession.sendFromCaller WebsocketSession.queueMessage
  by_cases hclosing : s.isClosing = true
  · rw [if_pos hclosing]
    exact ⟨⟨.refl s, rfl⟩, rfl⟩
  · rw [if_neg hclosing]
    by_cases hfull : s.writeQueue.length ≥ Config.maxWriteQueueSize
    · rw [if_pos hfull]
      exact ⟨⟨.refl s, rfl⟩, rfl⟩
    · rw [if_neg hfull]
      cases s.writing with
      | false => exact ⟨⟨⟨⟨rfl, rfl, rfl⟩, rfl, rfl, rfl⟩, rfl⟩, rfl⟩
      | true => exact ⟨⟨⟨⟨rfl, rfl, rfl⟩, rfl, rfl, rfl⟩, rfl⟩, rfl⟩

/-- While the strand is busy, the rest of the world only passes time, drops the manager,
and fills the write queue. -/
theorem frame_of_step (h : (session lib).step s a es t) (hundisturbed : Undisturbed s a)
    (hother : a.ofStrand = false) : Frame s t ∧ replies es = [] := by
  obtain ⟨hbusy, hclose, -⟩ := hundisturbed
  obtain ⟨r, hr, rfl, rfl⟩ := step_eq_some h
  unfold WebsocketSession.step at hr
  split at hr
  · cases hr
  · cases a with
    | tick | timerError | dropManager =>
        cases Option.some.inj hr
        exact ⟨⟨⟨⟨rfl, rfl, rfl⟩, rfl, rfl, rfl⟩, rfl⟩, rfl⟩
    | elapse =>
        obtain ⟨deadline, -, rfl⟩ := Option.map_eq_some_iff.mp hr
        exact ⟨⟨⟨⟨rfl, rfl, rfl⟩, rfl, rfl, rfl⟩, rfl⟩, rfl⟩
    | armDeadline | startAccept =>
        obtain ⟨-, hr⟩ := Option.ite_none_right_eq_some.mp hr
        cases Option.some.inj hr
        exact ⟨⟨⟨⟨rfl, rfl, rfl⟩, rfl, rfl, rfl⟩, rfl⟩, rfl⟩
    | onAccept | onRead | onWrite | doWrite | closeLambda | onDeadline =>
        cases hr
    | resume | handleMessage | generated | emplaced | rearm => cases hother
    | send message =>
        cases Option.some.inj hr
        exact frame_of_sendFromCaller message
    | postWrite =>
        simp only at hr
        split at hr
        · cases hr
        · cases Option.some.inj hr
          exact ⟨⟨⟨⟨rfl, rfl, rfl⟩, rfl, rfl, rfl⟩, rfl⟩, rfl⟩
    | close => exact absurd rfl hclose
    | dispatchClose =>
        simp only at hr
        split at hr
        · cases hr
        · split at hr <;> cases Option.some.inj hr <;>
            exact ⟨⟨⟨⟨rfl, rfl, rfl⟩, rfl, rfl, rfl⟩, rfl⟩, rfl⟩
    | destroy =>
        obtain ⟨hrest, -⟩ := Option.ite_none_right_eq_some.mp hr
        simp only [WebsocketSession.unreferenced, Bool.and_eq_true, beq_iff_eq] at hrest
        exact absurd hrest.1.1.1.1.1.1.1.2 hbusy

/-- A step is one of somebody else or one of the handler. -/
theorem handler_step_cases (h : (session lib).step s a es t) (hundisturbed : Undisturbed s a) :
    (Frame s t ∧ replies es = [] ∧ a.ofStrand = false) ∨
      ∃ r, StrandStep lib s a r ∧ r.next = t ∧ r.events = es := by
  cases hown : a.ofStrand with
  | false =>
      obtain ⟨frame, hquiet⟩ := frame_of_step h hundisturbed hown
      exact .inl ⟨frame, hquiet, rfl⟩
  | true => exact .inr (strandStep_of_step h hown)

/-- A handler that can go on by itself does nothing else. -/
theorem StrandStep.eq_resume {r r' : Reaction} (h : StrandStep lib s a r)
    (hresume : s.resume lib = some r') : a = .resume ∧ r = r' := by
  cases h with
  | resume hr => exact ⟨rfl, Option.some.inj (hr.symm.trans hresume)⟩
  | handleMessage _ _ hstrand | generated _ hstrand | emplaced _ hstrand | rearm _ hstrand =>
      simp [WebsocketSession.resume, hstrand] at hresume

/-- A session is not destroyed while a handler runs. -/
theorem destroyed_of_step (h : (session lib).step s a es t) (hundisturbed : Undisturbed s a) :
    t.destroyed = false := by
  obtain ⟨hlive, htransition⟩ := transition_of_step h
  cases htransition with
  | destroyed hrest =>
      simp only [WebsocketSession.unreferenced, Bool.and_eq_true, beq_iff_eq] at hrest
      exact absurd hrest.1.1.1.1.1.1.1.2 hundisturbed.busy
  | _ => exact hlive

/-- What `send` on the strand leads to in an open session: the message is queued, or there
is no room for it. -/
inductive Sent (s : WebsocketSession) (source : Source) (message : Text) (next : Next)
    (failed : Strand) (r : Reaction) : Prop
  | queued (kept : Kept s r.next) (room : s.writeQueue.length < Config.maxWriteQueueSize)
      (events : r.events = [.queued source message])
      (strand : r.next.strand = .post next ∨ r.next.strand = next.strand)
  | refused (kept : Kept s r.next) (full : Config.maxWriteQueueSize ≤ s.writeQueue.length)
      (events : r.events = [.refused source message]) (strand : r.next.strand = failed)

theorem sent_sendOnStrand (hopen : s.isClosing = false) (source : Source) (message : Text)
    (next : Next) (failed : Strand) (failure : List LogLine) :
    Sent s source message next failed (s.sendOnStrand source message next failed failure) := by
  unfold WebsocketSession.sendOnStrand WebsocketSession.queueMessage
  rw [if_neg (by simp [hopen])]
  by_cases hfull : s.writeQueue.length ≥ Config.maxWriteQueueSize
  · rw [if_pos hfull]
    exact .refused ⟨⟨rfl, rfl, rfl⟩, rfl, rfl, rfl⟩ hfull rfl rfl
  · rw [if_neg hfull]
    cases s.writing with
    | false => exact .queued ⟨⟨rfl, rfl, rfl⟩, rfl, rfl, rfl⟩ (not_le.mp hfull) rfl (.inl rfl)
    | true => exact .queued ⟨⟨rfl, rfl, rfl⟩, rfl, rfl, rfl⟩ (not_le.mp hfull) rfl (.inr rfl)

/-- What the message handler does with its verdict, when the burst detector was quiet. -/
inductive Dispatched (s : WebsocketSession) (gap : Int64) (r : Reaction) : Verdict → Prop
  | reject {errorCode line : Text} (kept : Kept s r.next)
      (strand : r.next.strand = .sendError errorCode line .readGuard) (events : r.events = []) :
      Dispatched s gap r (.reject errorCode line)
  | acceptAction {seq : Int64}
      (kept : Kept { s with lastSequenceNumber := seq } r.next) (strand : r.next.strand = .readGuard)
      (events : r.events = [.actionAccepted seq gap]) : Dispatched s gap r (.acceptAction seq)
  | acceptReload {amount : Int64} (kept : Kept s r.next)
      (strand : r.next.strand = .sendReload amount (min (s.currentStack + amount) maxAmount))
      (events : r.events = [.reloadAccepted amount]) : Dispatched s gap r (.acceptReload amount)
  | disconnect (kept : Kept s r.next) (strand : r.next.strand = .close .readGuard)
      (events : r.events = []) : Dispatched s gap r .disconnect
  | register (kept : Kept s r.next) (strand : r.next.strand = .generate 0) (events : r.events = []) :
      Dispatched s gap r .register

theorem dispatched_handleMessage {message : Text} {gap logged : Int64}
    (hquiet : (checkSuspiciousActivity s.now s.activity).2 = false) :
    Dispatched s gap (s.handleMessage lib message gap logged)
      (s.handle lib message gap logged).verdict := by
  unfold WebsocketSession.handleMessage
  split
  · rename_i activity hburst
    rw [hburst] at hquiet
    cases hquiet
  · dsimp only
    cases (s.handle lib message gap logged).verdict with
    | reject => exact .reject ⟨⟨rfl, rfl, rfl⟩, rfl, rfl, rfl⟩ rfl rfl
    | acceptAction => exact .acceptAction ⟨⟨rfl, rfl, rfl⟩, rfl, rfl, rfl⟩ rfl rfl
    | acceptReload => exact .acceptReload ⟨⟨rfl, rfl, rfl⟩, rfl, rfl, rfl⟩ rfl rfl
    | disconnect => exact .disconnect ⟨⟨rfl, rfl, rfl⟩, rfl, rfl, rfl⟩ rfl rfl
    | register => exact .register ⟨⟨rfl, rfl, rfl⟩, rfl, rfl, rfl⟩ rfl rfl

/-! ## The end of a handler -/

/-- Where `close` is called by the handler of a message. -/
def Strand.closesNext : Strand → Prop
  | .close .readGuard | .post (.close .readGuard) => True
  | _ => False

/-- Where the handler of a message is after `close` has set its flag. -/
def Strand.closesNow : Strand → Prop
  | .closeCheck .readGuard | .doClose .readGuard | .doCloseUnregister _ .readGuard
  | .doCloseShutdown _ .readGuard | .readGuard | .idle => True
  | _ => False

/-- The handler that was in `s` has sent what it sends and goes on to close the session. -/
structure ClosingInv (s : WebsocketSession) (sent : List Event) (es : List Event)
    (t : WebsocketSession) : Prop where
  held : Held s t
  state : t.state = s.state ∨ t.state = .closed
  reads : t.reads = 0
  replies : replies es = sent
  position : t.closeRequested = false ∧ t.strand.closesNext ∨
    t.closeRequested = true ∧ t.strand.closesNow

/-- The handler is on its way to the next read. -/
structure ReadingInv (lastSequenceNumber currentStack : Int64) (sessionId : Text)
    (sent : List Event) (es : List Event) (t : WebsocketSession) : Prop where
  lastSequenceNumber : t.lastSequenceNumber = lastSequenceNumber
  currentStack : t.currentStack = currentStack
  sessionId : t.sessionId = sessionId
  replies : replies es = sent
  authenticated : t.state = .authenticated
  closeRequested : t.closeRequested = false
  position : t.strand = .readGuard ∨ t.strand = .doRead ∨ t.strand = .idle

variable {sent : List Event}

/-- The handler has closed nothing yet, and changed none of the members in `Held`. -/
structure Open (s t : WebsocketSession) : Prop extends Held s t where
  state : t.state = s.state
  closeRequested : t.closeRequested = false
  reads : t.reads = 0

theorem Open.kept (h : Open s t) (kept : Kept t u) : Open s u :=
  ⟨h.toHeld.trans kept.toHeld, kept.state.trans h.state,
    kept.closeRequested.trans h.closeRequested, kept.reads.trans h.reads⟩

theorem Open.isClosing (h : Open s t) (hstate : s.state ≠ .closed) : t.isClosing = false :=
  WebsocketSession.isClosing_eq_false.mpr ⟨h.state ▸ hstate, h.closeRequested⟩

/-- A handler that sends its only reply. -/
theorem replies_append_of_reply {e : Event} (hreplies : replies es = []) (hevents : fs = [e])
    (hreply : e.isReply = true) : replies (es ++ fs) = [e] := by
  rw [replies_append, hreplies, hevents, List.nil_append]
  exact List.filter_cons_of_pos hreply

/-- The handler of an open session goes on to close it. -/
theorem Open.closing (isOpen : Open s t) (hstrand : t.strand.closesNext)
    (hreplies : replies es = sent) : ClosingInv s sent es t :=
  ⟨isOpen.toHeld, .inl isOpen.state, isOpen.reads, hreplies, .inl ⟨isOpen.closeRequested, hstrand⟩⟩

/-- A reply was queued, or there was no room for it. -/
inductive Answered (full : Prop) (source : Source) (text : Text) : List Event → Prop
  | queued : Answered full source text [.queued source text]
  | refused (h : full) : Answered full source text [.refused source text]

/-- The handler of an open session sends its last reply and goes on to close the session. -/
theorem Sent.answered {full : Prop} {source : Source} {line : Text} {r : Reaction}
    (sent : Sent t source line (.close .readGuard) (.close .readGuard) r) (isOpen : Open s t)
    (hreplies : replies es = []) (hsource : source ≠ .caller) (hsends : t.strand.sends)
    (hfull : ¬ HasRoom t .resume → full) :
    ∃ answer, Answered full source line answer ∧ ClosingInv s answer (es ++ r.events) r.next := by
  cases sent with
  | queued kept _ hevents hstrand =>
      refine ⟨_, .queued, (isOpen.kept kept).closing ?_
        (replies_append_of_reply hreplies hevents (by simpa [Event.isReply] using hsource))⟩
      rcases hstrand with hstrand | hstrand <;> rw [hstrand] <;> trivial
  | refused kept isFull hevents hstrand =>
      refine ⟨_, .refused (hfull fun room => ?_), (isOpen.kept kept).closing ?_
        (replies_append_of_reply hreplies hevents (by simpa [Event.isReply] using hsource))⟩
      · exact absurd isFull (not_le.mpr (room rfl hsends))
      · rw [hstrand]
        trivial

theorem replies_unregisterEvents (sid : Text) : replies (s.unregisterEvents sid) = [] := by
  unfold WebsocketSession.unregisterEvents
  split <;> rfl

/-- A step that sends nothing leaves the replies as they are. -/
theorem replies_append_of_quiet (hsent : replies es = sent) (hquiet : replies fs = []) :
    replies (es ++ fs) = sent := by
  rw [replies_append, hsent, hquiet, List.append_nil]

/-- The handler is about to call `close`. -/
theorem StrandStep.closesNext {r : Reaction} (h : StrandStep lib s a r)
    (hposition : s.strand.closesNext) :
    Held s r.next ∧ r.next.state = s.state ∧ r.next.reads = s.reads ∧ replies r.events = [] ∧
      (r.next.closeRequested = s.closeRequested ∧ r.next.strand.closesNext ∨
        r.next.closeRequested = true ∧ r.next.strand.closesNow) := by
  cases hstrand : s.strand with
  | close after =>
      rw [hstrand] at hposition
      cases after with
      | leave => exact hposition.elim
      | readGuard =>
          cases h with
          | resume hr =>
              simp only [WebsocketSession.resume, hstrand, Option.some.injEq] at hr
              subst hr
              unfold WebsocketSession.close
              split
              · exact ⟨⟨rfl, rfl, rfl⟩, rfl, rfl, rfl, .inr ⟨rfl, trivial⟩⟩
              · exact ⟨⟨rfl, rfl, rfl⟩, rfl, rfl, rfl, .inr ⟨rfl, trivial⟩⟩
          | handleMessage _ _ hother | generated _ hother | emplaced _ hother | rearm _ hother =>
              rw [hstrand] at hother
              cases hother
  | post next =>
      cases h with
      | resume hr =>
          simp only [WebsocketSession.resume, hstrand, Option.some.injEq] at hr
          subst hr
          refine ⟨⟨rfl, rfl, rfl⟩, rfl, rfl, rfl, .inl ⟨rfl, ?_⟩⟩
          rw [hstrand] at hposition
          cases next with
          | close after => cases after <;> exact hposition
          | _ => exact hposition.elim
      | handleMessage _ _ hother | generated _ hother | emplaced _ hother | rearm _ hother =>
          rw [hstrand] at hother
          cases hother
  | _ =>
      rw [hstrand] at hposition
      exact hposition.elim

/-- The handler has called `close`. -/
theorem StrandStep.closesNow {r : Reaction} (h : StrandStep lib s a r)
    (hclose : s.closeRequested = true) (hposition : s.strand.closesNow) :
    Held s r.next ∧ (r.next.state = s.state ∨ r.next.state = .closed) ∧
      r.next.reads = s.reads ∧ replies r.events = [] ∧
      r.next.closeRequested = true ∧ r.next.strand.closesNow := by
  have hclosing := WebsocketSession.isClosing_of_closeRequested hclose
  cases h with
  | resume hr =>
      unfold WebsocketSession.resume at hr
      split at hr <;> rename_i hstrand <;> rw [hstrand] at hposition <;>
        first
        | exact hposition.elim
        | cases hr
      all_goals rename_i after; cases after <;> first | exact hposition.elim | skip
      · unfold WebsocketSession.closeCheck
        split <;> exact ⟨⟨rfl, rfl, rfl⟩, .inl rfl, rfl, rfl, hclose, trivial⟩
      · unfold WebsocketSession.doClose
        split
        · exact ⟨⟨rfl, rfl, rfl⟩, .inl rfl, rfl, rfl, hclose, trivial⟩
        · split
          · exact ⟨⟨rfl, rfl, rfl⟩, .inl rfl, rfl, rfl, hclose, trivial⟩
          · exact ⟨⟨rfl, rfl, rfl⟩, .inr rfl, rfl, rfl, hclose, trivial⟩
      · exact ⟨⟨rfl, rfl, rfl⟩, .inl rfl, rfl, replies_unregisterEvents _, hclose, trivial⟩
      · refine ⟨⟨rfl, rfl, rfl⟩, .inl rfl, rfl, ?_, hclose, trivial⟩
        unfold WebsocketSession.doCloseShutdown
        dsimp only
        split <;> rfl
  | handleMessage _ _ hstrand | generated _ hstrand | emplaced _ hstrand =>
      rw [hstrand] at hposition
      exact hposition.elim
  | rearm timeout hstrand =>
      have hrearm : s.rearm timeout = { s with strand := .idle } := if_pos hclosing
      rw [hrearm]
      exact ⟨⟨rfl, rfl, rfl⟩, .inl rfl, rfl, rfl, hclose, trivial⟩

theorem ClosingInv.step (inv : ClosingInv s sent es t) (h : (session lib).step t a fs u)
    (hundisturbed : Undisturbed t a) : ClosingInv s sent (es ++ fs) u := by
  obtain ⟨hheld, hstate, hreads, hreplies, hposition⟩ := inv
  cases hown : a.ofStrand with
  | false =>
      obtain ⟨hframe, hquiet⟩ := frame_of_step h hundisturbed hown
      refine ⟨hheld.trans hframe.toHeld, ?_, hframe.reads.trans hreads,
        replies_append_of_quiet hreplies hquiet, ?_⟩
      · rw [hframe.state]
        exact hstate
      · rw [hframe.closeRequested, hframe.strand]
        exact hposition
  | true =>
      obtain ⟨r, hstep, rfl, rfl⟩ := strandStep_of_step h hown
      rcases hposition with ⟨hopen, hnext⟩ | ⟨hclose, hnow⟩
      · obtain ⟨hheld', hstate', hreads', hquiet, hposition'⟩ := hstep.closesNext hnext
        rw [hopen] at hposition'
        refine ⟨hheld.trans hheld', ?_, hreads'.trans hreads,
          replies_append_of_quiet hreplies hquiet, hposition'⟩
        rw [hstate']
        exact hstate
      · obtain ⟨hheld', hstate', hreads', hquiet, hclose', hnow'⟩ := hstep.closesNow hclose hnow
        refine ⟨hheld.trans hheld', ?_, hreads'.trans hreads,
          replies_append_of_quiet hreplies hquiet, .inr ⟨hclose', hnow'⟩⟩
        rcases hstate' with hstate' | hstate'
        · rw [hstate']
          exact hstate
        · exact .inr hstate'

theorem ReadingInv.step {last stack : Int64} {sid : Text}
    (inv : ReadingInv last stack sid sent es t) (h : (session lib).step t a fs u)
    (hundisturbed : Undisturbed t a) : ReadingInv last stack sid sent (es ++ fs) u := by
  obtain ⟨hlast, hstack, hsid, hreplies, hstate, hopen, hposition⟩ := inv
  have hnotClosing : t.isClosing = false :=
    WebsocketSession.isClosing_eq_false.mpr ⟨by simp [hstate], hopen⟩
  cases hown : a.ofStrand with
  | false =>
      obtain ⟨⟨⟨⟨hlast', hstack', hsid'⟩, hstate', hclose', -⟩, hstrand'⟩, hquiet⟩ :=
        frame_of_step h hundisturbed hown
      refine ⟨hlast'.trans hlast, hstack'.trans hstack, hsid'.trans hsid,
        replies_append_of_quiet hreplies hquiet, hstate'.trans hstate, hclose'.trans hopen, ?_⟩
      rw [hstrand']
      exact hposition
  | true =>
      obtain ⟨r, hstep, rfl, rfl⟩ := strandStep_of_step h hown
      rcases hposition with hstrand | hstrand | hstrand
      · cases hstep with
        | rearm timeout =>
            have hrearm : t.rearm timeout = { t with
                deadline := t.deadline.expiresAt (t.now + timeout), strand := .doRead } :=
              if_neg (by simp [hnotClosing])
            rw [hrearm]
            exact ⟨hlast, hstack, hsid, replies_append_of_quiet hreplies rfl, hstate, hopen,
              .inr (.inl rfl)⟩
        | resume hr =>
            simp [WebsocketSession.resume, hstrand] at hr
        | handleMessage _ _ hother | generated _ hother | emplaced _ hother =>
            rw [hstrand] at hother
            cases hother
      · cases hstep with
        | resume hr =>
            simp only [WebsocketSession.resume, hstrand, Option.some.injEq] at hr
            subst hr
            have hread : t.doRead = { t with strand := .idle, reads := t.reads + 1 } :=
              if_neg (by simp [hnotClosing])
            rw [hread]
            exact ⟨hlast, hstack, hsid, replies_append_of_quiet hreplies rfl, hstate, hopen,
              .inr (.inr rfl)⟩
        | handleMessage _ _ hother | generated _ hother | emplaced _ hother | rearm _ hother =>
            rw [hstrand] at hother
            cases hother
      · exact absurd hstrand hundisturbed.busy

/-! ## Every handler ends

`remaining` bounds the steps that a handler has yet to take: each of its own steps takes one
off, the steps of others leave it where it is, and the handler is never stuck. -/

def After.remaining : After → ℕ
  | .leave => 0
  | .readGuard => 2

def Next.remaining : Next → ℕ
  | .close after => 5 + after.remaining
  | .authenticate _ | .commit _ => 3
  | .leave => 0

def Strand.remaining : Strand → ℕ
  | .idle => 0
  | .doRead | .asyncWrite _ | .unregister _ => 1
  | .readGuard => 2
  | .authenticate _ | .commitReload _ => 3
  | .doCloseShutdown _ after => 1 + after.remaining
  | .doCloseUnregister _ after => 2 + after.remaining
  | .doClose after => 3 + after.remaining
  | .closeCheck after => 4 + after.remaining
  | .close after => 5 + after.remaining
  | .post next => 1 + next.remaining
  | .sendError _ _ after => 7 + after.remaining
  | .sendReload _ _ | .sendResponse _ => 8
  | .storeId _ => 9
  | .insert attempt _ => 10 + 2 * (WebsocketSession.maxSessionIdRetries - attempt)
  | .generate attempt => 11 + 2 * (WebsocketSession.maxSessionIdRetries - attempt)
  | .checkBurst _ => 18

@[simp] theorem After.remaining_strand (after : After) :
    after.strand.remaining = after.remaining := by
  cases after <;> rfl

@[simp] theorem Next.remaining_strand (next : Next) : next.strand.remaining = next.remaining := by
  cases next <;> rfl

theorem remaining_sendOnStrand (source : Source) (message : Text) (next : Next) (failed : Strand)
    (failure : List LogLine) :
    (s.sendOnStrand source message next failed failure).next.strand.remaining ≤
      max (1 + next.remaining) failed.remaining := by
  unfold WebsocketSession.sendOnStrand
  split
  · exact le_max_right ..
  · exact le_max_right ..
  · exact le_max_left ..
  · dsimp only
    rw [Next.remaining_strand]
    omega

theorem remaining_resume {r : Reaction} (h : s.resume lib = some r) :
    r.next.strand.remaining < s.strand.remaining := by
  unfold WebsocketSession.resume at h
  split at h <;> rename_i hstrand <;> rw [hstrand] <;> cases h
  · rename_i errorCode line after
    unfold WebsocketSession.sendProtocolError
    dsimp only
    split
    · simp [Strand.remaining]
    · refine (remaining_sendOnStrand ..).trans_lt ?_
      simp only [Strand.remaining, Next.remaining]
      omega
  · rw [Next.remaining_strand]
    exact Nat.lt_one_add_iff.mpr le_rfl
  · rename_i after
    unfold WebsocketSession.close
    split <;> simp only [After.remaining_strand] <;> simp only [Strand.remaining] <;> omega
  · unfold WebsocketSession.closeCheck
    split <;> simp only [After.remaining_strand] <;> simp only [Strand.remaining] <;> omega
  · unfold WebsocketSession.doClose
    split
    · simp only [After.remaining_strand]
      simp only [Strand.remaining]
      omega
    · split <;> simp only [After.remaining_strand] <;> simp only [Strand.remaining] <;> omega
  · simp [WebsocketSession.doCloseUnregister, Strand.remaining]
  · simp only [WebsocketSession.doCloseShutdown, After.remaining_strand]
    simp only [Strand.remaining]
    omega
  · simp [Strand.remaining]
  · simp [Strand.remaining]
  · unfold WebsocketSession.sendResponse
    dsimp only
    split
    · simp [WebsocketSession.handlerThrew, Strand.remaining, After.remaining]
    · exact (remaining_sendOnStrand ..).trans_lt (by simp [Strand.remaining, Next.remaining,
        After.remaining])
  · simp [WebsocketSession.authenticate, Strand.remaining]
  · unfold WebsocketSession.sendReload
    split
    · simp [WebsocketSession.handlerThrew, Strand.remaining, After.remaining]
    · exact (remaining_sendOnStrand ..).trans_lt (by simp [Strand.remaining, Next.remaining,
        After.remaining])
  · simp [Strand.remaining]
  · simp [Strand.remaining]
  · unfold WebsocketSession.doRead
    split <;> simp [Strand.remaining]

theorem remaining_registrationFailed (lines : List LogLine) :
    (s.registrationFailed lines).next.strand.remaining = 9 := rfl

theorem StrandStep.remaining_lt {r : Reaction} (h : StrandStep lib s a r) :
    r.next.strand.remaining < s.strand.remaining := by
  cases h with
  | resume hr => exact remaining_resume hr
  | handleMessage gap logged hstrand =>
      rw [hstrand]
      unfold WebsocketSession.handleMessage
      split
      · simp [Strand.remaining, After.remaining]
      · dsimp only
        split <;> simp [Strand.remaining, After.remaining, WebsocketSession.maxSessionIdRetries]
  | generated sid hstrand =>
      rw [hstrand]
      unfold WebsocketSession.generated
      split
      · rw [remaining_registrationFailed]
        simp only [Strand.remaining]
        omega
      · split
        · rw [remaining_registrationFailed]
          simp only [Strand.remaining]
          omega
        · simp [Strand.remaining]
  | emplaced result hstrand =>
      rw [hstrand]
      cases result with
      | success => simp only [WebsocketSession.emplaced, Strand.remaining]; omega
      | maxConnections =>
          simp only [WebsocketSession.emplaced, remaining_registrationFailed]
          simp only [Strand.remaining]
          omega
      | collision =>
          simp only [WebsocketSession.emplaced]
          split
          · simp only [Strand.remaining]
            omega
          · rw [remaining_registrationFailed]
            simp only [Strand.remaining]
            omega
  | rearm timeout hstrand =>
      rw [hstrand]
      unfold WebsocketSession.rearm
      split <;> simp [Strand.remaining]

/-- A handler takes at most as many steps as `remaining` says. -/
theorem HandlerRun.length_le (run : HandlerRun lib s as es t) :
    (as.filter Action.ofStrand).length + t.strand.remaining ≤ s.strand.remaining := by
  induction run with
  | refl => simp
  | @tail t u as a es fs _ hstep ih =>
      obtain ⟨hundisturbed, hstep⟩ := hstep
      rw [List.filter_append, List.length_append]
      cases hown : a.ofStrand with
      | false =>
          obtain ⟨frame, -⟩ := frame_of_step hstep hundisturbed hown
          simpa [hown, frame.strand] using ih
      | true =>
          obtain ⟨r, hstrand, rfl, -⟩ := strandStep_of_step hstep hown
          have hlt := hstrand.remaining_lt
          simp only [hown, List.filter_cons_of_pos, List.filter_nil, List.length_singleton]
          omega

/-- A handler can always take its next step. -/
theorem exists_strandStep (hbusy : s.strand ≠ .idle) (halive : s.destroyed = false) :
    ∃ a es t, a.ofStrand = true ∧ (session lib).step s a es t := by
  have hstep : ∃ a r, a.ofStrand = true ∧ s.step lib a = some r := by
    cases hstrand : s.strand with
    | idle => exact absurd hstrand hbusy
    | checkBurst message =>
        exact ⟨.handleMessage 0 0, _, rfl, by simp only [WebsocketSession.step, halive, hstrand]; rfl⟩
    | generate attempt =>
        exact ⟨.generated [], _, rfl, by simp only [WebsocketSession.step, halive, hstrand]; rfl⟩
    | insert attempt sid =>
        exact ⟨.emplaced .maxConnections, _, rfl,
          by simp only [WebsocketSession.step, halive, hstrand]; rfl⟩
    | readGuard =>
        exact ⟨.rearm 0, _, rfl, by simp only [WebsocketSession.step, halive, hstrand]; rfl⟩
    | _ =>
        exact ⟨.resume, _, rfl, by
          simp only [WebsocketSession.step, halive, WebsocketSession.resume, hstrand]; rfl⟩
  obtain ⟨a, r, hown, hr⟩ := hstep
  exact ⟨a, r.events, r.next, hown, by simp [session, Machine.ofStep, sessionStep, hr]⟩

/-! ## After a close -/

/-- A close is requested, no read is outstanding, and no message waits to be handled. -/
structure DoneReading (s : WebsocketSession) : Prop where
  closeRequested : s.closeRequested = true
  reads : s.reads = 0
  strand : ∀ message, s.strand ≠ .checkBurst message

@[simp] theorem After.strand_ne_checkBurst (after : After) (message : Text) :
    after.strand ≠ .checkBurst message := by
  cases after <;> simp [After.strand]

theorem DoneReading.step (done : DoneReading s) (h : Transition lib s a es t) : DoneReading t := by
  obtain ⟨hclose, hreads, hstrand⟩ := done
  have hclosing := WebsocketSession.isClosing_of_closeRequested hclose
  cases h with
  | readDropped _ hread | readFailed _ hread | readLimited _ hread | readPassed _ hread =>
      rw [hreads] at hread
      cases hread
  | reading _ hopen | queuedStart _ hopen | queuedJoin _ hopen =>
      rw [hclosing] at hopen
      cases hopen
  | sendRefused hsends =>
      refine ⟨hclose, hreads, ?_⟩
      cases hsends <;> simp
  | posted _ =>
      refine ⟨hclose, hreads, ?_⟩
      rename_i next _
      cases next <;> simp [Next.strand]
  | closeClosed _ _ | checkBusy _ _ | closeSkipped _ _ | shutdown _ _ =>
      exact ⟨by simp [hclose], hreads, After.strand_ne_checkBurst _⟩
  | _ => exact ⟨by simp [hclose], hreads, by simp [hstrand]⟩

/-- No later message of the connection is passed to a handler. -/
theorem DoneReading.handles_nothing (done : DoneReading s) (run : (session lib).Run s as es t) :
    ∀ gap logged, .handleMessage gap logged ∉ as := by
  have hkept : DoneReading t ∧ ∀ gap logged, .handleMessage gap logged ∉ as := by
    induction run with
    | refl => exact ⟨done, by simp⟩
    | tail _ hstep ih =>
        obtain ⟨done, hnone⟩ := ih
        refine ⟨done.step (transition_of_step hstep).2, ?_⟩
        intro gap logged hmem
        rcases List.mem_append.mp hmem with hmem | hmem
        · exact hnone gap logged hmem
        · obtain rfl := List.mem_singleton.mp hmem
          obtain ⟨r, hr, -, -⟩ := strandStep_of_step hstep rfl
          cases hr with
          | handleMessage _ _ hstrand => exact done.strand _ hstrand
  exact hkept.2

/-- When the handler has closed the session, the reading is over. -/
theorem ClosingInv.doneReading (inv : ClosingInv s sent es t) (hidle : t.strand = .idle) :
    DoneReading t := by
  rcases inv.position with ⟨-, hnext⟩ | ⟨hclose, -⟩
  · rw [hidle] at hnext
    exact hnext.elim
  · exact ⟨hclose, inv.reads, by simp [hidle]⟩

end Frames

end CppSim.Server
