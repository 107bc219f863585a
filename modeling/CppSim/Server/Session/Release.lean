import CppSim.Library.Drain
import CppSim.Server.Session.Barred
import CppSim.Server.Session.Handling
import CppSim.Server.Session.Registration

/-!
# Releasing a session

A session is destroyed when nothing refers to it any more.  Its outstanding operations, its posted
handlers and the threads in `send` or `close` are part of `WebsocketSession`; `ClosingSession` adds
the others that hold a `shared_ptr`: the handler of `async_close`, the registry of the manager, and
the calls of `stop_all` that took the session out of the registry.

Once a session is closing, by whatever way, it drains:

* `load` weighs what is left to do: what waits in the queue, what is outstanding, and where the
  strand is.  Every step of the session's own work takes something off it, and of all that other
  threads can do only calls of `close` and `stop_all` add to it.
* The session is never stuck before it is destroyed.  While it is open the outbox has a chain or
  a request under way (`CloseInv`), and once it is closed every operation that is outstanding may
  complete.
* The registry lets it go: a closed session whose strand is idle has taken back the id it was
  registered under (`Unregistration`), so it has no entry left (`Reached.entries_eq_nil`).
-/

namespace CppSim.Server

open Protocol

/-! ## What refers to a session -/

/-- A session with the references to it that are not its own. -/
structure ClosingSession where
  session : WebsocketSession
  /-- Outstanding `async_close` operations. -/
  closes : ℕ
  /-- The ids under which the session is in the registry. -/
  entries : List Text
  /-- The entries that calls of `stop_all` took, before and after their call of `close`. -/
  swept : ℕ
  stopped : ℕ

/-- A step of the session, the completion of `async_close`, or a call of the manager. -/
inductive ClosingAction
  | own (a : Action)
  | onClose (error : Option Text)
  /-- Another thread in `unregister_session`. -/
  | unregister (sid : Text)
  /-- `stop_all`: swap, close the session, and return. -/
  | stopAll
  | stopClose
  | stopReturn

inductive ClosingEvent
  | own (e : Event)
  /-- The fallback of the handler of `async_close`. -/
  | socketClosed

def Action.isDestroy : Action → Bool
  | .destroy => true
  | _ => false

/-- The operations that a step starts. -/
def closesStarted (es : List Event) : ℕ := es.count .asyncClosed

/-- What an event of the session does to its entries. -/
def observeEntries (entries : List Text) : Event → List Text
  | .registered sid => entries ++ [sid]
  | .unregister sid => entries.filter (· ≠ sid)
  | _ => entries

namespace ClosingSession

def construct (now handshakeTimeout : ℤ) : ClosingSession :=
  ⟨.construct now handshakeTimeout, 0, [], 0, 0⟩

/-- The handler of `async_close`, the registry or a call of `stop_all` refers to the session. -/
def refers (v : ClosingSession) : Bool :=
  v.closes != 0 || v.session.managerAlive && !v.entries.isEmpty || v.swept != 0 || v.stopped != 0

/-- After a step of the session. -/
def after (v : ClosingSession) (t : WebsocketSession) (es : List Event) : ClosingSession :=
  { v with session := t, closes := v.closes + closesStarted es,
           entries := es.foldl observeEntries v.entries }

end ClosingSession

/-- One step of a session that is destroyed only when nothing refers to it. -/
def closingStep (lib : JsonLib) (v : ClosingSession) :
    ClosingAction → Option (ClosingSession × List ClosingEvent)
  | .own a =>
      if a.isDestroy && v.refers then none
      else (sessionStep lib v.session a).map fun r => (v.after r.1 r.2, r.2.map .own)
  | .onClose error =>
      match v.closes with
      | 0 => none
      | n + 1 =>
          if v.session.strand = .idle then
            some ({ v with closes := n }, if error.isSome then [.socketClosed] else [])
          else none
  | .unregister sid =>
      if v.session.managerAlive then
        some ({ v with entries := v.entries.filter (· ≠ sid) }, [])
      else none
  | .stopAll =>
      if v.session.managerAlive then
        some ({ v with entries := [], swept := v.swept + v.entries.length }, [])
      else none
  | .stopClose =>
      match v.swept with
      | 0 => none
      | n + 1 =>
          (sessionStep lib v.session .close).map fun r =>
            ({ v with swept := n, stopped := v.stopped + 1 }.after r.1 r.2, r.2.map .own)
  -- its thread may still be in `close`, and then it is one of the closers
  | .stopReturn =>
      match v.stopped with
      | 0 => none
      | n + 1 => some ({ v with stopped := n }, [])

/-- The machine of a session with what refers to it. -/
def closingSession (lib : JsonLib) : Machine ClosingSession ClosingAction ClosingEvent :=
  Machine.ofStep (closingStep lib)

/-- The branches of `closingStep`. -/
inductive ClosingTransition (lib : JsonLib) (v : ClosingSession) :
    ClosingAction → ClosingSession → Prop
  | own {a : Action} {es : List Event} {t : WebsocketSession}
      (hstep : (session lib).step v.session a es t) : ClosingTransition lib v (.own a) (v.after t es)
  | closed {n : ℕ} (error : Option Text) (hcloses : v.closes = n + 1) :
      ClosingTransition lib v (.onClose error) { v with closes := n }
  | unregistered (sid : Text) :
      ClosingTransition lib v (.unregister sid) { v with entries := v.entries.filter (· ≠ sid) }
  | swept : ClosingTransition lib v .stopAll
      { v with entries := [], swept := v.swept + v.entries.length }
  | stopped {n : ℕ} {es : List Event} {t : WebsocketSession} (hswept : v.swept = n + 1)
      (hstep : (session lib).step v.session .close es t) :
      ClosingTransition lib v .stopClose
        ({ v with swept := n, stopped := v.stopped + 1 }.after t es)
  | returned {n : ℕ} (hstopped : v.stopped = n + 1) :
      ClosingTransition lib v .stopReturn { v with stopped := n }

theorem closingTransition_of_step {lib : JsonLib} {v w : ClosingSession} {a : ClosingAction}
    {es : List ClosingEvent} (h : (closingSession lib).step v a es w) :
    ClosingTransition lib v a w := by
  change closingStep lib v a = some (w, es) at h
  cases a with
  | own b =>
      obtain ⟨-, h⟩ := Option.ite_none_left_eq_some.mp h
      obtain ⟨⟨t, fs⟩, hstep, hnext⟩ := Option.map_eq_some_iff.mp h
      obtain ⟨rfl, -⟩ := Prod.mk.inj hnext
      exact .own hstep
  | onClose error =>
      simp only [closingStep] at h
      split at h
      · cases h
      · obtain ⟨-, h⟩ := Option.ite_none_right_eq_some.mp h
        obtain ⟨rfl, -⟩ := Prod.mk.inj (Option.some.inj h)
        exact .closed error ‹_›
  | unregister sid =>
      obtain ⟨-, h⟩ := Option.ite_none_right_eq_some.mp h
      obtain ⟨rfl, -⟩ := Prod.mk.inj (Option.some.inj h)
      exact .unregistered sid
  | stopAll =>
      obtain ⟨-, h⟩ := Option.ite_none_right_eq_some.mp h
      obtain ⟨rfl, -⟩ := Prod.mk.inj (Option.some.inj h)
      exact .swept
  | stopClose =>
      simp only [closingStep] at h
      split at h
      · cases h
      · obtain ⟨⟨t, fs⟩, hstep, hnext⟩ := Option.map_eq_some_iff.mp h
        obtain ⟨rfl, -⟩ := Prod.mk.inj hnext
        exact .stopped ‹_› hstep
  | stopReturn =>
      simp only [closingStep] at h
      split at h
      · cases h
      · obtain ⟨rfl, -⟩ := Prod.mk.inj (Option.some.inj h)
        exact .returned ‹_›

/-! ## The load -/

/-- The steps of the session's own work: the handlers and completions, and what is left of the
calls that are under way. -/
def Action.works : Action → Bool
  | .tick _ | .elapse | .timerError | .send _ | .close | .dropManager => false
  | _ => true

def ClosingAction.works : ClosingAction → Bool
  | .own a => a.works
  | .unregister _ | .stopAll => false
  | .onClose _ | .stopClose | .stopReturn => true

/-- Another thread calls `close`. -/
def ClosingAction.isClose : ClosingAction → Bool
  | .own .close => true
  | _ => false

/-- Another thread calls `stop_all`. -/
def ClosingAction.isStopAll : ClosingAction → Bool
  | .stopAll => true
  | _ => false

/-- What the handler on the strand has left to do. -/
def Strand.load : Strand → ℕ
  | .asyncWrite _ => 9
  | strand => 2 * strand.remaining

def RunPhase.load : RunPhase → ℕ
  | .constructed => 18
  | .armed => 2
  | .returned => 0

/-- What a closing session has left to do.  The weights leave room for the handler that a
completion starts. -/
def WebsocketSession.load (s : WebsocketSession) : ℕ :=
  s.strand.load + 9 * s.writeQueue.length + 7 * s.writes.length + s.postedWrites +
    2 * s.posters + 8 * s.closers + 7 * s.postedCloses + 37 * s.reads + s.accepts +
    15 * s.deadline.outstanding + s.runPhase.load + if s.destroyed then 0 else 1

def ClosingSession.load (v : ClosingSession) : ℕ :=
  v.session.load + v.closes + 10 * v.swept + v.stopped

section Load

variable {lib : JsonLib} {s t : WebsocketSession} {a : Action} {es : List Event}

theorem Strand.load_add_two_le {before after : Strand} (hlt : after.remaining < before.remaining)
    (hafter : ∀ message, after ≠ .asyncWrite message) : after.load + 2 ≤ before.load := by
  have hload : after.load = 2 * after.remaining := by
    cases after with
    | asyncWrite message => exact absurd rfl (hafter message)
    | _ => rfl
  have hbefore : 2 * before.remaining ≤ before.load := by
    cases before with
    | asyncWrite => simp [Strand.load, Strand.remaining]
    | _ => exact le_rfl
  omega

/-- Only the shutdown body starts an `async_close`. -/
theorem Transition.closesStarted_le (h : Transition lib s a es t) :
    closesStarted es ≤ s.strand.ending := by
  by_cases hmem : .asyncClosed ∈ es
  · have hending := h.ending_of_shutdown hmem rfl
    have hone := h.length_events
    have hcount : closesStarted es ≤ es.length := List.count_le_length
    omega
  · rw [closesStarted, List.count_eq_zero.mpr hmem]
    exact Nat.zero_le _

/-- A step of somebody else leaves the strand of a busy session where it is. -/
theorem strand_of_other (h : (session lib).step s a es t) (hbusy : s.strand ≠ .idle)
    (hother : a.ofStrand = false) : t.strand = s.strand := by
  by_cases hclose : a = .close
  · obtain ⟨r, hr, rfl, -⟩ := step_eq_some (hclose ▸ h)
    unfold WebsocketSession.step at hr
    split at hr
    · cases hr
    · exact Option.some.inj hr ▸ rfl
  · refine (frame_of_step h ⟨hbusy, hclose, ?_⟩ hother).1.strand
    rintro gap logged rfl
    cases hother

/-- No handler of a message turns to the write chain. -/
theorem Transition.strand_ne_asyncWrite (h : Transition lib s a es t) (hown : a.ofStrand = true)
    (message : Text) : t.strand ≠ .asyncWrite message := by
  intro hstrand
  cases h with
  | sendRefused hsends => cases hsends <;> cases hstrand
  | @queuedJoin _ _ next | @posted next =>
      cases next with
      | close | authenticate | commit => cases hstrand
      | leave => cases hstrand
  | @closeClosed after | @checkBusy after | @closeSkipped after | @shutdown _ after =>
      cases after <;> cases hstrand
  | tick | elapsed | timerFailed | managerDropped | destroyed | deadlineStopped
  | deadlineRewaited | callerStart | callerJoin | callerRefused | callerPosted | closeCalled
  | closeForgotten | closeDispatched | writeAbandoned | writtenLast | armed | accepting
  | acceptDropped | acceptFailed | readDropped | readFailed | writeTaken => cases hown
  | _ => cases hstrand

/-- A step of the handler on the strand works some of the load off. -/
theorem load_lt_of_strand (h : (session lib).step s a es t) (hclosing : s.isClosing = true)
    (hown : a.ofStrand = true) : t.load + closesStarted es < s.load := by
  have htransition := (transition_of_step h).2
  obtain ⟨r, hstep, rfl, rfl⟩ := strandStep_of_step h hown
  have hload := Strand.load_add_two_le hstep.remaining_lt (htransition.strand_ne_asyncWrite hown)
  have hone : closesStarted r.events ≤ 1 :=
    List.count_le_length.trans htransition.length_events
  generalize r.next = u, r.events = fs at htransition hload hone ⊢
  unfold WebsocketSession.load
  cases htransition with
  | rearmed _ hopen | reading _ hopen | queuedStart _ hopen | queuedJoin _ hopen =>
      rw [hclosing] at hopen
      cases hopen
  | posted =>
      simp only [closesStarted, List.count_nil] at hload ⊢
      omega
  | handed hstrand =>
      rw [hstrand]
      simp [closesStarted, Strand.load, Strand.remaining]
      omega
  | closeUnregistered =>
      rw [Timer.outstanding_cancel]
      dsimp only at hload ⊢
      omega
  | tick | elapsed | timerFailed | managerDropped | destroyed | deadlineStopped
  | deadlineRewaited | callerStart | callerJoin | callerRefused | callerPosted | closeCalled
  | closeForgotten | closeDispatched | writeAbandoned | writtenLast | armed | accepting
  | acceptDropped | acceptFailed | accepted | readDropped | readFailed | readLimited | readPassed
  | lambdaBusy | lambdaIdle | writeTaken | writeFailed | writtenClosing | writtenMore | timedOut =>
      cases hown
  | _ =>
      dsimp only at hload ⊢
      omega

/-- A handler that runs is not given up by a step of somebody else. -/
private theorem not_failing {activity : Activity} {errorCode message : Text} {after : After}
    (h : (session lib).step s a es
      { s with activity, strand := .sendError errorCode message after })
    (hmay : s.strand.mayFail) (hother : a.ofStrand = false) : False := by
  have hbusy : s.strand ≠ .idle := by
    intro hidle
    rw [hidle] at hmay
    exact hmay
  rw [← strand_of_other h hbusy hother] at hmay
  exact hmay

/-- A completion or a queued handler that starts, and a call that goes on, work some of the load
off: each weighs more than the handler it starts. -/
theorem load_lt_of_start (h : (session lib).step s a es t) (hclosing : s.isClosing = true)
    (hworks : a.works = true) (hother : a.ofStrand = false) :
    t.load + closesStarted es < s.load := by
  obtain ⟨hlive, htransition⟩ := transition_of_step h
  have hcloses := htransition.closesStarted_le
  unfold WebsocketSession.load
  cases htransition with
  | failing hmay => exact (not_failing h hmay hother).elim
  | accepted _ _ hopen | deadlineRewaited _ _ hopen =>
      rw [hclosing] at hopen
      cases hopen
  -- the deadline and the accept that `run` starts
  | armed hphase =>
      rw [hphase]
      simp only [Timer.outstanding, Timer.asyncWait, Timer.expiresAt, Timer.cancel, RunPhase.load,
        closesStarted, List.count_nil]
      omega
  | accepting hphase =>
      rw [hphase]
      simp only [RunPhase.load, closesStarted, List.count_nil]
      omega
  | acceptDropped hidle hcount | readDropped hidle hcount =>
      rw [hidle] at hcloses
      simp only [Strand.ending, hcount] at hcloses ⊢
      omega
  | acceptFailed hidle hcount =>
      rw [hidle] at hcloses
      simp only [Strand.ending, Timer.outstanding_cancel, hcount] at hcloses ⊢
      omega
  | readFailed hidle hcount =>
      have hstrand : (if s.sessionId = [] then Strand.idle
          else .unregister s.sessionId).load ≤ 2 := by
        split <;> simp [Strand.load, Strand.remaining]
      rw [hidle] at hcloses
      simp only [Strand.ending, Timer.outstanding_cancel, hcount] at hcloses ⊢
      omega
  | readLimited hidle hcount | readPassed hidle hcount =>
      rw [hidle] at hcloses ⊢
      simp only [Strand.ending, Strand.load, Strand.remaining, After.remaining, hcount]
        at hcloses ⊢
      omega
  | lambdaBusy hidle hcount | lambdaIdle hidle hcount | writeAbandoned hidle hcount =>
      rw [hidle] at hcloses ⊢
      simp only [Strand.ending, Strand.load, Strand.remaining, After.remaining, hcount]
        at hcloses ⊢
      omega
  | writeTaken hidle hcount _ hqueue =>
      rw [hidle] at hcloses ⊢
      simp only [Strand.ending, Strand.load, Strand.remaining, List.length_cons, hcount, hqueue]
        at hcloses ⊢
      omega
  | writeFailed hidle hwrites | writtenClosing hidle hwrites | writtenLast hidle hwrites
  | writtenMore hidle hwrites =>
      rw [hidle] at hcloses ⊢
      simp only [Strand.ending, Strand.load, Strand.remaining, After.remaining, Next.remaining,
        List.length_cons, List.length_nil, hwrites] at hcloses ⊢
      omega
  | deadlineStopped hidle hdeliver | timedOut hidle hdeliver =>
      rw [hidle] at hcloses ⊢
      simp only [Strand.ending, Strand.load, Strand.remaining, After.remaining,
        Timer.outstanding_of_deliver hdeliver] at hcloses ⊢
      omega
  | callerPosted hcount | closeForgotten hcount | closeDispatched hcount =>
      simp only [hcount, closesStarted, List.count_nil]
      omega
  | destroyed hrest =>
      have hidle : s.strand = .idle := by
        simp only [WebsocketSession.unreferenced, Bool.and_eq_true, beq_iff_eq] at hrest
        exact hrest.1.1.1.1.1.1.1.2
      rw [hidle] at hcloses
      simp only [Strand.ending, Timer.outstanding_cancel, hlive, if_true] at hcloses ⊢
      simp only [Bool.false_eq_true, if_false]
      omega
  | tick | elapsed | timerFailed | managerDropped | callerStart | callerJoin | callerRefused
  | closeCalled => cases hworks
  | _ => cases hother

theorem load_lt_of_works (h : (session lib).step s a es t) (hclosing : s.isClosing = true)
    (hworks : a.works = true) : t.load + closesStarted es < s.load := by
  cases hown : a.ofStrand with
  | true => exact load_lt_of_strand h hclosing hown
  | false => exact load_lt_of_start h hclosing hworks hown

/-- Of what the others do, only a call of `close` adds to the load. -/
theorem load_le_of_other (h : (session lib).step s a es t) (hclosing : s.isClosing = true)
    (hother : a.works = false) :
    t.load + closesStarted es ≤ s.load + if (ClosingAction.own a).isClose then 8 else 0 := by
  have hown : a.ofStrand = false := by cases a <;> first | rfl | cases hother
  have htransition := (transition_of_step h).2
  unfold WebsocketSession.load
  cases htransition with
  | failing hmay => exact (not_failing h hmay hown).elim
  | elapsed helapse =>
      rw [Timer.outstanding_of_elapse helapse]
      exact Nat.le_add_right _ _
  | timerFailed =>
      rw [Timer.outstanding_fail]
      exact Nat.le_add_right _ _
  | callerStart hopen | callerJoin hopen =>
      rw [hclosing] at hopen
      cases hopen
  | closeCalled =>
      simp only [closesStarted, List.count_nil, ClosingAction.isClose, if_true]
      omega
  | tick | managerDropped | callerRefused => exact Nat.le_add_right _ _
  | _ => cases hother

end Load

/-! ## The registry -/

/-- The session has been reached, and is in the registry under ids that it was registered under
and has not taken back. -/
def ClosingSession.Reached (lib : JsonLib) (v : ClosingSession) : Prop :=
  ∃ now handshakeTimeout as es, SessionRun lib now handshakeTimeout as es v.session ∧
    v.entries.Sublist (registrations es) ∧ ∀ sid ∈ v.entries, .unregister sid ∉ es

section Registry

variable {lib : JsonLib} {v w : ClosingSession} {a : ClosingAction} {es : List ClosingEvent}

theorem ClosingSession.reached_construct (now handshakeTimeout : ℤ) :
    (ClosingSession.construct now handshakeTimeout).Reached lib :=
  ⟨now, handshakeTimeout, [], [], .refl _, .refl _, fun _ hmem => by cases hmem⟩

/-- A step of the session keeps its entries in step with its registration. -/
theorem ClosingSession.Reached.after {b : Action} {fs : List Event} {t : WebsocketSession}
    (reached : v.Reached lib) (hstep : sessionStep lib v.session b = some (t, fs)) :
    (v.after t fs).Reached lib := by
  obtain ⟨now, handshakeTimeout, as, es, run, hentries, hkept⟩ := reached
  have run' : SessionRun lib now handshakeTimeout (as ++ [b]) (es ++ fs) t := run.tail hstep
  obtain ⟨hlive, htransition⟩ := transition_of_step hstep
  refine ⟨now, handshakeTimeout, _, _, run', ?_⟩
  have hone := htransition.length_events
  rw [registrations_append]
  match fs, hone with
  | [], _ => simpa [registrations] using ⟨hentries, hkept⟩
  | [e], _ =>
      cases e with
      | registered sid =>
          have hopen := htransition.ended_of_registered hlive (controlInv_of_run run)
            (List.mem_singleton_self _)
          refine ⟨hentries.append (.refl _), fun sid' hmem hunregistered => ?_⟩
          rcases List.mem_append.mp hmem with hold | hnew
          · exact hkept sid' hold (by simpa using hunregistered)
          · -- a session that registers has not ended, so it has not taken back an id
            have hended := ((unregistration_of_run run').mine sid' hunregistered).2
            rw [hopen] at hended
            cases hended
      | unregister sid =>
          refine ⟨?_, fun sid' hmem => ?_⟩
          · exact (List.filter_sublist.trans hentries).trans (List.sublist_append_left _ _)
          · obtain ⟨hold, hne⟩ := List.mem_filter.mp hmem
            simpa using ⟨hkept sid' hold, by simpa using hne⟩
      | _ => simpa [registrations, ClosingSession.after, observeEntries] using ⟨hentries, hkept⟩

theorem ClosingSession.Reached.step (reached : v.Reached lib)
    (h : (closingSession lib).step v a es w) : w.Reached lib := by
  cases closingTransition_of_step h with
  | own hstep => exact reached.after hstep
  | stopped _ hstep => exact (show ClosingSession.Reached lib { v with .. } from reached).after hstep
  | closed | returned => exact reached
  | unregistered sid =>
      obtain ⟨now, handshakeTimeout, as, fs, run, hentries, hkept⟩ := reached
      exact ⟨now, handshakeTimeout, as, fs, run, List.filter_sublist.trans hentries,
        fun sid' hmem => hkept sid' (List.mem_filter.mp hmem).1⟩
  | swept =>
      obtain ⟨now, handshakeTimeout, as, fs, run, -⟩ := reached
      exact ⟨now, handshakeTimeout, as, fs, run, List.nil_sublist _, fun _ hmem => by cases hmem⟩

/-- A session has one entry at most. -/
theorem ClosingSession.Reached.length_entries_le (reached : v.Reached lib) :
    v.entries.length ≤ 1 := by
  obtain ⟨now, handshakeTimeout, as, fs, run, hentries, -⟩ := reached
  exact hentries.length_le.trans (registration_of_run run).length_le

/-- The registry has let go of a closed session whose strand is idle. -/
theorem ClosingSession.Reached.entries_eq_nil (reached : v.Reached lib)
    (halive : v.session.managerAlive = true) (hclosed : v.session.state = .closed)
    (hidle : v.session.strand = .idle) : v.entries = [] := by
  obtain ⟨now, handshakeTimeout, as, fs, run, hentries, hkept⟩ := reached
  refine List.eq_nil_iff_forall_not_mem.mpr fun sid hmem => hkept sid hmem ?_
  obtain ⟨hregs, -⟩ := (registration_of_run run).sessionId_of_idle hidle
    (mem_registrations.mp (hentries.subset hmem))
  exact (unregistration_of_run run).due halive (by simp [WebsocketSession.ended, hclosed])
    (by rw [hidle]; rfl) sid hregs

end Registry

/-! ## Draining -/

/-- The session has been reached, and a close is requested or done. -/
def ClosingSession.Closing (lib : JsonLib) (v : ClosingSession) : Prop :=
  v.Reached lib ∧ v.session.isClosing = true

/-- What happens without anything new from the client or from other threads: time passes, the
session works, calls of `stop_all` go on, and reads and accepts that are outstanding fail once it
is closed. -/
def Unaided (v : ClosingSession) : ClosingAction → Prop
  | .own (.onRead (.message _ _ _ _)) | .own (.onAccept none) | .own .timerError | .own (.send _)
  | .own .close | .own .dropManager | .unregister _ | .stopAll => False
  | .own (.onRead (.failed _)) | .own (.onAccept (some _)) => v.session.state = .closed
  | _ => True

section Draining

variable {lib : JsonLib} {v w : ClosingSession} {a : ClosingAction} {es : List ClosingEvent}

theorem ClosingSession.Closing.step (inv : v.Closing lib) (h : (closingSession lib).step v a es w) :
    w.Closing lib := by
  obtain ⟨reached, hclosing⟩ := inv
  refine ⟨reached.step h, ?_⟩
  obtain ⟨now, handshakeTimeout, as, fs, run, -⟩ := reached
  cases closingTransition_of_step h with
  | own hstep | stopped _ hstep =>
      exact (transition_of_step hstep).2.isClosing (controlInv_of_run run) hclosing
  | closed | unregistered | returned | swept => exact hclosing

/-- A closing session drains. -/
theorem closingSession_drains (lib : JsonLib) :
    Machine.Drains (closingSession lib) (ClosingSession.Closing lib) ClosingAction.works
      ClosingSession.load
      fun a => (if a.isClose then 8 else 0) + if a.isStopAll then 10 else 0 where
  keeps inv h := inv.step h
  works inv h hworks := by
    unfold ClosingSession.load
    cases closingTransition_of_step h with
    | own hstep =>
        have hlt := load_lt_of_works hstep inv.2 hworks
        dsimp only [ClosingSession.after]
        omega
    | stopped hswept hstep =>
        have hle := load_le_of_other hstep inv.2 rfl
        simp only [ClosingAction.isClose, if_true] at hle
        dsimp only [ClosingSession.after]
        omega
    | closed _ hcloses =>
        dsimp only
        omega
    | returned hstopped =>
        dsimp only
        omega
    | unregistered | swept => cases hworks
  adds inv h hother := by
    unfold ClosingSession.load
    cases closingTransition_of_step h with
    | own hstep =>
        have hle := load_le_of_other hstep inv.2 hother
        dsimp only [ClosingSession.after]
        omega
    | unregistered =>
        dsimp only
        omega
    | swept =>
        have hone := inv.1.length_entries_le
        simp only [ClosingAction.isClose, ClosingAction.isStopAll, Bool.false_eq_true, if_false,
          if_true]
        omega
    | stopped | closed | returned => cases hother

theorem own_step {b : Action} {r : Reaction} (hr : v.session.step lib b = some r)
    (hlast : b.isDestroy = false ∨ v.refers = false) :
    (closingSession lib).step v (.own b) (r.events.map .own) (v.after r.next r.events) := by
  change closingStep lib v (.own b) = _
  have hheld : (b.isDestroy && v.refers) = false := by
    rcases hlast with hother | hnone
    · rw [hother, Bool.false_and]
    · rw [hnone, Bool.and_false]
  rw [closingStep, hheld, sessionStep, hr]
  rfl

/-- A step of the session that works is one that takes load off. -/
theorem progress_of_step {b : Action} (inv : v.Closing lib)
    (henabled : (v.session.step lib b).isSome = true) (hunaided : Unaided v (.own b))
    (hworks : b.works = true) (hlast : b.isDestroy = false ∨ v.refers = false) :
    ∃ as es w, ((closingSession lib).restrict Unaided).Run v as es w ∧ w.load < v.load := by
  obtain ⟨r, hr⟩ := Option.isSome_iff_exists.mp henabled
  have hstep := own_step hr hlast
  exact ⟨_, _, _, .single ⟨hunaided, hstep⟩, (closingSession_drains lib).works inv hstep hworks⟩

/-- A handler that may start on the idle strand of a live session does. -/
theorem isSome_step_of_start {s : WebsocketSession} {b : Action} (hlive : s.destroyed = false)
    (hidle : s.strand = .idle) (hstart : (s.start b).isSome = true) :
    (s.step lib b).isSome = true := by
  cases b with
  | onAccept | onRead | onWrite | doWrite | closeLambda | onDeadline =>
      rw [WebsocketSession.step, if_neg (by simp [hlive])]
      simpa only [hidle, if_true] using hstart
  | _ => cases hstart

/-- An open session that is closing has work to do: its outbox has a chain or a request under
way. -/
theorem closed_or_working {now handshakeTimeout : ℤ} {as : List Action} {fs : List Event}
    {s : WebsocketSession} (run : SessionRun lib now handshakeTimeout as fs s)
    (hclosing : s.isClosing = true) (hidle : s.strand = .idle) :
    s.state = .closed ∨ 0 < s.posters ∨ 0 < s.postedWrites ∨ s.writes ≠ [] ∨ 0 < s.closers ∨
      0 < s.postedCloses := by
  by_contra hnone
  simp only [not_or, not_lt, Nat.le_zero, not_not] at hnone
  obtain ⟨hopen, hposters, hposted, hwrites, hclosers, hcloses⟩ := hnone
  obtain ⟨-, outbox⟩ := outboxInv_of_run run
  have hrequested : s.closeRequested = true := by
    simpa [WebsocketSession.isClosing, hopen] using hclosing
  have hclosed := outbox.closed_of_closing hrequested
    (by simp [Outbox.chains, WebsocketSession.outbox, hidle, hposters, hposted, hwrites])
    (by simp [WebsocketSession.outbox, hidle, hclosers, hcloses])
    (by simp [WebsocketSession.outbox, hidle])
  exact hopen (by simpa [WebsocketSession.outbox] using hclosed)

/-- What the outbox and the calls of other threads have under way goes on. -/
private theorem progress_of_working (inv : v.Closing lib) (hlive : v.session.destroyed = false)
    (hidle : v.session.strand = .idle)
    (hworking : 0 < v.session.posters ∨ 0 < v.session.postedWrites ∨ v.session.writes ≠ [] ∨
      0 < v.session.closers ∨ 0 < v.session.postedCloses) :
    ∃ as es w, ((closingSession lib).restrict Unaided).Run v as es w ∧ w.load < v.load := by
  rcases hworking with hpos | hpos | hwrites | hpos | hpos
  · obtain ⟨n, hn⟩ := Nat.exists_eq_succ_of_ne_zero hpos.ne'
    exact progress_of_step inv (b := .postWrite) (by simp [WebsocketSession.step, hlive, hn])
      trivial rfl (.inl rfl)
  · obtain ⟨n, hn⟩ := Nat.exists_eq_succ_of_ne_zero hpos.ne'
    exact progress_of_step inv (b := .doWrite)
      (isSome_step_of_start hlive hidle (by simp [WebsocketSession.start, hn])) trivial rfl (.inl rfl)
  · obtain ⟨message, rest, hmessage⟩ := List.exists_cons_of_ne_nil hwrites
    exact progress_of_step inv (b := .onWrite none)
      (isSome_step_of_start hlive hidle (by simp [WebsocketSession.start, hmessage])) trivial rfl
      (.inl rfl)
  · obtain ⟨n, hn⟩ := Nat.exists_eq_succ_of_ne_zero hpos.ne'
    refine progress_of_step inv (b := .dispatchClose) ?_ trivial rfl (.inl rfl)
    rw [WebsocketSession.step, if_neg (by simp [hlive])]
    simp only [hn]
    split <;> rfl
  · obtain ⟨n, hn⟩ := Nat.exists_eq_succ_of_ne_zero hpos.ne'
    exact progress_of_step inv (b := .closeLambda)
      (isSome_step_of_start hlive hidle (by simp [WebsocketSession.start, hn])) trivial rfl (.inl rfl)

/-- The handler of a wait that has ended is delivered. -/
private theorem progress_of_ended (inv : v.Closing lib) (hlive : v.session.destroyed = false)
    (hidle : v.session.strand = .idle)
    (hended : v.session.deadline.pending < v.session.deadline.outstanding) :
    ∃ as es w, ((closingSession lib).restrict Unaided).Run v as es w ∧ w.load < v.load := by
  obtain ⟨result, hresult⟩ :
      ∃ result, (v.session.deadline.deliver result).isSome = true := by
    unfold Timer.outstanding at hended
    by_cases helapsed : 0 < v.session.deadline.elapsed
    · exact ⟨.elapsed, by simp [Timer.deliver, helapsed]⟩
    · by_cases haborted : 0 < v.session.deadline.aborted
      · exact ⟨.aborted, by simp [Timer.deliver, haborted]⟩
      · exact ⟨.failed, by simp [Timer.deliver, show 0 < v.session.deadline.failed by omega]⟩
  exact progress_of_step inv (b := .onDeadline result [])
    (isSome_step_of_start hlive hidle (by simpa [WebsocketSession.start] using hresult)) trivial rfl
    (.inl rfl)

/-- The session when its clock has come to the expiry. -/
def WebsocketSession.late (s : WebsocketSession) : WebsocketSession :=
  { s with now := s.now + (s.deadline.expiry - s.now).toNat }

/-- The session when its pending waits have elapsed. -/
def WebsocketSession.rung (s : WebsocketSession) : WebsocketSession :=
  { s.late with deadline := { s.deadline with
      pending := 0, elapsed := s.deadline.elapsed + s.deadline.pending } }

variable (lib) in
/-- The pending waits elapse in time. -/
theorem rung_of_waiting (hlive : v.session.destroyed = false) :
    ∃ as, ((closingSession lib).restrict Unaided).Run v as []
      { v with session := v.session.rung } := by
  have hreached : v.session.deadline.expiry ≤ v.session.late.now := by
    have := Int.self_le_toNat (v.session.deadline.expiry - v.session.now)
    simp only [WebsocketSession.late]
    omega
  have helapse : v.session.late.deadline.elapse v.session.late.now =
      some v.session.rung.deadline := if_pos hreached
  have htick : (closingSession lib).step v
      (.own (.tick (v.session.deadline.expiry - v.session.now).toNat)) []
      { v with session := v.session.late } := by
    refine own_step (r := ⟨v.session.late, [], []⟩) ?_ (.inl rfl)
    rw [WebsocketSession.step, if_neg (by simp [hlive])]
    rfl
  have hring : (closingSession lib).step { v with session := v.session.late } (.own .elapse) []
      { v with session := v.session.rung } := by
    refine own_step (r := ⟨v.session.rung, [], []⟩) ?_ (.inl rfl)
    rw [WebsocketSession.step, if_neg (by simp [WebsocketSession.late, hlive])]
    simp only [helapse, Option.map_some]
    rfl
  have ticking : ((closingSession lib).restrict Unaided).Run v _ [] _ :=
    .single ⟨by trivial, htick⟩
  have ringing : ((closingSession lib).restrict Unaided).Run _ _ [] _ :=
    .single ⟨by trivial, hring⟩
  exact ⟨_, ticking.trans ringing⟩

/-- A wait that is outstanding ends in time, and its handler is delivered. -/
private theorem progress_of_waiting (inv : v.Closing lib) (hlive : v.session.destroyed = false)
    (hidle : v.session.strand = .idle) (hwaiting : 0 < v.session.deadline.outstanding) :
    ∃ as es w, ((closingSession lib).restrict Unaided).Run v as es w ∧ w.load < v.load := by
  by_cases hended : v.session.deadline.pending < v.session.deadline.outstanding
  · exact progress_of_ended inv hlive hidle hended
  · obtain ⟨as, ringing⟩ := rung_of_waiting lib hlive
    have inv' := (closingSession_drains lib).inv ringing.of_restrict inv
    obtain ⟨bs, es, w, run, hlt⟩ := progress_of_ended inv' hlive hidle (by
      simp only [WebsocketSession.rung, Timer.outstanding] at hended hwaiting ⊢
      omega)
    have hsame : v.session.rung.deadline.outstanding = v.session.deadline.outstanding := by
      simp only [WebsocketSession.rung, Timer.outstanding]
      omega
    have hload : ClosingSession.load { v with session := v.session.rung } = v.load := by
      unfold ClosingSession.load WebsocketSession.load
      rw [hsame]
      rfl
    exact ⟨_, _, w, ringing.trans run, hload ▸ hlt⟩

/-- The references to a closed session whose strand is idle are dropped, one after the other: the
close completes, and the calls of `stop_all` close the session and return. -/
private theorem progress_of_references (inv : v.Closing lib) (hlive : v.session.destroyed = false)
    (hidle : v.session.strand = .idle) (hclosed : v.session.state = .closed)
    (hfree : v.refers = false →
      ∃ as es w, ((closingSession lib).restrict Unaided).Run v as es w ∧ w.load < v.load) :
    ∃ as es w, ((closingSession lib).restrict Unaided).Run v as es w ∧ w.load < v.load := by
  cases hcloses : v.closes with
  | succ n =>
      have hstep : (closingSession lib).step v (.onClose none) [] { v with closes := n } := by
        change closingStep lib v (.onClose none) = _
        simp [closingStep, hcloses, hidle]
      exact ⟨_, _, _, .single ⟨by trivial, hstep⟩,
        (closingSession_drains lib).works inv hstep rfl⟩
  | zero =>
  cases hswept : v.swept with
  | succ n =>
      obtain ⟨r, hr⟩ : ∃ r, v.session.step lib .close = some r := by
        simp [WebsocketSession.step, hlive]
      have hstep : (closingSession lib).step v .stopClose (r.events.map .own)
          ({ v with swept := n, stopped := v.stopped + 1 }.after r.next r.events) := by
        change closingStep lib v .stopClose = _
        simp [closingStep, hswept, sessionStep, hr]
      exact ⟨_, _, _, .single ⟨by trivial, hstep⟩,
        (closingSession_drains lib).works inv hstep rfl⟩
  | zero =>
  cases hstopped : v.stopped with
  | succ n =>
      have hstep : (closingSession lib).step v .stopReturn [] { v with stopped := n } := by
        change closingStep lib v .stopReturn = _
        simp [closingStep, hstopped]
      exact ⟨_, _, _, .single ⟨by trivial, hstep⟩,
        (closingSession_drains lib).works inv hstep rfl⟩
  | zero =>
      refine hfree ?_
      have hentries : v.session.managerAlive = true → v.entries = [] :=
        fun halive => inv.1.entries_eq_nil halive hclosed hidle
      simpa [ClosingSession.refers, hcloses, hswept, hstopped] using hentries

/-- A closed session whose strand is idle is not stuck: what is outstanding completes, a pending
wait elapses in time, and when nothing is left the session is destroyed. -/
private theorem progress_of_closed (inv : v.Closing lib) (hlive : v.session.destroyed = false)
    (hidle : v.session.strand = .idle) (hclosed : v.session.state = .closed) :
    ∃ as es w, ((closingSession lib).restrict Unaided).Run v as es w ∧ w.load < v.load := by
  by_cases hworking : 0 < v.session.posters ∨ 0 < v.session.postedWrites ∨
      v.session.writes ≠ [] ∨ 0 < v.session.closers ∨ 0 < v.session.postedCloses
  · exact progress_of_working inv hlive hidle hworking
  simp only [not_or, not_lt, Nat.le_zero, not_not] at hworking
  obtain ⟨hposters, hposted, hwrites, hclosers, -⟩ := hworking
  by_cases hwaiting : v.session.deadline.outstanding = 0
  swap
  · exact progress_of_waiting inv hlive hidle (Nat.pos_of_ne_zero hwaiting)
  cases haccepts : v.session.accepts with
  | succ n =>
      exact progress_of_step inv (b := .onAccept (some .closed))
        (isSome_step_of_start hlive hidle (by simp [WebsocketSession.start, haccepts])) hclosed rfl
        (.inl rfl)
  | zero =>
      cases hreads : v.session.reads with
      | succ n =>
          exact progress_of_step inv (b := .onRead (.failed .closed))
            (isSome_step_of_start hlive hidle (by simp [WebsocketSession.start, hreads])) hclosed rfl
            (.inl rfl)
      | zero =>
          cases hphase : v.session.runPhase with
          | constructed =>
              exact progress_of_step inv (b := .armDeadline)
                (by simp [WebsocketSession.step, hlive, hphase]) trivial rfl (.inl rfl)
          | armed =>
              exact progress_of_step inv (b := .startAccept)
                (by simp [WebsocketSession.step, hlive, hphase]) trivial rfl (.inl rfl)
          | returned =>
              refine progress_of_references inv hlive hidle hclosed fun hfree => ?_
              refine progress_of_step inv (b := .destroy) ?_ trivial rfl (.inr hfree)
              simp [WebsocketSession.step, WebsocketSession.unreferenced, hlive, hidle, hphase,
                haccepts, hreads, hposters, hposted, hwrites, hclosers, hwaiting]

/-- A closing session is never stuck before it is destroyed. -/
theorem exists_progress (inv : v.Closing lib) (hlive : v.session.destroyed = false) :
    ∃ as es w, ((closingSession lib).restrict Unaided).Run v as es w ∧ w.load < v.load := by
  by_cases hidle : v.session.strand = .idle
  · obtain ⟨now, handshakeTimeout, as, fs, run, -⟩ := inv.1
    rcases closed_or_working run inv.2 hidle with hclosed | hworking
    · exact progress_of_closed inv hlive hidle hclosed
    · exact progress_of_working inv hlive hidle hworking
  · obtain ⟨b, fs, t, hown, hstep⟩ := @exists_strandStep lib _ hidle hlive
    obtain ⟨r, hr, -⟩ := step_eq_some hstep
    have henabled : (v.session.step lib b).isSome = true := Option.isSome_iff_exists.mpr ⟨r, hr⟩
    cases b with
    | resume | handleMessage | generated | emplaced | rearm =>
        exact progress_of_step inv henabled trivial rfl (.inl rfl)
    | _ => cases hown

/-- A closing session comes to be destroyed. -/
theorem exists_destroyed (inv : v.Closing lib) :
    ∃ as es w, ((closingSession lib).restrict Unaided).Run v as es w ∧
      w.session.destroyed = true :=
  (closingSession_drains lib).exists_done
    (fun _ inv (hlive : ¬ _ = true) => exists_progress inv (by simpa using hlive)) inv

end Draining

/-! ## Runs -/

section Runs

variable {lib : JsonLib} {now handshakeTimeout : ℤ} {v w : ClosingSession}
  {as : List ClosingAction} {es : List ClosingEvent}

theorem reached_of_run (run : (closingSession lib).Run (.construct now handshakeTimeout) as es v) :
    v.Reached lib :=
  run.preserves (ClosingSession.reached_construct now handshakeTimeout)
    fun _ _ _ _ reached h => reached.step h

/-- A session that is closing is released, by the registry and by the calls of `stop_all` as well.
However it is scheduled, it takes no more steps than its load allows, to which each call of `close`
by another thread adds 8 and each call of `stop_all` 10; it is never stuck before it is destroyed;
and without anything new from the client or from other threads it comes to be destroyed. -/
theorem closing_released
    (run : (closingSession lib).Run (.construct now handshakeTimeout) as es v)
    (hclosing : v.session.isClosing = true) :
    (∀ bs fs w, (closingSession lib).Run v bs fs w →
      bs.countP ClosingAction.works + w.load ≤
        v.load + 8 * bs.countP ClosingAction.isClose + 10 * bs.countP ClosingAction.isStopAll) ∧
      (v.session.destroyed = false → ∃ bs fs w,
        ((closingSession lib).restrict Unaided).Run v bs fs w ∧ w.load < v.load) ∧
      ∃ bs fs w, ((closingSession lib).restrict Unaided).Run v bs fs w ∧
        w.session.destroyed = true := by
  have inv : v.Closing lib := ⟨reached_of_run run, hclosing⟩
  refine ⟨fun bs fs w rest => ?_, exists_progress inv, exists_destroyed inv⟩
  have hle := (closingSession_drains lib).countP_le rest inv
  rw [Machine.sum_map_added] at hle
  omega

/-- A client that is authenticated, and whose session a call of `stop_all` closes. -/
def releasedRun : ClosingSession × List ClosingEvent :=
  (Machine.exec (closingStep (.knowing [handshakeEnvelope])) (.construct 0 (seconds 10))
    ((connectActions (text "sess_a")).map .own ++ [.stopAll, .stopClose])).get (by decide +kernel)

theorem closing_released_stopped :
    releasedRun.1.session.destroyed = false ∧
      ∃ bs fs w, ((closingSession (.knowing [handshakeEnvelope])).restrict Unaided).Run
        releasedRun.1 bs fs w ∧ w.session.destroyed = true := by
  have run : (closingSession (.knowing [handshakeEnvelope])).Run (.construct 0 (seconds 10))
      ((connectActions (text "sess_a")).map .own ++ [.stopAll, .stopClose]) releasedRun.2
      releasedRun.1 := Machine.run_get _
  exact ⟨by decide +kernel, (closing_released run (by decide +kernel)).2.2⟩

end Runs

end CppSim.Server
