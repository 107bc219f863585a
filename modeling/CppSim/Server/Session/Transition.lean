import CppSim.Server.Session.Step

/-!
# What a step of a session can do

`Transition` lists the branches of `step` by what they change, guards included and log
lines left out.  `transition_of_step` is proved once, by symbolic execution of each
function; every invariant of a session is then a case analysis of `Transition`.
-/

namespace CppSim.Server

open Protocol WebsocketSession

/-- The handler on the strand is at a call of `send`: what it sends, and where it goes
on when the message was queued and when it was not. -/
inductive Sends (lib : JsonLib) (s : WebsocketSession) : Source → Text → Next → Strand → Prop
  | error {errorCode message : Text} {after : After} {err : Text}
      (hstrand : s.strand = .sendError errorCode message after) :
      Sends lib s .error err (.close after) (.close after)
  | response {newSessionId response : Text} (hstrand : s.strand = .sendResponse newSessionId) :
      Sends lib s .handshakeResponse response (.authenticate newSessionId) (.close .readGuard)
  | reload {requestedAmount newStack : Int64} {response : Text}
      (hstrand : s.strand = .sendReload requestedAmount newStack)
      (hprint : serializeReloadResponse lib { granted := true, newStack } = .ok response) :
      Sends lib s (.reloadResponse requestedAmount newStack) response (.commit newStack)
        (.close .readGuard)

/-- The points from which `on_read` turns to an error without having changed a member
that the invariants of a session speak about. -/
def Strand.mayFail : Strand → Prop
  | .checkBurst _ | .generate _ | .insert _ _ | .sendResponse _ | .sendReload _ _ => True
  | _ => False

/-- The branches of `step`. -/
inductive Transition (lib : JsonLib) (s : WebsocketSession) :
    Action → List Event → WebsocketSession → Prop
  -- the environment
  | tick (duration : ℕ) :
      Transition lib s (.tick duration) [] { s with now := s.now + duration }
  | elapsed {deadline : Timer ℤ} (helapse : s.deadline.elapse s.now = some deadline) :
      Transition lib s .elapse [] { s with deadline }
  | timerFailed : Transition lib s .timerError [] { s with deadline := s.deadline.fail }
  | armed (hphase : s.runPhase = .constructed) :
      Transition lib s .armDeadline []
        { s with deadline := (s.deadline.expiresAt (s.now + s.handshakeTimeout)).asyncWait,
                 runPhase := .armed }
  | accepting (hphase : s.runPhase = .armed) :
      Transition lib s .startAccept []
        { s with accepts := s.accepts + 1, runPhase := .returned }
  | managerDropped : Transition lib s .dropManager [] { s with managerAlive := false }
  | destroyed {es : List Event} (hrest : s.unreferenced = true)
      (hes : es = if s.state = .closed then [] else s.unregisterEvents s.sessionId) :
      Transition lib s .destroy es { s with deadline := s.deadline.cancel, destroyed := true }
  -- completions of `async_accept` and `async_read`
  | acceptDropped {error : Option TransportError} {n : ℕ} (hidle : s.strand = .idle)
      (haccepts : s.accepts = n + 1) (hclosing : s.isClosing = true) :
      Transition lib s (.onAccept error) [] { s with accepts := n }
  | acceptFailed {error : TransportError} {n : ℕ} (hidle : s.strand = .idle)
      (haccepts : s.accepts = n + 1) (hopen : s.state ≠ .closed) :
      Transition lib s (.onAccept (some error)) []
        { s with accepts := n, deadline := s.deadline.cancel, state := .closed }
  | accepted {n : ℕ} (hidle : s.strand = .idle) (haccepts : s.accepts = n + 1)
      (hopen : s.isClosing = false) :
      Transition lib s (.onAccept none) [] { s with accepts := n, strand := .doRead }
  | readDropped {result : ReadResult} {n : ℕ} (hidle : s.strand = .idle)
      (hreads : s.reads = n + 1) (hclosed : s.state = .closed) :
      Transition lib s (.onRead result) [] { s with reads := n }
  | readFailed {error : TransportError} {n : ℕ} (hidle : s.strand = .idle)
      (hreads : s.reads = n + 1) (hopen : s.state ≠ .closed) :
      Transition lib s (.onRead (.failed error)) []
        { s with reads := n, state := .closed, deadline := s.deadline.cancel,
                 strand := if s.sessionId = [] then .idle else .unregister s.sessionId }
  | readLimited {message : Text} {window : ℤ} {maxMessages logged n : ℕ}
      {messageTimestamps : List ℤ} (hidle : s.strand = .idle) (hreads : s.reads = n + 1)
      (hopen : s.state ≠ .closed)
      (hlimit : checkRateLimit window maxMessages s.now s.messageTimestamps =
        (messageTimestamps, true)) :
      Transition lib s (.onRead (.message message window maxMessages logged)) []
        { s with reads := n, messageTimestamps,
                 strand := .sendError ErrorCode.sessionClosed (text "Rate limit exceeded") .leave }
  | readPassed {message : Text} {window : ℤ} {maxMessages logged n : ℕ}
      {messageTimestamps : List ℤ} (hidle : s.strand = .idle) (hreads : s.reads = n + 1)
      (hopen : s.state ≠ .closed)
      (hlimit : checkRateLimit window maxMessages s.now s.messageTimestamps =
        (messageTimestamps, false)) :
      Transition lib s (.onRead (.message message window maxMessages logged)) []
        { s with reads := n, messageTimestamps, strand := .checkBurst message }
  -- `on_read`: the message handlers
  | failing {a : Action} {activity : Activity} {errorCode message : Text} {after : After}
      (hstrand : s.strand.mayFail) (hfailed : ∀ count, a ≠ .emplaced (.success count)) :
      Transition lib s a []
        { s with activity, strand := .sendError errorCode message after }
  | actionAccepted {message : Text} {gap logged seq : Int64} {activity : Activity}
      (hstrand : s.strand = .checkBurst message)
      (hquiet : checkSuspiciousActivity s.now s.activity = (activity, false))
      (hverdict : (s.handle lib message gap logged).verdict = .acceptAction seq) :
      Transition lib s (.handleMessage gap logged) [.actionAccepted seq gap]
        { s with activity, lastSequenceNumber := seq, strand := .readGuard }
  | reloadAccepted {message : Text} {gap logged amount : Int64} {activity : Activity}
      (hstrand : s.strand = .checkBurst message)
      (hquiet : checkSuspiciousActivity s.now s.activity = (activity, false))
      (hverdict : (s.handle lib message gap logged).verdict = .acceptReload amount) :
      Transition lib s (.handleMessage gap logged) [.reloadAccepted amount]
        { s with activity, strand := .sendReload amount (min (s.currentStack + amount) maxAmount) }
  | disconnecting {message : Text} {gap logged : Int64} {activity : Activity}
      (hstrand : s.strand = .checkBurst message) :
      Transition lib s (.handleMessage gap logged) []
        { s with activity, strand := .close .readGuard }
  | registering {message : Text} {gap logged : Int64} {activity : Activity}
      (hstrand : s.strand = .checkBurst message)
      (hquiet : checkSuspiciousActivity s.now s.activity = (activity, false))
      (hverdict : (s.handle lib message gap logged).verdict = .register) :
      Transition lib s (.handleMessage gap logged) [] { s with activity, strand := .generate 0 }
  | generated {attempt : ℕ} {newSessionId : Text} (hstrand : s.strand = .generate attempt)
      (hne : newSessionId ≠ []) :
      Transition lib s (.generated newSessionId) []
        { s with strand := .insert attempt newSessionId }
  | collided {attempt : ℕ} {newSessionId : Text} (hstrand : s.strand = .insert attempt newSessionId) :
      Transition lib s (.emplaced .collision) [] { s with strand := .generate (attempt + 1) }
  | registered {attempt count : ℕ} {newSessionId : Text}
      (hstrand : s.strand = .insert attempt newSessionId) :
      Transition lib s (.emplaced (.success count)) [.registered newSessionId]
        { s with strand := .storeId newSessionId }
  | idStored {newSessionId : Text} (hstrand : s.strand = .storeId newSessionId) :
      Transition lib s .resume []
        { s with sessionId := newSessionId, strand := .sendResponse newSessionId }
  | authenticated {newSessionId : Text} (hstrand : s.strand = .authenticate newSessionId) :
      Transition lib s .resume [] { s with state := .authenticated, strand := .readGuard }
  | committed {newStack : Int64} (hstrand : s.strand = .commitReload newStack) :
      Transition lib s .resume [.stackCommitted newStack]
        { s with currentStack := newStack, strand := .readGuard }
  | guardStopped {timeout : ℤ} (hstrand : s.strand = .readGuard) (hclosing : s.isClosing = true) :
      Transition lib s (.rearm timeout) [] { s with strand := .idle }
  | rearmed {timeout : ℤ} (hstrand : s.strand = .readGuard) (hopen : s.isClosing = false) :
      Transition lib s (.rearm timeout) []
        { s with deadline := s.deadline.expiresAt (s.now + timeout), strand := .doRead }
  | readStopped (hstrand : s.strand = .doRead) (hclosing : s.isClosing = true) :
      Transition lib s .resume [] { s with strand := .idle }
  | reading (hstrand : s.strand = .doRead) (hopen : s.isClosing = false) :
      Transition lib s .resume [] { s with strand := .idle, reads := s.reads + 1 }
  -- `send` on the strand
  | queuedStart {source : Source} {message : Text} {next : Next} {failed : Strand}
      (hsends : Sends lib s source message next failed) (hopen : s.isClosing = false)
      (hroom : s.writeQueue.length < Config.maxWriteQueueSize) (hidle : s.writing = false) :
      Transition lib s .resume [.queued source message]
        { s with writeQueue := s.writeQueue ++ [message], writing := true, strand := .post next }
  | queuedJoin {source : Source} {message : Text} {next : Next} {failed : Strand}
      (hsends : Sends lib s source message next failed) (hopen : s.isClosing = false)
      (hroom : s.writeQueue.length < Config.maxWriteQueueSize) (hbusy : s.writing = true) :
      Transition lib s .resume [.queued source message]
        { s with writeQueue := s.writeQueue ++ [message], writing := true, strand := next.strand }
  | sendRefused {source : Source} {message : Text} {next : Next} {failed : Strand}
      (hsends : Sends lib s source message next failed)
      (hreason : s.isClosing = true ∨ Config.maxWriteQueueSize ≤ s.writeQueue.length) :
      Transition lib s .resume [.refused source message] { s with strand := failed }
  | errorUnprinted {errorCode message : Text} {after : After}
      (hstrand : s.strand = .sendError errorCode message after) :
      Transition lib s .resume [] { s with strand := .close after }
  | posted {next : Next} (hstrand : s.strand = .post next) :
      Transition lib s .resume []
        { s with strand := next.strand, postedWrites := s.postedWrites + 1 }
  -- `close` on the strand, its lambda, and `do_close`
  | closeClosed {after : After} (hstrand : s.strand = .close after) (hclosed : s.state = .closed) :
      Transition lib s .resume [] { s with closeRequested := true, strand := after.strand }
  | closeOpen {after : After} (hstrand : s.strand = .close after) (hopen : s.state ≠ .closed) :
      Transition lib s .resume [] { s with closeRequested := true, strand := .closeCheck after }
  | checkBusy {after : After} (hstrand : s.strand = .closeCheck after) (hbusy : s.writing = true) :
      Transition lib s .resume [] { s with strand := after.strand }
  | checkIdle {after : After} (hstrand : s.strand = .closeCheck after) (hidle : s.writing = false) :
      Transition lib s .resume [] { s with strand := .doClose after }
  | lambdaBusy {n : ℕ} (hidle : s.strand = .idle) (hposted : s.postedCloses = n + 1)
      (hbusy : s.writing = true) :
      Transition lib s .closeLambda [] { s with postedCloses := n, strand := .idle }
  | lambdaIdle {n : ℕ} (hidle : s.strand = .idle) (hposted : s.postedCloses = n + 1)
      (hwriting : s.writing = false) :
      Transition lib s .closeLambda [] { s with postedCloses := n, strand := .doClose .leave }
  | closeSkipped {after : After} (hstrand : s.strand = .doClose after)
      (hdone : s.closeInitiated = true ∨ s.state = .closed) :
      Transition lib s .resume [] { s with closeInitiated := true, strand := after.strand }
  | closeBegun {after : After} (hstrand : s.strand = .doClose after)
      (hfirst : s.closeInitiated = false) (hopen : s.state ≠ .closed) :
      Transition lib s .resume []
        { s with closeInitiated := true, state := .closed,
                 strand := .doCloseUnregister s.state after }
  | closeUnregistered {prevState : SessionState} {after : After}
      (hstrand : s.strand = .doCloseUnregister prevState after) :
      Transition lib s .resume (s.unregisterEvents s.sessionId)
        { s with deadline := s.deadline.cancel, strand := .doCloseShutdown prevState after }
  | shutdown {prevState : SessionState} {after : After} {e : Event}
      (hstrand : s.strand = .doCloseShutdown prevState after)
      (he : e = if prevState = .unauthenticated then .socketClosed else .asyncClosed) :
      Transition lib s .resume [e] { s with strand := after.strand }
  | unregistered {sid : Text} (hstrand : s.strand = .unregister sid) :
      Transition lib s .resume (s.unregisterEvents sid) { s with strand := .idle }
  -- writing
  | writeAbandoned {n : ℕ} (hidle : s.strand = .idle) (hposted : s.postedWrites = n + 1)
      (hstop : s.state = .closed ∨ s.writeQueue = []) :
      Transition lib s .doWrite [] { s with postedWrites := n, writing := false }
  | writeTaken {n : ℕ} {message : Text} {rest : List Text} (hidle : s.strand = .idle)
      (hposted : s.postedWrites = n + 1) (hopen : s.state ≠ .closed)
      (hqueue : s.writeQueue = message :: rest) :
      Transition lib s .doWrite []
        { s with postedWrites := n, writeQueue := rest, strand := .asyncWrite message }
  | handed {message : Text} (hstrand : s.strand = .asyncWrite message) :
      Transition lib s .resume [.handed message]
        { s with strand := .idle, writes := s.writes ++ [message] }
  | writeFailed {what message : Text} {rest : List Text} (hidle : s.strand = .idle)
      (hwrites : s.writes = message :: rest) :
      Transition lib s (.onWrite (some what)) [.writeFailed message]
        { s with writes := rest, writing := false, closeRequested := true, writeQueue := [],
                 strand := .doClose .leave }
  | writtenClosing {message : Text} {rest : List Text} (hidle : s.strand = .idle)
      (hwrites : s.writes = message :: rest) (hclose : s.closeRequested = true)
      (hqueue : s.writeQueue = []) :
      Transition lib s (.onWrite none) [.written message]
        { s with writes := rest, writing := false, strand := .doClose .leave }
  | writtenLast {message : Text} {rest : List Text} (hidle : s.strand = .idle)
      (hwrites : s.writes = message :: rest) (hkeep : s.closeRequested = false)
      (hqueue : s.writeQueue = []) :
      Transition lib s (.onWrite none) [.written message]
        { s with writes := rest, writing := false }
  | writtenMore {message : Text} {rest : List Text} (hidle : s.strand = .idle)
      (hwrites : s.writes = message :: rest) (hqueue : s.writeQueue ≠ []) :
      Transition lib s (.onWrite none) [.written message]
        { s with writes := rest, writing := true, strand := .post .leave }
  -- the deadline
  | deadlineStopped {result : TimerResult} {what : Text} {deadline : Timer ℤ}
      (hidle : s.strand = .idle) (hdeliver : s.deadline.deliver result = some deadline)
      (hclosing : s.isClosing = true) :
      Transition lib s (.onDeadline result what) [] { s with deadline }
  | deadlineRewaited {result : TimerResult} {what : Text} {deadline : Timer ℤ}
      (hidle : s.strand = .idle) (hdeliver : s.deadline.deliver result = some deadline)
      (hopen : s.isClosing = false) (hresult : result ≠ .elapsed) :
      Transition lib s (.onDeadline result what) [] { s with deadline := deadline.asyncWait }
  | timedOut {what message : Text} {deadline : Timer ℤ} (hidle : s.strand = .idle)
      (hdeliver : s.deadline.deliver .elapsed = some deadline) (hopen : s.state ≠ .closed) :
      Transition lib s (.onDeadline .elapsed what) [.timedOut message]
        { s with deadline, strand := .sendError ErrorCode.sessionClosed message .leave }
  -- other threads in `send` and `close`
  | callerStart {message : Text} (hopen : s.isClosing = false)
      (hroom : s.writeQueue.length < Config.maxWriteQueueSize) (hidle : s.writing = false) :
      Transition lib s (.send message) [.queued .caller message]
        { s with writeQueue := s.writeQueue ++ [message], writing := true,
                 posters := s.posters + 1 }
  | callerJoin {message : Text} (hopen : s.isClosing = false)
      (hroom : s.writeQueue.length < Config.maxWriteQueueSize) (hbusy : s.writing = true) :
      Transition lib s (.send message) [.queued .caller message]
        { s with writeQueue := s.writeQueue ++ [message], writing := true }
  | callerRefused {message : Text}
      (hreason : s.isClosing = true ∨ Config.maxWriteQueueSize ≤ s.writeQueue.length) :
      Transition lib s (.send message) [.refused .caller message] s
  | callerPosted {n : ℕ} (hposters : s.posters = n + 1) :
      Transition lib s .postWrite [] { s with posters := n, postedWrites := s.postedWrites + 1 }
  | closeCalled :
      Transition lib s .close [] { s with closeRequested := true, closers := s.closers + 1 }
  | closeForgotten {n : ℕ} (hclosers : s.closers = n + 1) (hclosed : s.state = .closed) :
      Transition lib s .dispatchClose [] { s with closers := n }
  | closeDispatched {n : ℕ} (hclosers : s.closers = n + 1) (hopen : s.state ≠ .closed) :
      Transition lib s .dispatchClose []
        { s with closers := n, postedCloses := s.postedCloses + 1 }

/-! ## What a step emits -/

section Events

variable {lib : JsonLib} {s t : WebsocketSession} {a : Action} {es : List Event} {e : Event}

theorem WebsocketSession.mem_unregisterEvents {sid : Text} (h : e ∈ s.unregisterEvents sid) :
    e = .unregister sid ∧ sid ≠ [] ∧ s.managerAlive = true := by
  unfold unregisterEvents at h
  split_ifs at h with hcalls
  · exact ⟨List.mem_singleton.mp h, hcalls⟩
  · cases h

theorem WebsocketSession.length_unregisterEvents (sid : Text) :
    (s.unregisterEvents sid).length ≤ 1 := by
  unfold unregisterEvents
  split <;> simp

theorem WebsocketSession.filterMap_unregisterEvents {β : Type} {f : Event → Option β}
    (hf : ∀ sid, f (.unregister sid) = none) (sid : Text) :
    (s.unregisterEvents sid).filterMap f = [] := by
  unfold unregisterEvents
  split <;> simp [hf]

/-- A step emits at most one event. -/
theorem Transition.length_events (h : Transition lib s a es t) : es.length ≤ 1 := by
  cases h with
  | destroyed _ hes =>
      rw [hes]
      split
      · exact Nat.zero_le _
      · exact WebsocketSession.length_unregisterEvents _
  | closeUnregistered | unregistered => exact WebsocketSession.length_unregisterEvents _
  | _ => simp

end Events

/-- What a step finds that emits an event.  The branches of a step that emit the same event
are one constructor. -/
inductive Emits (lib : JsonLib) (s : WebsocketSession) : Action → Event → Prop
  | queued {source : Source} {message : Text} {next : Next} {failed : Strand}
      (hsends : Sends lib s source message next failed) (hopen : s.isClosing = false)
      (hroom : s.writeQueue.length < Config.maxWriteQueueSize) :
      Emits lib s .resume (.queued source message)
  | refused {source : Source} {message : Text} {next : Next} {failed : Strand}
      (hsends : Sends lib s source message next failed)
      (hreason : s.isClosing = true ∨ Config.maxWriteQueueSize ≤ s.writeQueue.length) :
      Emits lib s .resume (.refused source message)
  | callerQueued {message : Text} (hopen : s.isClosing = false)
      (hroom : s.writeQueue.length < Config.maxWriteQueueSize) :
      Emits lib s (.send message) (.queued .caller message)
  | callerRefused {message : Text}
      (hreason : s.isClosing = true ∨ Config.maxWriteQueueSize ≤ s.writeQueue.length) :
      Emits lib s (.send message) (.refused .caller message)
  | handed {message : Text} (hstrand : s.strand = .asyncWrite message) :
      Emits lib s .resume (.handed message)
  | written {message : Text} {rest : List Text} (hwrites : s.writes = message :: rest) :
      Emits lib s (.onWrite none) (.written message)
  | writeFailed {what message : Text} {rest : List Text} (hwrites : s.writes = message :: rest) :
      Emits lib s (.onWrite (some what)) (.writeFailed message)
  | actionAccepted {message : Text} {gap logged seq : Int64}
      (hstrand : s.strand = .checkBurst message)
      (hverdict : (s.handle lib message gap logged).verdict = .acceptAction seq) :
      Emits lib s (.handleMessage gap logged) (.actionAccepted seq gap)
  | reloadAccepted {message : Text} {gap logged amount : Int64}
      (hstrand : s.strand = .checkBurst message)
      (hverdict : (s.handle lib message gap logged).verdict = .acceptReload amount) :
      Emits lib s (.handleMessage gap logged) (.reloadAccepted amount)
  | stackCommitted {newStack : Int64} (hstrand : s.strand = .commitReload newStack) :
      Emits lib s .resume (.stackCommitted newStack)
  | registered {attempt count : ℕ} {sid : Text} (hstrand : s.strand = .insert attempt sid) :
      Emits lib s (.emplaced (.success count)) (.registered sid)
  | unregister {a : Action} {sid : Text} (hsid : sid ≠ []) (halive : s.managerAlive = true) :
      Emits lib s a (.unregister sid)
  | timedOut {what message : Text} (hopen : s.state ≠ .closed) :
      Emits lib s (.onDeadline .elapsed what) (.timedOut message)
  | socketClosed : Emits lib s .resume .socketClosed
  | asyncClosed : Emits lib s .resume .asyncClosed

section Emits

variable {lib : JsonLib} {s t : WebsocketSession} {a : Action} {es : List Event} {e : Event}

theorem emits_of_mem_unregisterEvents {sid : Text} (h : e ∈ s.unregisterEvents sid) :
    Emits lib s a e := by
  obtain ⟨rfl, hsid, halive⟩ := WebsocketSession.mem_unregisterEvents h
  exact .unregister hsid halive

theorem Transition.emits (h : Transition lib s a es t) (hmem : e ∈ es) : Emits lib s a e := by
  cases h with
  | destroyed _ hes =>
      rw [hes] at hmem
      split at hmem
      · cases hmem
      · exact emits_of_mem_unregisterEvents hmem
  | closeUnregistered | unregistered => exact emits_of_mem_unregisterEvents hmem
  | shutdown _ he =>
      rw [List.mem_singleton.mp hmem, he]
      split
      · exact .socketClosed
      · exact .asyncClosed
  | queuedStart hsends hopen hroom | queuedJoin hsends hopen hroom =>
      cases List.mem_singleton.mp hmem
      exact .queued hsends hopen hroom
  | sendRefused hsends hreason =>
      cases List.mem_singleton.mp hmem
      exact .refused hsends hreason
  | callerStart hopen hroom | callerJoin hopen hroom =>
      cases List.mem_singleton.mp hmem
      exact .callerQueued hopen hroom
  | callerRefused hreason =>
      cases List.mem_singleton.mp hmem
      exact .callerRefused hreason
  | handed hstrand =>
      cases List.mem_singleton.mp hmem
      exact .handed hstrand
  | writtenClosing _ hwrites | writtenLast _ hwrites | writtenMore _ hwrites =>
      cases List.mem_singleton.mp hmem
      exact .written hwrites
  | writeFailed _ hwrites =>
      cases List.mem_singleton.mp hmem
      exact .writeFailed hwrites
  | actionAccepted hstrand _ hverdict =>
      cases List.mem_singleton.mp hmem
      exact .actionAccepted hstrand hverdict
  | reloadAccepted hstrand _ hverdict =>
      cases List.mem_singleton.mp hmem
      exact .reloadAccepted hstrand hverdict
  | committed hstrand =>
      cases List.mem_singleton.mp hmem
      exact .stackCommitted hstrand
  | registered hstrand =>
      cases List.mem_singleton.mp hmem
      exact .registered hstrand
  | timedOut _ _ hopen =>
      cases List.mem_singleton.mp hmem
      exact .timedOut hopen
  | _ => cases hmem

end Emits

/-! ## Every step is a transition -/

section Soundness

variable {lib : JsonLib} {s : WebsocketSession} {a : Action}

/-- A reaction is one of the branches. -/
def Reaction.Sound (lib : JsonLib) (s : WebsocketSession) (a : Action) (r : Reaction) : Prop :=
  Transition lib s a r.events r.next

theorem WebsocketSession.sound_sendOnStrand {source : Source} {message : Text} {next : Next}
    {failed : Strand} (hsends : Sends lib s source message next failed) (failure : List LogLine) :
    (s.sendOnStrand source message next failed failure).Sound lib s .resume := by
  unfold sendOnStrand queueMessage
  by_cases hclosing : s.isClosing = true
  · rw [if_pos hclosing]
    exact .sendRefused hsends (.inl hclosing)
  · rw [if_neg hclosing]
    by_cases hfull : s.writeQueue.length ≥ Config.maxWriteQueueSize
    · rw [if_pos hfull]
      exact .sendRefused hsends (.inr hfull)
    · rw [if_neg hfull]
      have hopen : s.isClosing = false := by simpa using hclosing
      cases hwriting : s.writing with
      | false => exact .queuedStart hsends hopen (by omega) hwriting
      | true => exact .queuedJoin hsends hopen (by omega) hwriting

theorem WebsocketSession.sound_sendFromCaller (message : Text) :
    (s.sendFromCaller message).Sound lib s (.send message) := by
  unfold sendFromCaller queueMessage
  by_cases hclosing : s.isClosing = true
  · rw [if_pos hclosing]
    exact .callerRefused (.inl hclosing)
  · rw [if_neg hclosing]
    by_cases hfull : s.writeQueue.length ≥ Config.maxWriteQueueSize
    · rw [if_pos hfull]
      exact .callerRefused (.inr hfull)
    · rw [if_neg hfull]
      have hopen : s.isClosing = false := by simpa using hclosing
      cases hwriting : s.writing with
      | false => exact .callerStart hopen (by omega) hwriting
      | true => exact .callerJoin hopen (by omega) hwriting

/-! ### Handlers that start on an idle strand -/

theorem WebsocketSession.isClosing_of_closed (hclosed : s.state = .closed) :
    s.isClosing = true := by
  simp [isClosing, hclosed]

theorem WebsocketSession.isClosing_of_closeRequested (hclose : s.closeRequested = true) :
    s.isClosing = true := by
  simp [isClosing, hclose]

theorem WebsocketSession.isClosing_eq_false :
    s.isClosing = false ↔ s.state ≠ .closed ∧ s.closeRequested = false := by
  simp [isClosing]

theorem WebsocketSession.sound_onAccept {n : ℕ} (hidle : s.strand = .idle)
    (haccepts : s.accepts = n + 1) (error : Option TransportError) :
    ({ s with accepts := n }.onAccept error).Sound lib s (.onAccept error) := by
  unfold onAccept
  split
  · split
    · rename_i hclosed
      exact .acceptDropped hidle haccepts (isClosing_of_closed hclosed)
    · rename_i hopen
      exact .acceptFailed hidle haccepts hopen
  · split
    · rename_i hclosing
      exact .acceptDropped hidle haccepts hclosing
    · rename_i hopen
      exact .accepted hidle haccepts (Bool.not_eq_true _ ▸ hopen)

theorem WebsocketSession.sound_onRead {n : ℕ} (hidle : s.strand = .idle)
    (hreads : s.reads = n + 1) (result : ReadResult) :
    ({ s with reads := n }.onRead result).Sound lib s (.onRead result) := by
  unfold onRead
  split
  · rename_i hclosed
    exact .readDropped hidle hreads hclosed
  · rename_i hopen
    cases result with
    | failed error => exact .readFailed hidle hreads hopen
    | message message window maxMessages logged =>
        rcases hlimit : checkRateLimit window maxMessages s.now s.messageTimestamps with
          ⟨messageTimestamps, limited⟩
        simp only [hlimit]
        cases limited with
        | true => exact .readLimited hidle hreads hopen hlimit
        | false => exact .readPassed hidle hreads hopen hlimit

theorem WebsocketSession.sound_onWrite {message : Text} {rest : List Text}
    (hidle : s.strand = .idle) (hwrites : s.writes = message :: rest) (error : Option Text) :
    ({ s with writes := rest }.onWrite message error).Sound lib s (.onWrite error) := by
  cases error with
  | some what => exact .writeFailed hidle hwrites
  | none =>
      unfold onWrite
      dsimp only
      split
      · rename_i hdone
        rw [Bool.and_eq_true, List.isEmpty_iff] at hdone
        exact .writtenClosing hidle hwrites hdone.1 hdone.2
      · rename_i hmore
        split
        · rename_i hqueue
          rw [hqueue, Bool.and_true, Bool.not_eq_true] at hmore
          exact .writtenLast hidle hwrites hmore (List.isEmpty_iff.mp hqueue)
        · rename_i hqueue
          exact .writtenMore hidle hwrites (by simpa using hqueue)

theorem WebsocketSession.transition_doWrite {n : ℕ} (hidle : s.strand = .idle)
    (hposted : s.postedWrites = n + 1) :
    Transition lib s .doWrite [] { s with postedWrites := n }.doWrite := by
  unfold WebsocketSession.doWrite
  split
  · rename_i hclosed
    exact .writeAbandoned hidle hposted (.inl hclosed)
  · rename_i hopen
    split
    · rename_i hqueue
      exact .writeAbandoned hidle hposted (.inr hqueue)
    · rename_i hqueue
      exact .writeTaken hidle hposted hopen hqueue

theorem WebsocketSession.transition_closeLambda {n : ℕ} (hidle : s.strand = .idle)
    (hposted : s.postedCloses = n + 1) :
    Transition lib s .closeLambda [] ({ s with postedCloses := n }.closeCheck .leave) := by
  unfold WebsocketSession.closeCheck
  split
  · rename_i hwriting
    exact .lambdaBusy hidle hposted hwriting
  · rename_i hwriting
    exact .lambdaIdle hidle hposted (Bool.not_eq_true _ ▸ hwriting)

theorem WebsocketSession.sound_checkDeadline {deadline : Timer ℤ} {result : TimerResult}
    (hidle : s.strand = .idle) (hdeliver : s.deadline.deliver result = some deadline)
    (what : Text) :
    ({ s with deadline }.checkDeadline what result).Sound lib s (.onDeadline result what) := by
  cases result with
  | aborted =>
      unfold checkDeadline
      dsimp only
      split
      · rename_i hclosing
        exact .deadlineStopped hidle hdeliver hclosing
      · rename_i hopen
        exact .deadlineRewaited hidle hdeliver (Bool.not_eq_true _ ▸ hopen) (by decide)
  | failed =>
      unfold checkDeadline
      dsimp only
      split
      · rename_i hclosed
        exact .deadlineStopped hidle hdeliver (isClosing_of_closed hclosed)
      · rename_i hopen
        split
        · rename_i hclose
          exact .deadlineStopped hidle hdeliver (isClosing_of_closeRequested hclose)
        · rename_i hkeep
          exact .deadlineRewaited hidle hdeliver
            (isClosing_eq_false.mpr ⟨hopen, Bool.not_eq_true _ ▸ hkeep⟩) (by decide)
  | elapsed =>
      unfold checkDeadline
      dsimp only
      split
      · rename_i hclosed
        exact .deadlineStopped hidle hdeliver (isClosing_of_closed hclosed)
      · rename_i hstate
        exact .timedOut hidle hdeliver (by simp [hstate])
      · rename_i hstate
        exact .timedOut hidle hdeliver (by simp [hstate])

/-- A completion or a queued handler takes one of the branches. -/
theorem WebsocketSession.sound_start {r : Reaction} (hidle : s.strand = .idle)
    (h : s.start a = some r) : r.Sound lib s a := by
  unfold start at h
  split at h
  · split at h
    · cases h
    · rename_i haccepts
      exact Option.some.inj h ▸ sound_onAccept hidle haccepts _
  · split at h
    · cases h
    · rename_i hreads
      exact Option.some.inj h ▸ sound_onRead hidle hreads _
  · split at h
    · cases h
    · rename_i hwrites
      exact Option.some.inj h ▸ sound_onWrite hidle hwrites _
  · split at h
    · cases h
    · rename_i hposted
      exact Option.some.inj h ▸ transition_doWrite hidle hposted
  · split at h
    · cases h
    · rename_i hposted
      exact Option.some.inj h ▸ transition_closeLambda hidle hposted
  · obtain ⟨deadline, hdeliver, rfl⟩ := Option.map_eq_some_iff.mp h
    exact sound_checkDeadline hidle hdeliver _
  · cases h

/-! ### The handler on the strand -/

theorem WebsocketSession.sound_sendProtocolError {errorCode message : Text} {after : After}
    (hstrand : s.strand = .sendError errorCode message after) :
    (s.sendProtocolError lib errorCode message after).Sound lib s .resume := by
  unfold sendProtocolError
  dsimp only
  split
  · exact .errorUnprinted hstrand
  · exact sound_sendOnStrand (.error hstrand) _

theorem WebsocketSession.transition_close {after : After} (hstrand : s.strand = .close after) :
    Transition lib s .resume [] (s.close after) := by
  unfold WebsocketSession.close
  split
  · rename_i hclosed
    exact .closeClosed hstrand hclosed
  · rename_i hopen
    exact .closeOpen hstrand hopen

theorem WebsocketSession.transition_closeCheck {after : After}
    (hstrand : s.strand = .closeCheck after) :
    Transition lib s .resume [] (s.closeCheck after) := by
  unfold WebsocketSession.closeCheck
  split
  · rename_i hwriting
    exact .checkBusy hstrand hwriting
  · rename_i hwriting
    exact .checkIdle hstrand (Bool.not_eq_true _ ▸ hwriting)

theorem WebsocketSession.transition_doClose {after : After} (hstrand : s.strand = .doClose after) :
    Transition lib s .resume [] (s.doClose after) := by
  unfold WebsocketSession.doClose
  split
  · rename_i hinitiated
    have hskip : Transition lib s .resume [] { s with closeInitiated := true, strand := after.strand } :=
      .closeSkipped hstrand (.inl hinitiated)
    rw [← hinitiated] at hskip
    exact hskip
  · rename_i hfirst
    split
    · rename_i hclosed
      exact .closeSkipped hstrand (.inr hclosed)
    · rename_i hopen
      exact .closeBegun hstrand (Bool.not_eq_true _ ▸ hfirst) hopen

theorem WebsocketSession.transition_doRead (hstrand : s.strand = .doRead) :
    Transition lib s .resume [] s.doRead := by
  unfold WebsocketSession.doRead
  split
  · rename_i hclosing
    exact .readStopped hstrand hclosing
  · rename_i hopen
    exact .reading hstrand (Bool.not_eq_true _ ▸ hopen)

theorem WebsocketSession.sound_sendResponse {newSessionId : Text}
    (hstrand : s.strand = .sendResponse newSessionId) :
    (s.sendResponse lib newSessionId).Sound lib s .resume := by
  unfold WebsocketSession.sendResponse
  dsimp only
  split
  · exact .failing (by simp [hstrand, Strand.mayFail]) nofun
  · exact sound_sendOnStrand (.response hstrand) _

theorem WebsocketSession.sound_sendReload {requestedAmount newStack : Int64}
    (hstrand : s.strand = .sendReload requestedAmount newStack) :
    (s.sendReload lib requestedAmount newStack).Sound lib s .resume := by
  unfold WebsocketSession.sendReload
  split
  · exact .failing (by simp [hstrand, Strand.mayFail]) nofun
  · rename_i hprint
    exact sound_sendOnStrand (.reload hstrand hprint) _

/-- The handler on the strand goes on with one of the branches. -/
theorem WebsocketSession.sound_resume {r : Reaction} (h : s.resume lib = some r) :
    r.Sound lib s .resume := by
  unfold WebsocketSession.resume at h
  split at h <;> first | (obtain rfl := Option.some.inj h) | cases h
  · exact sound_sendProtocolError ‹_›
  · exact .posted ‹_›
  · exact transition_close ‹_›
  · exact transition_closeCheck ‹_›
  · exact transition_doClose ‹_›
  · exact .closeUnregistered ‹_›
  · exact .shutdown ‹_› rfl
  · exact .unregistered ‹_›
  · exact .idStored ‹_›
  · exact sound_sendResponse ‹_›
  · exact .authenticated ‹_›
  · exact sound_sendReload ‹_›
  · exact .committed ‹_›
  · exact .handed ‹_›
  · exact transition_doRead ‹_›

theorem WebsocketSession.sound_handleMessage {message : Text}
    (hstrand : s.strand = .checkBurst message) (gap logged : Int64) :
    (s.handleMessage lib message gap logged).Sound lib s (.handleMessage gap logged) := by
  unfold WebsocketSession.handleMessage
  split
  · exact .failing (by simp [hstrand, Strand.mayFail]) nofun
  · rename_i hquiet
    dsimp only
    split
    · exact .failing (by simp [hstrand, Strand.mayFail]) nofun
    · rename_i hverdict
      exact .actionAccepted hstrand hquiet hverdict
    · rename_i hverdict
      exact .reloadAccepted hstrand hquiet hverdict
    · exact .disconnecting hstrand
    · rename_i hverdict
      exact .registering hstrand hquiet hverdict

theorem WebsocketSession.sound_generated {attempt : ℕ} (hstrand : s.strand = .generate attempt)
    (newSessionId : Text) :
    (s.generated attempt newSessionId).Sound lib s (.generated newSessionId) := by
  unfold WebsocketSession.generated
  split
  · exact .failing (by simp [hstrand, Strand.mayFail]) nofun
  · rename_i hne
    split
    · exact .failing (by simp [hstrand, Strand.mayFail]) nofun
    · exact .generated hstrand hne

theorem WebsocketSession.sound_emplaced {attempt : ℕ} {newSessionId : Text}
    (hstrand : s.strand = .insert attempt newSessionId) (result : EmplaceResult) :
    (s.emplaced attempt newSessionId result).Sound lib s (.emplaced result) := by
  cases result with
  | success count => exact .registered hstrand
  | maxConnections => exact .failing (by simp [hstrand, Strand.mayFail]) nofun
  | collision =>
      unfold WebsocketSession.emplaced
      dsimp only
      split
      · exact .collided hstrand
      · exact .failing (by simp [hstrand, Strand.mayFail]) nofun

theorem WebsocketSession.transition_rearm (hstrand : s.strand = .readGuard) (timeout : ℤ) :
    Transition lib s (.rearm timeout) [] (s.rearm timeout) := by
  unfold WebsocketSession.rearm
  split
  · rename_i hclosing
    exact .guardStopped hstrand hclosing
  · rename_i hopen
    exact .rearmed hstrand (Bool.not_eq_true _ ▸ hopen)

/-! ### All of them -/

theorem WebsocketSession.sound_step {r : Reaction} (h : s.step lib a = some r) :
    s.destroyed = false ∧ r.Sound lib s a := by
  unfold WebsocketSession.step at h
  split at h
  · cases h
  · rename_i hlive
    refine ⟨Bool.not_eq_true _ ▸ hlive, ?_⟩
    split at h
    · exact Option.some.inj h ▸ .tick _
    · obtain ⟨deadline, helapse, rfl⟩ := Option.map_eq_some_iff.mp h
      exact .elapsed helapse
    · exact Option.some.inj h ▸ .timerFailed
    · split at h
      · exact Option.some.inj h ▸ .armed ‹_›
      · cases h
    · split at h
      · exact Option.some.inj h ▸ .accepting ‹_›
      · cases h
    · exact sound_resume h
    · split at h
      · exact Option.some.inj h ▸ sound_handleMessage ‹_› _ _
      · cases h
    · split at h
      · exact Option.some.inj h ▸ sound_generated ‹_› _
      · cases h
    · split at h
      · exact Option.some.inj h ▸ sound_emplaced ‹_› _
      · cases h
    · split at h
      · exact Option.some.inj h ▸ transition_rearm ‹_› _
      · cases h
    · exact Option.some.inj h ▸ sound_sendFromCaller _
    · split at h
      · cases h
      · exact Option.some.inj h ▸ .callerPosted ‹_›
    · exact Option.some.inj h ▸ .closeCalled
    · split at h
      · cases h
      · split at h
        · exact Option.some.inj h ▸ .closeForgotten ‹_› ‹_›
        · exact Option.some.inj h ▸ .closeDispatched ‹_› ‹_›
    · exact Option.some.inj h ▸ .managerDropped
    · split at h
      · exact Option.some.inj h ▸ .destroyed ‹_› rfl
      · cases h
    all_goals
      split at h
      · exact sound_start ‹_› h
      · cases h

/-- Every step of a session is one of the branches, and no step is taken after the
destructor. -/
theorem transition_of_step {es : List Event} {t : WebsocketSession}
    (h : (session lib).step s a es t) : s.destroyed = false ∧ Transition lib s a es t := by
  obtain ⟨r, hr, hnext⟩ := Option.map_eq_some_iff.mp h
  obtain ⟨rfl, rfl⟩ := Prod.mk.inj hnext
  exact sound_step hr

end Soundness

end CppSim.Server
