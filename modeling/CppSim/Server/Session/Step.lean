import CppSim.Library.Machine
import CppSim.Server.Session.Handlers

/-!
# The steps of a session

Each function of `websocket_session` is a function from the state at one of its steps
to a `Reaction`; `step` schedules them.  A completion or a queued handler starts on an
idle strand; `resume` and the actions that read something continue the handler that
runs; `send` and `close` are also called by other threads, one critical section or one
atomic store at a time.
-/

namespace CppSim.Server

open Protocol

namespace WebsocketSession

/-! ## The write queue -/

/-- The critical section of `queue_message`. -/
inductive QueueResult
  | refused
  | full
  | queued (s : WebsocketSession) (shouldPost : Bool)

/-- `queue_message`. -/
def queueMessage (s : WebsocketSession) (message : Text) : QueueResult :=
  if s.isClosing then .refused
  else if s.writeQueue.length ≥ Config.maxWriteQueueSize then .full
  else .queued { s with writeQueue := s.writeQueue ++ [message], writing := true } (!s.writing)

/-- The line `queue_message` logs when it drops a message. -/
def queueFullLine (s : WebsocketSession) : LogLine :=
  .error (text "[WebSocketSession] Write queue full for session " ++ sanitizeSessionId s.sessionId ++
    text ", dropping message")

/-- `send` on the strand: go on with `next`, or log `failure` and go on with `failed`. -/
def sendOnStrand (s : WebsocketSession) (source : Source) (message : Text) (next : Next)
    (failed : Strand) (failure : List LogLine) : Reaction :=
  match s.queueMessage message with
  | .refused => ⟨{ s with strand := failed }, [.refused source message], failure⟩
  | .full => ⟨{ s with strand := failed }, [.refused source message], s.queueFullLine :: failure⟩
  | .queued s' true => ⟨{ s' with strand := .post next }, [.queued source message], []⟩
  | .queued s' false => ⟨{ s' with strand := next.strand }, [.queued source message], []⟩

/-- The critical section of a `send` of another thread. -/
def sendFromCaller (s : WebsocketSession) (message : Text) : Reaction :=
  match s.queueMessage message with
  | .refused => ⟨s, [.refused .caller message], []⟩
  | .full => ⟨s, [.refused .caller message], [s.queueFullLine]⟩
  | .queued s' true => ⟨{ s' with posters := s'.posters + 1 }, [.queued .caller message], []⟩
  | .queued s' false => ⟨s', [.queued .caller message], []⟩

/-- `do_write`, up to `async_write`. -/
def doWrite (s : WebsocketSession) : WebsocketSession :=
  if s.state = .closed then { s with writing := false }
  else
    match s.writeQueue with
    | [] => { s with writing := false }
    | message :: rest => { s with writeQueue := rest, strand := .asyncWrite message }

/-- `on_write`. -/
def onWrite (s : WebsocketSession) (message : Text) : Option Text → Reaction
  | some what =>
      let dropped := s.writeQueue.length
      ⟨{ s with writing := false, closeRequested := true, writeQueue := [],
                strand := .doClose .leave },
        [.writeFailed message],
        .error (text "[WebSocketSession] Write error for " ++ sanitizeSessionId s.sessionId ++
          text ": " ++ what) ::
        (if dropped > 0 then
          [.error (text "[WebSocketSession] Dropped " ++ toText dropped ++
            text " queued message(s) on write error")]
        else [])⟩
  | none =>
      if s.closeRequested && s.writeQueue.isEmpty then
        ⟨{ s with writing := false, strand := .doClose .leave }, [.written message], []⟩
      else if s.writeQueue.isEmpty then ⟨{ s with writing := false }, [.written message], []⟩
      else ⟨{ s with writing := true, strand := .post .leave }, [.written message], []⟩

/-! ## Closing -/

/-- `send_protocol_error`. -/
def sendProtocolError (lib : JsonLib) (s : WebsocketSession) (errorCode message : Text)
    (after : After) : Reaction :=
  let sessionId := if s.sessionId = [] then none else some s.sessionId
  match serializeError lib { errorCode, message, sessionId } with
  -- a text that is not UTF-8 is not printed, and the exception is swallowed
  | .error _ => ⟨{ s with strand := .close after }, [], []⟩
  | .ok err =>
      s.sendOnStrand .error err (.close after) (.close after)
        [.error (text "[WebSocketSession] Failed to send protocol error for session " ++
          sanitizeSessionId s.sessionId)]

/-- `close` on the strand, where the lambda is dispatched at once. -/
def close (s : WebsocketSession) (after : After) : WebsocketSession :=
  if s.state = .closed then { s with closeRequested := true, strand := after.strand }
  else { s with closeRequested := true, strand := .closeCheck after }

/-- The lambda of `close`. -/
def closeCheck (s : WebsocketSession) (after : After) : WebsocketSession :=
  if s.writing then { s with strand := after.strand } else { s with strand := .doClose after }

/-- The two guards of `do_close`. -/
def doClose (s : WebsocketSession) (after : After) : WebsocketSession :=
  if s.closeInitiated then { s with strand := after.strand }
  else if s.state = .closed then { s with closeInitiated := true, strand := after.strand }
  else { s with closeInitiated := true, state := .closed,
                strand := .doCloseUnregister s.state after }

/-- The calls of `unregister_session`: none for an empty id, none without a manager. -/
def unregisterEvents (s : WebsocketSession) (sid : Text) : List Event :=
  if sid ≠ [] ∧ s.managerAlive then [.unregister sid] else []

/-- `do_close`: cancel the deadline and unregister. -/
def doCloseUnregister (s : WebsocketSession) (prevState : SessionState) (after : After) : Reaction :=
  ⟨{ s with deadline := s.deadline.cancel, strand := .doCloseShutdown prevState after },
    s.unregisterEvents s.sessionId, []⟩

/-- `do_close`: close the socket, or the WebSocket once the session was authenticated. -/
def doCloseShutdown (s : WebsocketSession) (prevState : SessionState) (after : After) : Reaction :=
  ⟨{ s with strand := after.strand },
    [if prevState = .unauthenticated then .socketClosed else .asyncClosed], []⟩

/-! ## Accepting and reading -/

/-- `on_accept`. -/
def onAccept (s : WebsocketSession) : Option TransportError → Reaction
  | some error =>
      if s.state = .closed then ⟨s, [], []⟩
      else
        ⟨{ s with deadline := s.deadline.cancel, state := .closed }, [],
          match s.closeRequested, error with
          | true, _ | _, .closed => []
          | false, .other what => [.error (text "[WebSocketSession] Accept failed: " ++ what)]⟩
  | none =>
      if s.isClosing then ⟨s, [], []⟩
      else
        ⟨{ s with strand := .doRead }, [],
          [.message (text "[WebSocketSession] Connection accepted. Waiting for handshake...")]⟩

/-- `do_read`. -/
def doRead (s : WebsocketSession) : WebsocketSession :=
  if s.isClosing then { s with strand := .idle }
  else { s with strand := .idle, reads := s.reads + 1 }

/-- `on_read` with an error. -/
def onReadError (s : WebsocketSession) (error : TransportError) : Reaction :=
  ⟨{ s with state := .closed, deadline := s.deadline.cancel,
            strand := if s.sessionId = [] then .idle else .unregister s.sessionId },
    [],
    match error with
    | .closed =>
        if s.sessionId = [] then
          [.message (text "[WebSocketSession] Unauthenticated client disconnected")]
        else
          [.message (text "[WebSocketSession] Client disconnected: " ++
            sanitizeSessionId s.sessionId)]
    | .other what =>
        if s.sessionId = [] then
          [.error (text "[WebSocketSession] Read error (unauthenticated): " ++ what)]
        else
          [.error (text "[WebSocketSession] Read error for " ++ sanitizeSessionId s.sessionId ++
            text ": " ++ what)]⟩

/-- `on_read`, up to the burst detector. -/
def onRead (s : WebsocketSession) (result : ReadResult) : Reaction :=
  if s.state = .closed then ⟨s, [], []⟩
  else
    match result with
    | .failed error => s.onReadError error
    | .message message rateLimitWindow maxMessages maxMessagesLogged =>
        match checkRateLimit rateLimitWindow maxMessages s.now s.messageTimestamps with
        | (messageTimestamps, true) =>
            ⟨{ s with messageTimestamps, strand := .sendError ErrorCode.sessionClosed
                        (text "Rate limit exceeded") .leave },
              [],
              [.error (text "[WebSocketSession] Rate limit exceeded (max " ++
                toText maxMessagesLogged ++ text " messages per window) for session " ++
                if s.sessionId = [] then text "(unauthenticated)"
                else sanitizeSessionId s.sessionId)]⟩
        | (messageTimestamps, false) =>
            ⟨{ s with messageTimestamps, strand := .checkBurst message }, [], []⟩

/-- `on_read`: the burst detector, then the message handler up to its verdict. -/
def handleMessage (lib : JsonLib) (s : WebsocketSession) (message : Text)
    (maxSequenceGap maxSequenceGapLogged : Int64) : Reaction :=
  match checkSuspiciousActivity s.now s.activity with
  | (activity, true) =>
      ⟨{ s with activity, strand := .sendError ErrorCode.sessionClosed
                  (text "Suspicious activity detected") .leave },
        [],
        [.error (text "[WebSocketSession] Rapid message burst detected: " ++
            toText activity.messageCount.toInt ++ text " messages in < 1s"),
          .error (text "[WebSocketSession] Suspicious activity detected — closing session " ++
            sanitizeSessionId s.sessionId)]⟩
  | (activity, false) =>
      let handled := s.handle lib message maxSequenceGap maxSequenceGapLogged
      match handled.verdict with
      | .reject errorCode message =>
          ⟨{ s with activity, strand := .sendError errorCode message .readGuard }, [], handled.log⟩
      | .acceptAction seq =>
          ⟨{ s with activity, lastSequenceNumber := seq, strand := .readGuard },
            [.actionAccepted seq maxSequenceGap], handled.log⟩
      | .acceptReload requestedAmount =>
          ⟨{ s with activity, strand := .sendReload requestedAmount
                      (min (s.currentStack + requestedAmount) maxAmount) },
            [.reloadAccepted requestedAmount], handled.log⟩
      | .disconnect => ⟨{ s with activity, strand := .close .readGuard }, [], handled.log⟩
      | .register => ⟨{ s with activity, strand := .generate 0 }, [], handled.log⟩

/-- `on_read`: what its `catch` does with an exception of a handler. -/
def handlerThrew (s : WebsocketSession) (what : Text) : Reaction :=
  ⟨{ s with strand := .sendError ErrorCode.protocolError (text "Internal server error") .leave },
    [],
    [.error (text "[WebSocketSession] Unhandled exception in message handler: " ++ what)]⟩

/-- The guard at the end of `on_read`, with a reading of `ws_idle_timeout`. -/
def rearm (s : WebsocketSession) (wsIdleTimeout : ℤ) : WebsocketSession :=
  if s.isClosing then { s with strand := .idle }
  else { s with deadline := s.deadline.expiresAt (s.now + wsIdleTimeout), strand := .doRead }

/-! ## The handshake -/

/-- `MAX_SESSION_ID_RETRIES`. -/
def maxSessionIdRetries : ℕ := 3

/-- `handle_handshake_message` when `register_session` returned an empty id. -/
def registrationFailed (s : WebsocketSession) (lines : List LogLine) : Reaction :=
  ⟨{ s with strand := .sendError ErrorCode.protocolError
              (text "Failed to generate unique session ID") .readGuard },
    [],
    lines ++ [.error (text "[WebSocketSession] Failed to register session - ID collision")]⟩

/-- `register_session`: a new id. -/
def generated (s : WebsocketSession) (attempt : ℕ) (newSessionId : Text) : Reaction :=
  if newSessionId = [] then
    s.registrationFailed [.error (text "[ConnectionManager] Failed to generate session ID")]
  else if newSessionId.length > Config.maxSessionIdLength then
    s.registrationFailed
      [.error (text "[ConnectionManager] Generated session ID exceeds maximum length")]
  else ⟨{ s with strand := .insert attempt newSessionId }, [], []⟩

/-- `register_session`: the result of `try_emplace`. -/
def emplaced (s : WebsocketSession) (attempt : ℕ) (newSessionId : Text) :
    EmplaceResult → Reaction
  | .maxConnections =>
      s.registrationFailed [.error (text "[ConnectionManager] Maximum connections reached (" ++
        toText Config.maxConnections ++ text ")")]
  | .collision =>
      let line := LogLine.error (text "[ConnectionManager] Session ID collision (attempt " ++
        toText (attempt + 1) ++ text "), retrying: " ++ sanitizeSessionId newSessionId)
      if attempt + 1 < maxSessionIdRetries then
        ⟨{ s with strand := .generate (attempt + 1) }, [], [line]⟩
      else
        s.registrationFailed
          [line, .error (text "[ConnectionManager] Session ID collision after all retries")]
  | .success count =>
      ⟨{ s with strand := .storeId newSessionId }, [.registered newSessionId],
        [.message (text "[ConnectionManager] Registered session: " ++
          sanitizeSessionId newSessionId ++ text " (total: " ++ toText count ++ text ")")]⟩

/-- `handle_handshake_message`: the response. -/
def sendResponse (lib : JsonLib) (s : WebsocketSession) (newSessionId : Text) : Reaction :=
  let resp : HandshakeResponse :=
    { sessionId := newSessionId, seatNumber := Config.placeholderSeat,
      startingStack := Config.placeholderStack }
  match serializeHandshakeResponse lib resp with
  | .error what => s.handlerThrew what
  | .ok response =>
      s.sendOnStrand .handshakeResponse response (.authenticate newSessionId) (.close .readGuard)
        [.error (text "[WebSocketSession] Failed to send handshake response for session: " ++
          newSessionId)]

/-- `handle_handshake_message`: the session is authenticated. -/
def authenticate (s : WebsocketSession) (newSessionId : Text) : Reaction :=
  ⟨{ s with state := .authenticated, strand := .readGuard }, [],
    [.message (text "[WebSocketSession] Handshake successful for session: " ++
      sanitizeSessionId newSessionId)]⟩

/-- `handle_reload_msg`: the response. -/
def sendReload (lib : JsonLib) (s : WebsocketSession) (requestedAmount newStack : Int64) :
    Reaction :=
  match serializeReloadResponse lib { granted := true, newStack } with
  | .error what => s.handlerThrew what
  | .ok response =>
      s.sendOnStrand (.reloadResponse requestedAmount newStack) response (.commit newStack)
        (.close .readGuard)
        [.error (text "[WebSocketSession] Failed to send RELOAD_RESPONSE to " ++
          sanitizeSessionId s.sessionId)]

/-! ## The deadline -/

/-- The handler of `check_deadline`, whose completion is off the queue. -/
def checkDeadline (s : WebsocketSession) (what : Text) : TimerResult → Reaction
  | .aborted =>
      if s.isClosing then ⟨s, [], []⟩
      else ⟨{ s with deadline := s.deadline.asyncWait }, [], []⟩
  | .failed =>
      if s.state = .closed then ⟨s, [], []⟩
      else
        ⟨if s.closeRequested then s else { s with deadline := s.deadline.asyncWait }, [],
          [.error (text "[WebSocketSession] Timer error: " ++ what)]⟩
  | .elapsed =>
      match s.state with
      | .closed => ⟨s, [], []⟩
      | .unauthenticated =>
          ⟨{ s with strand := .sendError ErrorCode.sessionClosed (text "Handshake timeout") .leave },
            [.timedOut (text "Handshake timeout")],
            [.error (text "[WebSocketSession] Handshake timeout")]⟩
      | .authenticated =>
          ⟨{ s with strand := .sendError ErrorCode.sessionClosed (text "Idle timeout") .leave },
            [.timedOut (text "Idle timeout")],
            [.error (text "[WebSocketSession] Idle timeout for session " ++
              sanitizeSessionId s.sessionId)]⟩

/-! ## The destructor -/

/-- No operation, handler or thread of the session refers to it; posted closes hold a weak pointer.
The references that others hold, the registry's for one, are left to `World.allows` and
`ClosingSession.refers`: what holds of every run of a session does not depend on them. -/
def unreferenced (s : WebsocketSession) : Bool :=
  s.runPhase == .returned && s.strand == .idle && s.accepts == 0 && s.reads == 0 &&
    s.writes.isEmpty && s.postedWrites == 0 && s.posters == 0 && s.closers == 0 &&
    s.deadline.outstanding == 0

/-- `~websocket_session`. -/
def destroy (s : WebsocketSession) : Reaction :=
  ⟨{ s with deadline := s.deadline.cancel, destroyed := true },
    if s.state = .closed then [] else s.unregisterEvents s.sessionId, []⟩

/-! ## Scheduling -/

/-- The next step of the handler on the strand, where it reads nothing else. -/
def resume (lib : JsonLib) (s : WebsocketSession) : Option Reaction :=
  match s.strand with
  | .sendError errorCode message after => some (s.sendProtocolError lib errorCode message after)
  | .post next =>
      some ⟨{ s with strand := next.strand, postedWrites := s.postedWrites + 1 }, [], []⟩
  | .close after => some ⟨s.close after, [], []⟩
  | .closeCheck after => some ⟨s.closeCheck after, [], []⟩
  | .doClose after => some ⟨s.doClose after, [], []⟩
  | .doCloseUnregister prevState after => some (s.doCloseUnregister prevState after)
  | .doCloseShutdown prevState after => some (s.doCloseShutdown prevState after)
  | .unregister sid => some ⟨{ s with strand := .idle }, s.unregisterEvents sid, []⟩
  | .storeId newSessionId =>
      some ⟨{ s with sessionId := newSessionId, strand := .sendResponse newSessionId }, [], []⟩
  | .sendResponse newSessionId => some (s.sendResponse lib newSessionId)
  | .authenticate newSessionId => some (s.authenticate newSessionId)
  | .sendReload requestedAmount newStack => some (s.sendReload lib requestedAmount newStack)
  | .commitReload newStack =>
      some ⟨{ s with currentStack := newStack, strand := .readGuard },
        [.stackCommitted newStack], []⟩
  | .asyncWrite message =>
      some ⟨{ s with strand := .idle, writes := s.writes ++ [message] }, [.handed message], []⟩
  | .doRead => some ⟨s.doRead, [], []⟩
  | .idle | .checkBurst _ | .generate _ | .insert _ _ | .readGuard => none

/-- The completions and the queued handlers, on an idle strand. -/
def start (s : WebsocketSession) : Action → Option Reaction
  | .onAccept error =>
      match s.accepts with
      | 0 => none
      | n + 1 => some ({ s with accepts := n }.onAccept error)
  | .onRead result =>
      match s.reads with
      | 0 => none
      | n + 1 => some ({ s with reads := n }.onRead result)
  | .onWrite error =>
      match s.writes with
      | [] => none
      | message :: rest => some ({ s with writes := rest }.onWrite message error)
  | .doWrite =>
      match s.postedWrites with
      | 0 => none
      | n + 1 => some ⟨{ s with postedWrites := n }.doWrite, [], []⟩
  | .closeLambda =>
      match s.postedCloses with
      | 0 => none
      | n + 1 => some ⟨{ s with postedCloses := n }.closeCheck .leave, [], []⟩
  | .onDeadline result what =>
      (s.deadline.deliver result).map fun deadline => { s with deadline }.checkDeadline what result
  | _ => none

/-- One step of a session. -/
def step (lib : JsonLib) (s : WebsocketSession) (a : Action) : Option Reaction :=
  if s.destroyed then none
  else
    match a with
    | .tick duration => some ⟨{ s with now := s.now + duration }, [], []⟩
    | .elapse => (s.deadline.elapse s.now).map fun deadline => ⟨{ s with deadline }, [], []⟩
    | .timerError => some ⟨{ s with deadline := s.deadline.fail }, [], []⟩
    | .armDeadline =>
        if s.runPhase = .constructed then
          some ⟨{ s with deadline := (s.deadline.expiresAt (s.now + s.handshakeTimeout)).asyncWait,
                         runPhase := .armed }, [], []⟩
        else none
    | .startAccept =>
        if s.runPhase = .armed then
          some ⟨{ s with accepts := s.accepts + 1, runPhase := .returned }, [], []⟩
        else none
    | .resume => s.resume lib
    | .handleMessage maxSequenceGap maxSequenceGapLogged =>
        match s.strand with
        | .checkBurst message =>
            some (s.handleMessage lib message maxSequenceGap maxSequenceGapLogged)
        | _ => none
    | .generated newSessionId =>
        match s.strand with
        | .generate attempt => some (s.generated attempt newSessionId)
        | _ => none
    | .emplaced result =>
        match s.strand with
        | .insert attempt newSessionId => some (s.emplaced attempt newSessionId result)
        | _ => none
    | .rearm wsIdleTimeout =>
        match s.strand with
        | .readGuard => some ⟨s.rearm wsIdleTimeout, [], []⟩
        | _ => none
    | .send message => some (s.sendFromCaller message)
    | .postWrite =>
        match s.posters with
        | 0 => none
        | n + 1 => some ⟨{ s with posters := n, postedWrites := s.postedWrites + 1 }, [], []⟩
    | .close => some ⟨{ s with closeRequested := true, closers := s.closers + 1 }, [], []⟩
    | .dispatchClose =>
        match s.closers with
        | 0 => none
        | n + 1 =>
            if s.state = .closed then some ⟨{ s with closers := n }, [], []⟩
            else some ⟨{ s with closers := n, postedCloses := s.postedCloses + 1 }, [], []⟩
    | .dropManager => some ⟨{ s with managerAlive := false }, [], []⟩
    | .destroy => if s.unreferenced then some s.destroy else none
    | .onAccept _ | .onRead _ | .onWrite _ | .doWrite | .closeLambda | .onDeadline _ _ =>
        if s.strand = .idle then s.start a else none

end WebsocketSession

/-- The step of a session as the machine sees it, without its log. -/
def sessionStep (lib : JsonLib) (s : WebsocketSession) (a : Action) :
    Option (WebsocketSession × List Event) :=
  (s.step lib a).map fun r => (r.next, r.events)

/-- The machine of a session. -/
def session (lib : JsonLib) : Machine WebsocketSession Action Event :=
  Machine.ofStep (sessionStep lib)

/-- The runs of a session from its construction. -/
def SessionRun (lib : JsonLib) (now handshakeTimeout : ℤ) (as : List Action) (es : List Event)
    (s : WebsocketSession) : Prop :=
  (session lib).Run (.construct now handshakeTimeout) as es s

/-- What happens to a session until a client that behaves is authenticated as `sid`. -/
def connectActions (sid : Text) : List Action :=
  [.armDeadline, .startAccept, .onAccept none, .resume,
    .onRead (.message (handshakeEnvelope.print 4) (seconds 1) 10 10), .handleMessage 10000 10000,
    .generated sid, .emplaced (.success 1), .resume, .resume, .resume, .resume,
    .rearm (seconds 86400), .resume]

end CppSim.Server
