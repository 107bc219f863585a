import CppSim.Server.Config
import CppSim.Library.Timer

/-!
# The state of a session

A `WebsocketSession` holds the members of `websocket_session` and, besides them, where
control is: which asynchronous operations are outstanding, which handlers are queued,
what the handler running on the session's strand does next, and how many other threads
are inside `send` or `close`.

The strand runs one handler at a time.  A handler reads and writes the members that
only the strand touches without interruption; between two accesses to what it shares
with other threads (the write queue with its flag, `close_requested_`, the connection
manager) other threads may run.  `Strand` names the points between such accesses.
-/

namespace CppSim.Server

/-! ## Members -/

/-- `websocket_session::state`. -/
inductive SessionState
  | unauthenticated
  | authenticated
  | closed
  deriving DecidableEq

/-- How far `run` has come, which runs on the thread that created the session. -/
inductive RunPhase
  | constructed
  | armed
  | returned
  deriving DecidableEq

/-- Where `on_read` continues after a call of `close`: it returns, or it goes on to the
guard at its end. -/
inductive After
  | leave
  | readGuard
  deriving DecidableEq

/-- What follows a call of `send` that queued its message. -/
inductive Next
  | close (after : After)
  | authenticate (newSessionId : Text)
  | commit (newStack : Int64)
  | leave
  deriving DecidableEq

/-- What the handler on the strand does next. -/
inductive Strand
  | idle
  /-- `on_read`: the burst detector and the message handler. -/
  | checkBurst (message : Text)
  | sendError (errorCode message : Text) (after : After)
  /-- `queue_message`: post `do_write`, outside the lock. -/
  | post (next : Next)
  | close (after : After)
  /-- The body of the lambda that `close` dispatches. -/
  | closeCheck (after : After)
  | doClose (after : After)
  | doCloseUnregister (prevState : SessionState) (after : After)
  | doCloseShutdown (prevState : SessionState) (after : After)
  /-- `on_read` with an error: `unregister_session`. -/
  | unregister (sid : Text)
  /-- `register_session`: `generate_session_id`. -/
  | generate (attempt : ℕ)
  /-- `register_session`: `try_emplace` under the lock. -/
  | insert (attempt : ℕ) (newSessionId : Text)
  | storeId (newSessionId : Text)
  | sendResponse (newSessionId : Text)
  | authenticate (newSessionId : Text)
  | sendReload (requestedAmount newStack : Int64)
  | commitReload (newStack : Int64)
  | asyncWrite (message : Text)
  | readGuard
  | doRead
  deriving DecidableEq

def After.strand : After → Strand
  | .leave => .idle
  | .readGuard => .readGuard

def Next.strand : Next → Strand
  | .close after => .close after
  | .authenticate newSessionId => .authenticate newSessionId
  | .commit newStack => .commitReload newStack
  | .leave => .idle

structure WebsocketSession where
  sessionId : Text
  /-- `conn_mgr_` can still be locked. -/
  managerAlive : Bool
  writeQueue : List Text
  writing : Bool
  state : SessionState
  deadline : Timer ℤ
  lastSequenceNumber : Int64
  closeRequested : Bool
  closeInitiated : Bool
  messageTimestamps : List ℤ
  /-- `last_activity_` and `message_count_`. -/
  activity : Activity
  currentStack : Int64
  handshakeTimeout : ℤ
  runPhase : RunPhase
  strand : Strand
  /-- Outstanding `async_accept` operations. -/
  accepts : ℕ
  /-- Outstanding `async_read` operations. -/
  reads : ℕ
  /-- Outstanding `async_write` operations. -/
  writes : List Text
  /-- Posted calls of `do_write`. -/
  postedWrites : ℕ
  /-- Queued lambdas of `close`. -/
  postedCloses : ℕ
  /-- Other threads in `queue_message` that have yet to post `do_write`. -/
  posters : ℕ
  /-- Other threads in `close` that have set `close_requested_`. -/
  closers : ℕ
  /-- The steady clock. -/
  now : ℤ
  destroyed : Bool

namespace WebsocketSession

/-- The constructor. -/
def construct (now handshakeTimeout : ℤ) : WebsocketSession where
  sessionId := []
  managerAlive := true
  writeQueue := []
  writing := false
  state := .unauthenticated
  deadline := Timer.idle now
  lastSequenceNumber := -1
  closeRequested := false
  closeInitiated := false
  messageTimestamps := []
  activity := ⟨now, 0⟩
  currentStack := Config.placeholderStack
  handshakeTimeout := handshakeTimeout
  runPhase := .constructed
  strand := .idle
  accepts := 0
  reads := 0
  writes := []
  postedWrites := 0
  postedCloses := 0
  posters := 0
  closers := 0
  now := now
  destroyed := false

/-- `state_` is closed or `close_requested_` is set: the guard most handlers begin with. -/
def isClosing (s : WebsocketSession) : Bool := s.state == .closed || s.closeRequested

end WebsocketSession

/-! ## Actions, events and log lines -/

/-- An error of the transport: `websocket::error::closed`, or another. -/
inductive TransportError
  | closed
  | other (what : Text)

/-- How an `async_read` completes, with what the limiter reads of the configuration. -/
inductive ReadResult
  | failed (error : TransportError)
  | message (message : Text) (rateLimitWindow : ℤ) (maxMessages maxMessagesLogged : ℕ)

/-- How `try_emplace` ends, with the number of sessions after an insertion. -/
inductive EmplaceResult
  | success (count : ℕ)
  | maxConnections
  | collision

/-- What can happen next to a session. -/
inductive Action
  /-- Time passes. -/
  | tick (duration : ℕ)
  /-- The deadline is reached, or the timer fails. -/
  | elapse
  | timerError
  /-- `run`: set the deadline and wait for it, then accept. -/
  | armDeadline
  | startAccept
  /-- Completions and queued handlers, which start on an idle strand. -/
  | onAccept (error : Option TransportError)
  | onRead (result : ReadResult)
  | onWrite (error : Option Text)
  | doWrite
  | closeLambda
  | onDeadline (result : TimerResult) (what : Text)
  /-- The handler on the strand goes on.  Three of its steps read something. -/
  | resume
  | handleMessage (maxSequenceGap maxSequenceGapLogged : Int64)
  | generated (newSessionId : Text)
  | emplaced (result : EmplaceResult)
  | rearm (wsIdleTimeout : ℤ)
  /-- Another thread in `send`. -/
  | send (message : Text)
  | postWrite
  /-- Another thread in `close`. -/
  | close
  | dispatchClose
  /-- The connection manager is destroyed. -/
  | dropManager
  /-- The last reference to the session is dropped. -/
  | destroy

/-- Who sends a message. -/
inductive Source
  | caller
  | error
  | handshakeResponse
  | reloadResponse (requestedAmount newStack : Int64)
  deriving DecidableEq

/-- What an observer sees of a session. -/
inductive Event
  /-- `send` returned true, or false. -/
  | queued (source : Source) (message : Text)
  | refused (source : Source) (message : Text)
  /-- A message handed to `async_write`, and how the operation ended. -/
  | handed (message : Text)
  | written (message : Text)
  | writeFailed (message : Text)
  | actionAccepted (seq maxSequenceGap : Int64)
  | reloadAccepted (requestedAmount : Int64)
  | stackCommitted (newStack : Int64)
  /-- The session was inserted into the registry. -/
  | registered (sid : Text)
  /-- A call of `unregister_session`. -/
  | unregister (sid : Text)
  /-- The deadline handler requests a close, with this message. -/
  | timedOut (message : Text)
  /-- The shutdown body of `do_close`. -/
  | socketClosed
  | asyncClosed
  deriving DecidableEq

/-- A line passed to `log_message`, `log_error` or the protocol's error logger. -/
inductive LogLine
  | message (line : Text)
  | error (line : Text)
  | protocol (line : Text)

/-- What a step leads to. -/
structure Reaction where
  next : WebsocketSession
  events : List Event
  log : List LogLine

end CppSim.Server
