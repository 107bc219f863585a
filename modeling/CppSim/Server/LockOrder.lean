import CppSim.Server.CollectorCalls

/-!
# The mutexes of the process

The process has one mutex for each of the logger, the error logger of the protocol, the
configuration, the registry and the backoff timer, six for the metrics, and three for each
session.  `LockScope` lists the scopes in which the functions of the source hold them, with what
they take inside: the rate limiter reads the configuration, a reload may log, and an export and a
reset go through the containers of the metrics.

A thread is any sequence of such scopes, so whatever the functions do in between is allowed for.
`process_never_deadlocks` says that some thread can always go on.
-/

namespace CppSim.Server

inductive ProcessMutex
  /-- `log_mutex`. -/
  | log
  /-- `error_logger_mutex`. -/
  | errorLogger
  /-- `config_mutex_`. -/
  | config
  /-- `sessions_mutex_`. -/
  | sessions
  /-- `timer_mutex_`. -/
  | timer
  | collector (m : CollectorMutex)
  /-- `session_id_mutex_`, `write_queue_mutex_` and `rate_limit_mutex_` of a session. -/
  | sessionId (session : ℕ)
  | writeQueue (session : ℕ)
  | rateLimit (session : ℕ)
  deriving DecidableEq

/-- The scopes of the source in which mutexes are held. -/
inductive LockScope
  | log
  | logProtocolError
  | setErrorLogger
  /-- A getter of `runtime_config_manager`. -/
  | configGetter
  | loadFromJson
  | loadFromFile
  | reload (pathEmpty : Bool)
  | exportToJson
  | registerSession
  | unregisterSession
  | getSession
  | activeSessionIds
  | sessionCount
  | stopAll
  /-- `websocket_server::stop`. -/
  | stop
  /-- `websocket_server::on_accept`, after an error and after a success. -/
  | onAcceptFailed
  | onAccept
  | backoffHandler
  | collector (c : CollectorCall)
  | getSessionIdSafe (session : ℕ)
  /-- `handle_handshake_message`. -/
  | storeSessionId (session : ℕ)
  | checkRateLimitOrClose (session : ℕ)
  | queueMessage (session : ℕ)
  | doWrite (session : ℕ)
  | onWrite (session : ℕ)
  /-- The lambda of `close`. -/
  | closeLambda (session : ℕ)

/-- What a thread does with the mutexes. -/
abbrev ProcessOp : Type := LockOp ProcessMutex PEmpty

/-- A scope with others inside. -/
def holding (m : ProcessMutex) (inside : List ProcessOp) : List ProcessOp :=
  .lock m :: (inside ++ [.unlock m])

/-- The mutexes of a call of the collector. -/
def collectorOps (c : CollectorCall) : List ProcessOp :=
  c.ops.filterMap fun
    | .lock m => some (.lock (.collector m))
    | .unlock m => some (.unlock (.collector m))
    | .work _ => none

/-- The mutexes of a scope, in order. -/
def LockScope.ops : LockScope → List ProcessOp
  | log => holding .log []
  | logProtocolError | setErrorLogger => holding .errorLogger []
  | configGetter | loadFromJson | loadFromFile | exportToJson => holding .config []
  | reload pathEmpty => holding .config (if pathEmpty then holding .log [] else [])
  | registerSession | unregisterSession | getSession | activeSessionIds | sessionCount | stopAll =>
      holding .sessions []
  | stop | onAcceptFailed | onAccept | backoffHandler => holding .timer []
  | collector c => collectorOps c
  | getSessionIdSafe session | storeSessionId session => holding (.sessionId session) []
  | checkRateLimitOrClose session =>
      -- `get_rate_limit_window` and `get_max_messages_per_window`
      holding (.rateLimit session) (holding .config [] ++ holding .config [])
  | queueMessage session | doWrite session | onWrite session | closeLambda session =>
      holding (.writeQueue session) []

/-- The threads of the process. -/
def processLocks : LockProgram ProcessMutex PEmpty Unit Unit (List LockScope) Unit Empty where
  ops scopes := scopes.flatMap LockScope.ops
  vars _ := ()
  run _ _ w _ := w.elim

/-- The order in which mutexes are taken. -/
def ProcessMutex.rank : ProcessMutex → ℕ
  | .rateLimit _ => 0
  | .config => 1
  | .log => 2
  | .collector m => m.rank
  | .errorLogger | .sessions | .timer | .sessionId _ | .writeQueue _ => 0

theorem disciplined_scope (scope : LockScope) :
    LockProgram.Disciplined ProcessMutex.rank (fun _ : PEmpty => []) [] scope.ops := by
  cases scope with
  | reload pathEmpty =>
      cases pathEmpty <;>
        simp [LockScope.ops, holding, LockProgram.Disciplined, ProcessMutex.rank]
  | collector c =>
      cases c <;>
        simp [LockScope.ops, collectorOps, CollectorCall.ops, lockGuard, LockProgram.Disciplined,
          ProcessMutex.rank, CollectorMutex.rank]
  | _ => simp [LockScope.ops, holding, LockProgram.Disciplined, ProcessMutex.rank]

/-- Any sequence of scopes keeps to the order. -/
theorem disciplined_scopes (scopes : List LockScope) :
    LockProgram.Disciplined ProcessMutex.rank (fun _ : PEmpty => []) []
      (scopes.flatMap LockScope.ops) := by
  induction scopes with
  | nil => rfl
  | cons scope scopes ih => exact (disciplined_scope scope).append ih

def processDiscipline : LockDiscipline processLocks where
  rank := ProcessMutex.rank
  bound := 2
  rank_le m := by
    cases m with
    | collector m => cases m <;> decide
    | _ => simp [ProcessMutex.rank]
  needs _ := []
  disciplined := disciplined_scopes

/-- **The mutexes never deadlock.**  Whatever sequences of the scopes any number of threads go
through, and however these are interleaved: unless all of them are through, some thread can go
on.  The order of the mutexes is that of `ProcessMutex.rank`. -/
theorem process_never_deadlocks {as : List (PoolAction (List LockScope) Unit)}
    {es : List (ℕ × LockEvent ProcessMutex Empty)}
    {p : Pool (LockState ProcessMutex Unit) (LockCall ProcessMutex PEmpty Unit)}
    (run : processLocks.threads.machine.Run ⟨LockDiscipline.start (), []⟩ as es p) :
    (∀ l ∈ p.locals, l.todo = []) ∨
      ∃ i fs q, processLocks.threads.machine.step p (.thread i ()) fs q := by
  have sound : processDiscipline.Sound p := ⟨es, processDiscipline.outlined_of_run run⟩
  exact sound.progress ()

/-- A reload logs while it holds the configuration, and the rate limiter waits for it. -/
def waitingActions : List (PoolAction (List LockScope) Unit) :=
  [.call [.reload true], .call [.checkRateLimitOrClose 0], .thread 0 (), .thread 1 ()]

theorem isSome_waitingRun :
    (Machine.exec processLocks.threads.poolStep ⟨LockDiscipline.start (), []⟩
      waitingActions).isSome = true := by
  decide

theorem process_never_deadlocks_waiting :
    ∃ i fs q, processLocks.threads.machine.step
      ((Machine.exec processLocks.threads.poolStep ⟨LockDiscipline.start (), []⟩
        waitingActions).get isSome_waitingRun).1 (.thread i ()) fs q := by
  have hwaiting : ¬ ∀ l ∈ ((Machine.exec processLocks.threads.poolStep
      ⟨LockDiscipline.start (), []⟩ waitingActions).get isSome_waitingRun).1.locals,
      l.todo = [] := by decide
  exact (process_never_deadlocks (Machine.run_get isSome_waitingRun)).resolve_left hwaiting

end CppSim.Server
