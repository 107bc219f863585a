import CppSim.Library.Noexcept
import CppSim.Server.ConnectionManager

/-!
# Functions declared `noexcept`

Eight functions on the path of a message and of a close are declared `noexcept`.  Each is
modelled here with the expressions in it that allocate, any of which may throw.  Most stand in a
handler.  Three do not: the push onto the write queue and the post of `do_write` in
`queue_message`, and the push of the timestamp in `check_rate_limit_or_close`.

`terminates_iff` says for each of the functions exactly when it ends the program: it comes to one
of the three, and that allocation fails.
-/

namespace CppSim.Server

open Noexcept Protocol

/-! ## Memory -/

/-- The expressions that allocate, with the function in whose body they stand. -/
inductive SessionAllocation
  /-- `queue_message`: `write_queue_.push`, when the last node of the queue is full. -/
  | pushMessage
  /-- `queue_message`: the handler of `do_write`. -/
  | postDoWrite
  /-- `queue_message`: the line about a full queue. -/
  | queueFullLine
  /-- `send_protocol_error`: the members of the error. -/
  | errorCode
  | errorText
  | fallbackText
  /-- `send_protocol_error`: the copy of the id, and the one in the error. -/
  | errorIdCopy
  | errorId
  | serializeError
  | unsentLine
  /-- `check_rate_limit_or_close`: `message_timestamps_.push_back`, when the last node is full. -/
  | pushTimestamp
  /-- `check_rate_limit_or_close`: the line about the limit. -/
  | rateLimitLine
  /-- `check_suspicious_activity`: the line about the burst. -/
  | burstLine
  /-- `validate_session_id`: the line about the length, the copy of the id, and the line about
  the mismatch. -/
  | tooLongLine
  | expectedIdCopy
  | mismatchLine
  /-- `close`: the handler that is dispatched, and the line about an exception. -/
  | dispatchClose
  | closeLine
  /-- `do_close`: the copy of the id, the line about an error of the socket, the handler of
  `async_close`, and the line about an exception. -/
  | closeIdCopy
  | socketErrorLine
  | asyncClose
  | doCloseLine
  /-- `unregister_session`: the line about it. -/
  | unregisteredLine
  deriving DecidableEq

/-- A session and the registry of its manager. -/
structure SessionHost where
  session : WebsocketSession
  manager : ConnectionManager

/-- What the functions find that is not in the session: which of the expressions throw, for they
come to allocate and there is no memory; the JSON library; and whether the caller runs on the
strand. -/
structure NoexceptCalls where
  fails : SessionAllocation → Bool
  lib : JsonLib
  onStrand : Bool

namespace NoexceptCalls

variable (calls : NoexceptCalls)

/-- Change the session. -/
def update (f : WebsocketSession → WebsocketSession) : Code SessionHost Unit :=
  modify fun host => { host with session := f host.session }

/-! ## The functions -/

/-- `get_session_id_safe`; `copy` is the copy it makes. -/
def getSessionIdSafe (copy : SessionAllocation) : Code SessionHost Text :=
  noexcept <| catching
    (do
      allocate (calls.fails copy)
      let host ← get
      pure host.session.sessionId)
    (pure [])

/-- `queue_message`. -/
def queueMessage (message : Text) : Code SessionHost Bool :=
  noexcept do
    let host ← get
    match host.session.queueMessage message with
    | .refused => pure false
    | .full => do
        catching (allocate (calls.fails .queueFullLine)) (pure ())
        pure false
    | .queued session shouldPost => do
        allocate (calls.fails .pushMessage)
        update fun _ => session
        if shouldPost then
          allocate (calls.fails .postDoWrite)
          update fun s => { s with postedWrites := s.postedWrites + 1 }
        pure true

/-- `send_protocol_error`. -/
def sendProtocolError (errorCode message : Text) : Code SessionHost Unit :=
  noexcept <| catching
    (do
      allocate (calls.fails .errorCode)
      let message ← catching
        (do
          allocate (calls.fails .errorText)
          pure message)
        (do
          allocate (calls.fails .fallbackText)
          pure (text "Error processing message"))
      let sid ← calls.getSessionIdSafe .errorIdCopy
      allocate (decide (sid ≠ []) && calls.fails .errorId)
      catching
        (do
          allocate (calls.fails .serializeError)
          match Protocol.serializeError calls.lib
              ⟨errorCode, message, if sid = [] then none else some sid⟩ with
          | .error _ => throw .exception
          | .ok err => do
              let sent ← calls.queueMessage err
              allocate (!sent && calls.fails .unsentLine))
        (pure ()))
    (pure ())

/-- `unregister_session`. -/
def unregisterSession (sid : Text) : Code SessionHost Unit :=
  noexcept do
    if sid = [] then pure ()
    else
      let host ← get
      set { host with manager := host.manager.unregisterSession sid }
      catching (allocate (decide (sid ∈ host.manager.sessions) && calls.fails .unregisteredLine))
        (pure ())

/-- `do_close`. -/
def doClose : Code SessionHost Unit :=
  noexcept do
    let host ← get
    if host.session.closeInitiated then pure ()
    else
      update fun s => { s with closeInitiated := true, state := .closed }
      if host.session.state = .closed then pure ()
      else
        catching
          (do
            update fun s => { s with deadline := s.deadline.cancel }
            let sid ← calls.getSessionIdSafe .closeIdCopy
            if sid ≠ [] ∧ host.session.managerAlive then calls.unregisterSession sid
            if host.session.state = .unauthenticated then
              allocate (calls.fails .socketErrorLine)
            else allocate (calls.fails .asyncClose))
          (catching (allocate (calls.fails .doCloseLine)) (pure ()))

/-- `close`.  On the strand its lambda runs at once. -/
def close : Code SessionHost Unit :=
  noexcept do
    update fun s => { s with closeRequested := true }
    let host ← get
    if host.session.state = .closed then pure ()
    else
      catching
        (do
          if calls.onStrand then
            if host.session.writing then pure () else calls.doClose
          else
            allocate (calls.fails .dispatchClose)
            update fun s => { s with postedCloses := s.postedCloses + 1 })
        (catching (allocate (calls.fails .closeLine)) (pure ()))

/-- `validate_session_id`. -/
def validateSessionId (provided : Text) : Code SessionHost Bool :=
  noexcept <| catching
    (do
      if provided = [] then
        calls.sendProtocolError ErrorCode.protocolError (text "Session ID is required")
        calls.close
        pure false
      else if provided.length > Config.maxSessionIdLength then
        allocate (calls.fails .tooLongLine)
        calls.sendProtocolError ErrorCode.protocolError (text "Session ID exceeds maximum length")
        calls.close
        pure false
      else
        let expected ← calls.getSessionIdSafe .expectedIdCopy
        if provided ≠ expected then
          allocate (calls.fails .mismatchLine)
          calls.sendProtocolError ErrorCode.protocolError (text "Session ID mismatch")
          calls.close
          pure false
        else pure true)
    (pure false)

/-- `check_rate_limit_or_close`, with the readings of the window and of the count. -/
def checkRateLimitOrClose (window : ℤ) (maxMessages : ℕ) : Code SessionHost Bool :=
  noexcept do
    let host ← get
    let (messageTimestamps, shouldClose) :=
      checkRateLimit window maxMessages host.session.now host.session.messageTimestamps
    if shouldClose then
      update fun s => { s with messageTimestamps }
      catching (allocate (calls.fails .rateLimitLine)) (pure ())
      calls.sendProtocolError ErrorCode.sessionClosed (text "Rate limit exceeded")
      calls.close
      pure false
    else
      allocate (calls.fails .pushTimestamp)
      update fun s => { s with messageTimestamps }
      pure true

/-- `check_suspicious_activity`. -/
def checkSuspicious : Code SessionHost Bool :=
  noexcept <| catching
    (do
      let host ← get
      let (activity, burst) := checkSuspiciousActivity host.session.now host.session.activity
      update fun s => { s with activity }
      catching (allocate (burst && calls.fails .burstLine)) (pure ())
      pure burst)
    (pure false)

/-! ## Functions that always return -/

section Returning

variable {calls : NoexceptCalls} {host : SessionHost}

theorem returns_update (f : WebsocketSession → WebsocketSession) : Returns (update f) :=
  returns_modify _

theorem run_update (f : WebsocketSession → WebsocketSession) :
    (update f).run host = .ok () { host with session := f host.session } := rfl

/-- A line that is put together in a handler of its own. -/
theorem returns_line (fails : Bool) :
    Returns (catching (allocate fails) (pure ()) : Code SessionHost Unit) :=
  (survives_allocate fails).catching (returns_pure ())

theorem run_line (fails : Bool) :
    (catching (allocate fails) (pure ()) : Code SessionHost Unit).run host = .ok () host := by
  rw [run_catching, run_allocate]
  cases fails <;> rfl

theorem run_getSessionIdSafe (copy : SessionAllocation) :
    (calls.getSessionIdSafe copy).run host =
      .ok (if calls.fails copy then [] else host.session.sessionId) host := by
  unfold getSessionIdSafe
  rw [run_noexcept, run_catching, EStateM.run_bind, run_allocate]
  cases calls.fails copy <;> rfl

theorem returns_getSessionIdSafe (copy : SessionAllocation) :
    Returns (calls.getSessionIdSafe copy) :=
  fun _ => ⟨_, _, run_getSessionIdSafe copy⟩

theorem returns_unregisterSession (sid : Text) : Returns (calls.unregisterSession sid) := by
  apply Returns.noexcept
  split
  · exact returns_pure ()
  · apply returns_get.bind
    intro host
    apply (returns_set _).bind
    intro _
    exact returns_line _

theorem returns_doClose : Returns calls.doClose := by
  apply Returns.noexcept
  apply returns_get.bind
  intro host
  split
  · exact returns_pure ()
  · apply (returns_update _).bind
    intro _
    split
    · exact returns_pure ()
    · apply Survives.catching
      · apply (returns_update _).survives.bind
        intro _
        apply (returns_getSessionIdSafe _).survives.bind
        intro sid
        have hshutdown : Survives (if host.session.state = .unauthenticated then
            (allocate (calls.fails .socketErrorLine) : Code SessionHost Unit)
            else allocate (calls.fails .asyncClose)) := by
          split <;> exact survives_allocate _
        dsimp only
        split
        · exact (returns_unregisterSession sid).survives.bind fun _ => hshutdown
        · exact hshutdown
      · exact returns_line _

theorem returns_close : Returns calls.close := by
  apply Returns.noexcept
  apply (returns_update _).bind
  intro _
  apply returns_get.bind
  intro host
  split
  · exact returns_pure ()
  · apply Survives.catching
    · split
      · split
        · exact (returns_pure ()).survives
        · exact returns_doClose.survives
      · apply (survives_allocate _).bind
        intro _
        exact (returns_update _).survives
    · exact returns_line _

theorem returns_checkSuspicious : Returns calls.checkSuspicious := by
  apply Returns.noexcept
  apply Survives.catching
  · apply returns_get.survives.bind
    intro host
    apply (returns_update _).survives.bind
    intro _
    apply (returns_line _).survives.bind
    intro _
    exact (returns_pure _).survives
  · exact returns_pure false

end Returning

/-! ## Functions that may end the program -/

section Terminating

/-- `queue_message` comes to an allocation that fails. -/
structure QueueFails (host : SessionHost) : Prop where
  isOpen : host.session.isClosing = false
  room : host.session.writeQueue.length < Config.maxWriteQueueSize
  fails : calls.fails .pushMessage = true ∨
    host.session.writing = false ∧ calls.fails .postDoWrite = true

/-- The id that `send_protocol_error` shows. -/
def shownId (host : SessionHost) : Text :=
  if calls.fails .errorIdCopy then [] else host.session.sessionId

/-- The text that `send_protocol_error` shows. -/
def shownText (message : Text) : Text :=
  if calls.fails .errorText then text "Error processing message" else message

/-- `send_protocol_error` comes to `queue_message`, and there to an allocation that fails. -/
structure ErrorFails (errorCode message : Text) (host : SessionHost) : Prop where
  code : calls.fails .errorCode = false
  shown : calls.fails .errorText = false ∨ calls.fails .fallbackText = false
  errorId : calls.shownId host = [] ∨ calls.fails .errorId = false
  serialized : calls.fails .serializeError = false
  printed : ∃ err, Protocol.serializeError calls.lib ⟨errorCode, calls.shownText message,
    if calls.shownId host = [] then none else some (calls.shownId host)⟩ = .ok err
  queue : calls.QueueFails host

/-- The id that `validate_session_id` compares with. -/
def expectedId (host : SessionHost) : Text :=
  if calls.fails .expectedIdCopy then [] else host.session.sessionId

/-- `validate_session_id` comes to `send_protocol_error`, and there to an allocation that fails. -/
def ValidateFails (provided : Text) (host : SessionHost) : Prop :=
  if provided = [] then
    calls.ErrorFails ErrorCode.protocolError (text "Session ID is required") host
  else if provided.length > Config.maxSessionIdLength then
    calls.fails .tooLongLine = false ∧
      calls.ErrorFails ErrorCode.protocolError (text "Session ID exceeds maximum length") host
  else if provided ≠ calls.expectedId host then
    calls.fails .mismatchLine = false ∧
      calls.ErrorFails ErrorCode.protocolError (text "Session ID mismatch") host
  else False

/-- `check_rate_limit_or_close` comes to `send_protocol_error` over the limit, and to the push
under it, and there to an allocation that fails. -/
def LimitFails (window : ℤ) (maxMessages : ℕ) (host : SessionHost) : Prop :=
  if (checkRateLimit window maxMessages host.session.now host.session.messageTimestamps).2 then
    calls.ErrorFails ErrorCode.sessionClosed (text "Rate limit exceeded") host
  else calls.fails .pushTimestamp = true

variable {calls : NoexceptCalls} {host : SessionHost} {message errorCode : Text}

theorem run_queueMessage_of_refused (h : host.session.isClosing = true) :
    (calls.queueMessage message).run host = .ok false host := by
  unfold queueMessage
  rw [run_noexcept, EStateM.run_bind, EStateM.run_get]
  simp only [WebsocketSession.queueMessage, h, if_true, EStateM.run_pure]

theorem run_queueMessage_of_full (hopen : host.session.isClosing = false)
    (hfull : Config.maxWriteQueueSize ≤ host.session.writeQueue.length) :
    (calls.queueMessage message).run host = .ok false host := by
  unfold queueMessage
  rw [run_noexcept, EStateM.run_bind, EStateM.run_get]
  simp only [WebsocketSession.queueMessage, hopen, Bool.false_eq_true, if_false, ge_iff_le, hfull,
    if_true, EStateM.run_bind, run_catching, run_allocate]
  cases calls.fails .queueFullLine <;> rfl

theorem run_queueMessage_of_room (calls : NoexceptCalls) (message : Text)
    (hopen : host.session.isClosing = false)
    (hroom : host.session.writeQueue.length < Config.maxWriteQueueSize) :
    ∃ t u, (calls.queueMessage message).run host =
      if calls.fails .pushMessage || (!host.session.writing && calls.fails .postDoWrite) then
        .error .terminate t
      else .ok true u := by
  unfold queueMessage
  rw [run_noexcept, EStateM.run_bind, EStateM.run_get]
  simp only [WebsocketSession.queueMessage, hopen, Bool.false_eq_true, if_false, ge_iff_le,
    Nat.not_le.mpr hroom, EStateM.run_bind, run_allocate]
  cases calls.fails .pushMessage with
  | true => exact ⟨host, host, rfl⟩
  | false =>
      cases host.session.writing with
      | true => exact ⟨host, _, rfl⟩
      | false =>
          cases calls.fails .postDoWrite with
          | true => exact ⟨_, host, rfl⟩
          | false => exact ⟨host, _, rfl⟩

theorem terminates_queueMessage :
    Terminates (calls.queueMessage message) host ↔ calls.QueueFails host := by
  unfold Terminates
  by_cases hclosing : host.session.isClosing = true
  · rw [run_queueMessage_of_refused hclosing]
    refine iff_of_false (by simp) fun h => ?_
    rw [h.isOpen] at hclosing
    cases hclosing
  · rw [Bool.not_eq_true] at hclosing
    by_cases hroom : host.session.writeQueue.length < Config.maxWriteQueueSize
    · have hiff : calls.QueueFails host ↔
          calls.fails .pushMessage || (!host.session.writing && calls.fails .postDoWrite) := by
        rw [Bool.or_eq_true, Bool.and_eq_true, Bool.not_eq_true']
        exact ⟨fun h => h.fails, fun h => ⟨hclosing, hroom, h⟩⟩
      obtain ⟨t, u, hrun⟩ := run_queueMessage_of_room calls message hclosing hroom
      rw [hrun, hiff]
      split
      · rename_i hfails
        exact iff_of_true ⟨t, rfl⟩ hfails
      · rename_i hfails
        exact iff_of_false (by simp) hfails
    · rw [run_queueMessage_of_full hclosing (Nat.not_lt.mp hroom)]
      exact iff_of_false (by simp) fun h => hroom h.room

/-- The text of the error, or an exception. -/
theorem run_shownText (calls : NoexceptCalls) (host : SessionHost) (message : Text) :
    (catching
      (do
        allocate (calls.fails .errorText)
        pure message)
      (do
        allocate (calls.fails .fallbackText)
        pure (text "Error processing message")) : Code SessionHost Text).run host =
      if calls.fails .errorText && calls.fails .fallbackText then .error .exception host
      else .ok (calls.shownText message) host := by
  unfold shownText
  rw [run_catching, EStateM.run_bind, run_allocate]
  cases calls.fails .errorText with
  | false => rfl
  | true =>
      simp only [if_true, EStateM.run_bind, run_allocate, Bool.true_and]
      cases calls.fails .fallbackText <;> rfl

theorem terminates_sendProtocolError :
    Terminates (calls.sendProtocolError errorCode message) host ↔
      calls.ErrorFails errorCode message host := by
  unfold sendProtocolError
  rw [terminates_noexcept_of_not_escapes (not_escapes_catching (returns_pure ())),
    terminates_catching (returns_pure ()).survives, terminates_allocate_bind]
  by_cases hshown : calls.fails .errorText = false ∨ calls.fails .fallbackText = false
  · have htext := run_shownText calls host message
    rw [if_neg (by simpa [imp_iff_not_or] using hshown)] at htext
    have hid : (calls.getSessionIdSafe .errorIdCopy).run host = .ok (calls.shownId host) host :=
      run_getSessionIdSafe _
    rw [terminates_bind_of_ok htext, terminates_bind_of_ok hid, terminates_allocate_bind,
      terminates_catching (returns_pure ()).survives, terminates_allocate_bind]
    cases hprinted : Protocol.serializeError calls.lib ⟨errorCode, calls.shownText message,
        if calls.shownId host = [] then none else some (calls.shownId host)⟩ with
    | error e =>
        refine iff_of_false (fun h => ?_) fun h => ?_
        · obtain ⟨t, ht⟩ := h.2.2.2
          cases ht
        · obtain ⟨err, herr⟩ := h.printed
          rw [hprinted] at herr
          cases herr
    | ok err =>
        dsimp only
        rw [terminates_bind_of_survives fun sent => survives_allocate _, terminates_queueMessage]
        constructor
        · rintro ⟨hcode, hid, hserialized, hqueue⟩
          exact ⟨hcode, hshown, by simpa [imp_iff_not_or] using hid, hserialized, ⟨err, hprinted⟩,
            hqueue⟩
        · intro h
          exact ⟨h.code, by simpa [imp_iff_not_or] using h.errorId, h.serialized, h.queue⟩
  · have htext := run_shownText calls host message
    rw [if_pos (by simpa using hshown)] at htext
    refine iff_of_false ?_ fun h => hshown h.shown
    rintro ⟨-, h⟩
    exact not_terminates_bind_of_exception htext h

/-- An error followed by a close. -/
theorem terminates_error_close (result : Bool) :
    Terminates (do
      calls.sendProtocolError errorCode message
      calls.close
      pure result) host ↔ calls.ErrorFails errorCode message host := by
  rw [terminates_bind_of_survives, terminates_sendProtocolError]
  intro _
  exact returns_close.survives.bind fun _ => (returns_pure result).survives

theorem terminates_validateSessionId (provided : Text) :
    Terminates (calls.validateSessionId provided) host ↔ calls.ValidateFails provided host := by
  unfold validateSessionId ValidateFails
  rw [terminates_noexcept_of_not_escapes (not_escapes_catching (returns_pure false)),
    terminates_catching (returns_pure false).survives]
  split
  · exact terminates_error_close false
  · split
    · rw [terminates_allocate_bind, terminates_error_close]
    · have hid : (calls.getSessionIdSafe .expectedIdCopy).run host =
          .ok (calls.expectedId host) host := run_getSessionIdSafe _
      rw [terminates_bind_of_ok hid]
      split
      · rw [terminates_allocate_bind, terminates_error_close]
      · exact iff_of_false ((returns_pure true).survives host) id

/-- The timestamps of a session have no part in sending it an error. -/
theorem errorFails_messageTimestamps (messageTimestamps : List ℤ) :
    calls.ErrorFails errorCode message
        { host with session := { host.session with messageTimestamps } } ↔
      calls.ErrorFails errorCode message host := by
  constructor
  · intro h
    exact ⟨h.code, h.shown, h.errorId, h.serialized, h.printed,
      h.queue.isOpen, h.queue.room, h.queue.fails⟩
  · intro h
    exact ⟨h.code, h.shown, h.errorId, h.serialized, h.printed,
      h.queue.isOpen, h.queue.room, h.queue.fails⟩

theorem terminates_checkRateLimitOrClose (window : ℤ) (maxMessages : ℕ) :
    Terminates (calls.checkRateLimitOrClose window maxMessages) host ↔
      calls.LimitFails window maxMessages host := by
  unfold checkRateLimitOrClose LimitFails
  cases hlimit : checkRateLimit window maxMessages host.session.now host.session.messageTimestamps
    with
  | mk messageTimestamps shouldClose =>
      cases shouldClose with
      | true =>
          rw [terminates_noexcept_of_not_escapes, terminates_bind_of_ok (EStateM.run_get _), hlimit]
          · dsimp only
            rw [if_pos rfl, if_pos rfl, terminates_bind_of_ok (run_update _),
              terminates_bind_of_ok (run_line _), terminates_error_close,
              errorFails_messageTimestamps]
          · rw [escapes_bind_of_ok (EStateM.run_get _), hlimit]
            dsimp only
            rw [if_pos rfl]
            refine not_escapes_bind (returns_update _).not_escapes fun _ _ => ?_
            refine not_escapes_bind (returns_line _).not_escapes fun _ _ => ?_
            refine not_escapes_bind not_escapes_noexcept fun _ _ => ?_
            exact not_escapes_bind returns_close.not_escapes fun _ _ => (returns_pure _).not_escapes
      | false =>
          rw [terminates_noexcept, terminates_bind_of_ok (EStateM.run_get _),
            escapes_bind_of_ok (EStateM.run_get _), hlimit]
          dsimp only
          rw [if_neg Bool.false_ne_true, if_neg Bool.false_ne_true, terminates_allocate_bind]
          cases hpush : calls.fails .pushTimestamp with
          | true =>
              refine iff_of_true (.inr ⟨host, ?_⟩) rfl
              rw [EStateM.run_bind, run_allocate, if_pos rfl]
          | false =>
              have hpushed : Returns (do
                  update fun s => { s with messageTimestamps }
                  pure true) := (returns_update _).bind fun _ => returns_pure true
              rw [allocate_false]
              refine iff_of_false ?_ Bool.false_ne_true
              rintro (⟨-, h⟩ | h)
              · exact hpushed.survives host h
              · exact hpushed.not_escapes h

/-! ## Ending the program -/

/-- A function declared `noexcept`, with its arguments and the type of its result. -/
inductive NoexceptFunction : Type → Type
  | queueMessage (message : Text) : NoexceptFunction Bool
  | checkRateLimitOrClose (window : ℤ) (maxMessages : ℕ) : NoexceptFunction Bool
  | checkSuspicious : NoexceptFunction Bool
  | sendProtocolError (errorCode message : Text) : NoexceptFunction Unit
  | validateSessionId (provided : Text) : NoexceptFunction Bool
  | close : NoexceptFunction Unit
  | doClose : NoexceptFunction Unit
  | unregisterSession (sid : Text) : NoexceptFunction Unit

variable {Result : Type}

/-- The code of a function. -/
def code (calls : NoexceptCalls) : NoexceptFunction Result → Code SessionHost Result
  | .queueMessage message => calls.queueMessage message
  | .checkRateLimitOrClose window maxMessages => calls.checkRateLimitOrClose window maxMessages
  | .checkSuspicious => calls.checkSuspicious
  | .sendProtocolError errorCode message => calls.sendProtocolError errorCode message
  | .validateSessionId provided => calls.validateSessionId provided
  | .close => calls.close
  | .doClose => calls.doClose
  | .unregisterSession sid => calls.unregisterSession sid

/-- A function comes to an allocation that fails and stands in no handler. -/
def FailsUnhandled (calls : NoexceptCalls) (host : SessionHost) : NoexceptFunction Result → Prop
  | .queueMessage _ => calls.QueueFails host
  | .checkRateLimitOrClose window maxMessages => calls.LimitFails window maxMessages host
  | .sendProtocolError errorCode message => calls.ErrorFails errorCode message host
  | .validateSessionId provided => calls.ValidateFails provided host
  | .checkSuspicious | .close | .doClose | .unregisterSession _ => False

/-- The call returns: no exception escapes it, and the program has not ended. -/
def Contained (calls : NoexceptCalls) (host : SessionHost) (f : NoexceptFunction Result) : Prop :=
  ∃ result after, (calls.code f).run host = .ok result after

theorem not_escapes_code (f : NoexceptFunction Result) : ¬ Escapes (calls.code f) host := by
  cases f <;> exact not_escapes_noexcept

theorem terminates_code (f : NoexceptFunction Result) :
    Terminates (calls.code f) host ↔ calls.FailsUnhandled host f := by
  cases f with
  | queueMessage message => exact terminates_queueMessage
  | checkRateLimitOrClose window maxMessages => exact terminates_checkRateLimitOrClose _ _
  | checkSuspicious => exact iff_of_false (returns_checkSuspicious.survives host) id
  | sendProtocolError errorCode message => exact terminates_sendProtocolError
  | validateSessionId provided => exact terminates_validateSessionId provided
  | close => exact iff_of_false (returns_close.survives host) id
  | doClose => exact iff_of_false (returns_doClose.survives host) id
  | unregisterSession sid => exact iff_of_false ((returns_unregisterSession sid).survives host) id

/-- For every pattern of failures and every state of the session, a function declared `noexcept`
returns exactly when it comes to no allocation that fails outside a handler. -/
theorem contained_iff (calls : NoexceptCalls) (host : SessionHost) (f : NoexceptFunction Result) :
    calls.Contained host f ↔ ¬ calls.FailsUnhandled host f := by
  rw [← terminates_code, Contained, returned_iff]
  exact and_iff_left (not_escapes_code f)

/-- Memory in which only the handler of `do_write` cannot be stored. -/
def noRoomForHandler : NoexceptCalls where
  fails a := decide (a = .postDoWrite)
  lib := .knowing []
  onStrand := true

/-- The first message that a session queues ends the program. -/
theorem not_contained :
    ¬ ∀ (calls : NoexceptCalls) (host : SessionHost) (f : NoexceptFunction Bool),
      calls.Contained host f := by
  intro hall
  have hended : Terminates (noRoomForHandler.code (.queueMessage (text "ERROR")))
      ⟨.construct 0 (seconds 10), .initial⟩ :=
    (terminates_code _).mpr ⟨rfl, by decide, .inr ⟨rfl, rfl⟩⟩
  have hreturned := hall noRoomForHandler ⟨.construct 0 (seconds 10), .initial⟩
    (.queueMessage (text "ERROR"))
  exact (returned_iff.mp hreturned).1 hended

end Terminating

end NoexceptCalls

end CppSim.Server
