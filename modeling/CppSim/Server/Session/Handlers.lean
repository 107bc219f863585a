import CppSim.Common.Parse
import CppSim.Server.Session.State

/-!
# The message handlers

What `on_read` does with a message that passed the traffic checks.  Up to its first
access to the write queue, to `close_requested_` or to the connection manager, a
handler reads only members that the strand alone writes, so this part of it is a
function of the session: it decides on a `Verdict` and logs.  Every refusal of a
message has the same shape, an error to the client and a close, which is
`Verdict.reject`.
-/

namespace CppSim.Server

open Protocol

/-- What a handler decides about a message. -/
inductive Verdict
  /-- `send_protocol_error` and `close`. -/
  | reject (errorCode message : Text)
  /-- An ACTION whose sequence number is stored. -/
  | acceptAction (seq : Int64)
  /-- A RELOAD_REQUEST whose response is to be sent. -/
  | acceptReload (requestedAmount : Int64)
  /-- A DISCONNECT, which closes the session. -/
  | disconnect
  /-- A HANDSHAKE, whose session is to be registered. -/
  | register
  deriving DecidableEq

/-- The message is refused. -/
def Verdict.Rejects (v : Verdict) : Prop := ∃ errorCode message, v = .reject errorCode message

/-- A verdict and the lines logged on the way to it. -/
structure Handled where
  verdict : Verdict
  log : List LogLine

/-- Log the lines of the protocol's logger first. -/
def Handled.after (lines : List Text) (h : Handled) : Handled :=
  ⟨h.verdict, lines.map .protocol ++ h.log⟩

/-- A refusal with one line in the log. -/
def Handled.reject (errorCode message line : Text) : Handled :=
  ⟨.reject errorCode message, [.error line]⟩

namespace WebsocketSession

/-- `validate_session_id`: the refusal, if the id is not the one of the session. -/
def validateSessionId (s : WebsocketSession) (providedSessionId : Text) : Option Handled :=
  if providedSessionId = [] then
    some (.reject ErrorCode.protocolError (text "Session ID is required")
      (text "[WebSocketSession] Empty session ID provided"))
  else if providedSessionId.length > Config.maxSessionIdLength then
    some (.reject ErrorCode.protocolError (text "Session ID exceeds maximum length")
      (text "[WebSocketSession] Session ID too long: " ++ toText providedSessionId.length ++
        text " > " ++ toText Config.maxSessionIdLength))
  else if providedSessionId ≠ s.sessionId then
    some (.reject ErrorCode.protocolError (text "Session ID mismatch")
      (text "[WebSocketSession] Session ID mismatch: expected " ++ sanitizeSessionId s.sessionId ++
        text ", got " ++ sanitizeSessionId providedSessionId))
  else none

section Handlers

variable (lib : JsonLib) (s : WebsocketSession)

/-- `handle_handshake_message`, up to the registration. -/
def handleHandshakeMessage (message : Text) : Handled :=
  let parsed := parseHandshake lib message
  match parsed.value with
  | none =>
      (Handled.reject ErrorCode.malformedHandshake (text "Expected HANDSHAKE message")
        (text "[WebSocketSession] Handshake error: Protocol error (Not HANDSHAKE)")).after
          parsed.log
  | some handshake =>
      if handshake.protocolVersion ≠ protocolVersion then
        Handled.reject ErrorCode.incompatibleVersion (text "Expected " ++ protocolVersion)
          (text "[WebSocketSession] Handshake error: Incompatible version " ++
            truncField handshake.protocolVersion 32)
      else
        let named := match handshake.clientName with
          | some name =>
              [LogLine.message (text "[WebSocketSession] Client Name: " ++ truncField name 32)]
          | none => []
        if s.managerAlive then ⟨.register, named⟩
        else
          ⟨.reject ErrorCode.protocolError (text "Connection manager not available"),
            named ++ [.error (text
              "[WebSocketSession] Warning: No connection manager, session ID invalid")]⟩

/-- `handle_action`, with the two readings of `max_sequence_gap`. -/
def handleAction (header : ParsedMessageHeader) (sid : Text)
    (maxSequenceGap maxSequenceGapLogged : Int64) : Handled :=
  let parsed := parseActionFromEnvelope lib header.envelopeJson
  match parsed.value with
  | none =>
      (Handled.reject ErrorCode.malformedMessage (text "Invalid ACTION message format")
        (text "[WebSocketSession] Failed to parse ACTION message from " ++
          sanitizeSessionId sid)).after parsed.log
  | some action =>
      match s.validateSessionId action.sessionId with
      | some refusal => refusal
      | none =>
          let seq := action.sequenceNumber
          let lastSeq := s.lastSequenceNumber
          if seq ≤ lastSeq then
            Handled.reject ErrorCode.protocolError
              (text "Invalid sequence number - possible replay attack")
              (text "[WebSocketSession] Invalid sequence number " ++ toText seq.toInt ++
                text " (expected > " ++ toText lastSeq.toInt ++ text ")")
          else
            let gap := seq.toUInt64 - lastSeq.toUInt64
            if gap > maxSequenceGap.toUInt64 then
              Handled.reject ErrorCode.protocolError (text "Sequence number gap too large")
                (text "[WebSocketSession] Sequence number too far ahead: " ++ toText seq.toInt ++
                  text " (gap: " ++ toText gap.toNat ++ text ", max allowed: " ++
                  toText maxSequenceGapLogged.toInt ++ text ")")
            else
              ⟨.acceptAction seq, [.message (text "[WebSocketSession] Validated ACTION from " ++
                sanitizeSessionId sid ++ text ": type=" ++ action.actionType ++ text " seq=" ++
                toText seq.toInt)]⟩

/-- `handle_reload_msg`, up to the response. -/
def handleReloadMsg (header : ParsedMessageHeader) (sid : Text) : Handled :=
  let parsed := parseReloadFromEnvelope lib header.envelopeJson
  match parsed.value with
  | none =>
      (Handled.reject ErrorCode.malformedMessage (text "Invalid RELOAD_REQUEST format")
        (text "[WebSocketSession] Failed to parse RELOAD_REQUEST from " ++
          sanitizeSessionId sid)).after parsed.log
  | some reload =>
      match s.validateSessionId reload.sessionId with
      | some refusal => refusal
      | none =>
          ⟨.acceptReload reload.requestedAmount,
            [.message (text "[WebSocketSession] Validated RELOAD_REQUEST from " ++
              sanitizeSessionId sid)]⟩

/-- `handle_disconnect_msg`. -/
def handleDisconnectMsg (header : ParsedMessageHeader) (sid : Text) : Handled :=
  let parsed := parseDisconnectFromEnvelope lib header.envelopeJson
  match parsed.value with
  | none =>
      (Handled.reject ErrorCode.malformedMessage (text "Invalid DISCONNECT format")
        (text "[WebSocketSession] Failed to parse DISCONNECT from " ++
          sanitizeSessionId sid)).after parsed.log
  | some disconnect =>
      match s.validateSessionId disconnect.sessionId with
      | some refusal => refusal
      | none =>
          ⟨.disconnect, [.message (text "[WebSocketSession] Validated DISCONNECT from " ++
            sanitizeSessionId sid)]⟩

/-- `handle_authenticated_message`. -/
def handleAuthenticatedMessage (message : Text) (maxSequenceGap maxSequenceGapLogged : Int64) :
    Handled :=
  let extracted := extractMessageTypeAndJson lib message
  match extracted.value with
  | none =>
      (Handled.reject ErrorCode.malformedMessage
        (text "Missing or invalid message_type field")
        (text "[WebSocketSession] Invalid message format from " ++ sanitizeSessionId s.sessionId ++
          text ": missing message_type")).after extracted.log
  | some header =>
      let sid := s.sessionId
      if header.messageType = MessageType.action then
        s.handleAction lib header sid maxSequenceGap maxSequenceGapLogged
      else if header.messageType = MessageType.reloadRequest then
        s.handleReloadMsg lib header sid
      else if header.messageType = MessageType.disconnect then
        s.handleDisconnectMsg lib header sid
      else
        Handled.reject ErrorCode.protocolError
          (text "Unknown message type: " ++ truncField header.messageType 64)
          (text "[WebSocketSession] Unknown message type '" ++ truncField header.messageType 64 ++
            text "' from " ++ sanitizeSessionId sid)

/-- The dispatch at the end of `on_read`. -/
def handle (message : Text) (maxSequenceGap maxSequenceGapLogged : Int64) : Handled :=
  if s.state = .unauthenticated then s.handleHandshakeMessage lib message
  else s.handleAuthenticatedMessage lib message maxSequenceGap maxSequenceGapLogged

end Handlers

/-! ## Which message gets which verdict

Each handler refuses, or it reaches the one other verdict that is its own. -/

section Verdicts

variable {lib : JsonLib} {s : WebsocketSession} {message : Text}
  {maxSequenceGap maxSequenceGapLogged seq requestedAmount : Int64} {header : ParsedMessageHeader}
  {sid : Text}

theorem validateSessionId_rejects {provided : Text} {refusal : Handled}
    (h : s.validateSessionId provided = some refusal) : refusal.verdict.Rejects := by
  unfold validateSessionId at h
  split_ifs at h <;> obtain rfl := Option.some.inj h <;> exact ⟨_, _, rfl⟩

theorem validateSessionId_eq_none_of_format {provided : Text}
    (h : validateSessionIdFormat provided = true) :
    s.validateSessionId provided = none ↔ provided = s.sessionId := by
  obtain ⟨hmin, hmax⟩ := length_of_validateSessionIdFormat h
  have hne : provided ≠ [] := by
    rintro rfl
    simp at hmin
  simp [validateSessionId, hne, Config.maxSessionIdLength, Nat.not_lt.mpr hmax]

theorem handleHandshakeMessage_cases :
    (s.handleHandshakeMessage lib message).verdict.Rejects ∨
      (s.handleHandshakeMessage lib message).verdict = .register := by
  unfold handleHandshakeMessage
  dsimp only
  split
  · exact .inl ⟨_, _, rfl⟩
  · split
    · exact .inl ⟨_, _, rfl⟩
    · split
      · exact .inr rfl
      · exact .inl ⟨_, _, rfl⟩

theorem handleAction_cases :
    (s.handleAction lib header sid maxSequenceGap maxSequenceGapLogged).verdict.Rejects ∨
      ∃ seq, (s.handleAction lib header sid maxSequenceGap maxSequenceGapLogged).verdict =
        .acceptAction seq := by
  unfold handleAction
  dsimp only
  split
  · exact .inl ⟨_, _, rfl⟩
  · split
    · rename_i hrefusal
      exact .inl (validateSessionId_rejects hrefusal)
    · split
      · exact .inl ⟨_, _, rfl⟩
      · split
        · exact .inl ⟨_, _, rfl⟩
        · exact .inr ⟨_, rfl⟩

theorem handleReloadMsg_cases :
    (s.handleReloadMsg lib header sid).verdict.Rejects ∨
      ∃ amount, (s.handleReloadMsg lib header sid).verdict = .acceptReload amount := by
  unfold handleReloadMsg
  dsimp only
  split
  · exact .inl ⟨_, _, rfl⟩
  · split
    · rename_i hrefusal
      exact .inl (validateSessionId_rejects hrefusal)
    · exact .inr ⟨_, rfl⟩

theorem handleDisconnectMsg_cases :
    (s.handleDisconnectMsg lib header sid).verdict.Rejects ∨
      (s.handleDisconnectMsg lib header sid).verdict = .disconnect := by
  unfold handleDisconnectMsg
  dsimp only
  split
  · exact .inl ⟨_, _, rfl⟩
  · split
    · rename_i hrefusal
      exact .inl (validateSessionId_rejects hrefusal)
    · exact .inr rfl

/-- An ACTION is accepted when it parses, names the session, and has a sequence number
that is new and not too far ahead. -/
theorem handleAction_eq_acceptAction :
    (s.handleAction lib header sid maxSequenceGap maxSequenceGapLogged).verdict =
        .acceptAction seq ↔
      ∃ action, (parseActionFromEnvelope lib header.envelopeJson).value = some action ∧
        action.sessionId = s.sessionId ∧ action.sequenceNumber = seq ∧
        s.lastSequenceNumber < seq ∧
        seq.toUInt64 - s.lastSequenceNumber.toUInt64 ≤ maxSequenceGap.toUInt64 := by
  unfold handleAction
  dsimp only
  cases hparse : (parseActionFromEnvelope lib header.envelopeJson).value with
  | none => simp [Handled.after, Handled.reject]
  | some action =>
      have hid := validateSessionId_eq_none_of_format (s := s) (sessionId_of_parseAction hparse)
      simp only [Option.some.injEq, exists_eq_left']
      cases hrefusal : s.validateSessionId action.sessionId with
      | some refusal =>
          obtain ⟨errorCode, msg, hreject⟩ := validateSessionId_rejects hrefusal
          have hne : action.sessionId ≠ s.sessionId := fun heq => by
            simp [hid.mpr heq] at hrefusal
          simp [hreject, hne]
      | none =>
          simp only [hid.mp hrefusal, true_and]
          split
          · rename_i hold
            have hnot : action.sequenceNumber = seq → ¬ s.lastSequenceNumber < seq := by
              rintro rfl
              exact Int64.not_lt.mpr hold
            simp only [Handled.reject, reduceCtorEq, false_iff]
            exact fun h => hnot h.1 h.2.1
          · rename_i hnew
            split
            · rename_i hfar
              simp only [Handled.reject, reduceCtorEq, false_iff]
              rintro ⟨rfl, _, hnear⟩
              exact UInt64.not_le.mpr hfar hnear
            · rename_i hnear
              simp only [Verdict.acceptAction.injEq]
              constructor
              · rintro rfl
                exact ⟨rfl, Int64.not_le.mp hnew, UInt64.not_lt.mp hnear⟩
              · exact And.left

/-- A RELOAD_REQUEST is accepted when it parses and names the session. -/
theorem handleReloadMsg_eq_acceptReload :
    (s.handleReloadMsg lib header sid).verdict = .acceptReload requestedAmount ↔
      ∃ reload, (parseReloadFromEnvelope lib header.envelopeJson).value = some reload ∧
        reload.sessionId = s.sessionId ∧ reload.requestedAmount = requestedAmount := by
  unfold handleReloadMsg
  dsimp only
  cases hparse : (parseReloadFromEnvelope lib header.envelopeJson).value with
  | none => simp [Handled.after, Handled.reject]
  | some reload =>
      have hid := validateSessionId_eq_none_of_format (s := s) (sessionId_of_parseReload hparse)
      simp only [Option.some.injEq, exists_eq_left']
      cases hrefusal : s.validateSessionId reload.sessionId with
      | some refusal =>
          obtain ⟨errorCode, msg, hreject⟩ := validateSessionId_rejects hrefusal
          have hne : reload.sessionId ≠ s.sessionId := fun heq => by
            simp [hid.mpr heq] at hrefusal
          simp [hreject, hne]
      | none => simp [hid.mp hrefusal]

/-- The handler that gives a verdict which is no refusal, and the type of its messages. -/
def Routes (lib : JsonLib) (s : WebsocketSession) (header : ParsedMessageHeader)
    (maxSequenceGap maxSequenceGapLogged : Int64) : Verdict → Prop
  | .acceptAction seq =>
      header.messageType = MessageType.action ∧
        (s.handleAction lib header s.sessionId maxSequenceGap maxSequenceGapLogged).verdict =
          .acceptAction seq
  | .acceptReload requestedAmount =>
      header.messageType = MessageType.reloadRequest ∧
        (s.handleReloadMsg lib header s.sessionId).verdict = .acceptReload requestedAmount
  | .disconnect =>
      header.messageType = MessageType.disconnect ∧
        (s.handleDisconnectMsg lib header s.sessionId).verdict = .disconnect
  | .register | .reject _ _ => False

/-- The dispatch on the message type. -/
theorem handleAuthenticatedMessage_cases :
    (s.handleAuthenticatedMessage lib message maxSequenceGap maxSequenceGapLogged).verdict.Rejects ∨
      ∃ header, (extractMessageTypeAndJson lib message).value = some header ∧
        Routes lib s header maxSequenceGap maxSequenceGapLogged
          (s.handleAuthenticatedMessage lib message maxSequenceGap maxSequenceGapLogged).verdict := by
  unfold handleAuthenticatedMessage
  dsimp only
  split
  · exact .inl ⟨_, _, rfl⟩
  · rename_i header hheader
    split
    · refine handleAction_cases.imp_right fun ⟨seq, hverdict⟩ => ⟨header, hheader, ?_⟩
      rw [hverdict]
      exact ⟨‹_›, hverdict⟩
    · split
      · refine handleReloadMsg_cases.imp_right fun ⟨amount, hverdict⟩ => ⟨header, hheader, ?_⟩
        rw [hverdict]
        exact ⟨‹_›, hverdict⟩
      · split
        · refine handleDisconnectMsg_cases.imp_right fun hverdict => ⟨header, hheader, ?_⟩
          rw [hverdict]
          exact ⟨‹_›, hverdict⟩
        · exact .inl ⟨_, _, rfl⟩

theorem handle_of_state (h : s.state ≠ .unauthenticated) :
    s.handle lib message maxSequenceGap maxSequenceGapLogged =
      s.handleAuthenticatedMessage lib message maxSequenceGap maxSequenceGapLogged := by
  simp [handle, h]

/-- Only an unauthenticated session registers. -/
theorem state_of_register
    (h : (s.handle lib message maxSequenceGap maxSequenceGapLogged).verdict = .register) :
    s.state = .unauthenticated := by
  by_contra hstate
  rw [handle_of_state hstate] at h
  rcases handleAuthenticatedMessage_cases with ⟨_, _, hreject⟩ | ⟨header, -, hroutes⟩
  · rw [hreject] at h
    cases h
  · rw [h] at hroutes
    exact hroutes

/-- A session that is unauthenticated accepts nothing but a handshake. -/
theorem state_of_accept (h : ¬ (s.handle lib message maxSequenceGap maxSequenceGapLogged).verdict.Rejects)
    (hne : (s.handle lib message maxSequenceGap maxSequenceGapLogged).verdict ≠ .register) :
    s.state ≠ .unauthenticated := by
  intro hstate
  rw [handle, if_pos hstate] at h hne
  exact handleHandshakeMessage_cases.elim h hne

/-- A verdict which is neither a refusal nor that of a handshake is given by the handler of the
message's type. -/
theorem handle_eq_iff_routes {verdict : Verdict} (hrejects : ¬ verdict.Rejects)
    (hregister : verdict ≠ .register) :
    (s.handle lib message maxSequenceGap maxSequenceGapLogged).verdict = verdict ↔
      s.state ≠ .unauthenticated ∧
        ∃ header, (extractMessageTypeAndJson lib message).value = some header ∧
          Routes lib s header maxSequenceGap maxSequenceGapLogged verdict := by
  constructor
  · rintro rfl
    have hstate := state_of_accept hrejects hregister
    rw [handle_of_state hstate] at hrejects ⊢
    exact ⟨hstate, handleAuthenticatedMessage_cases.resolve_left hrejects⟩
  · rintro ⟨hstate, header, hheader, hroutes⟩
    have hreload : MessageType.reloadRequest ≠ MessageType.action := by decide
    have hdisconnect : MessageType.disconnect ≠ MessageType.action := by decide
    have hdisconnect' : MessageType.disconnect ≠ MessageType.reloadRequest := by decide
    rw [handle_of_state hstate, handleAuthenticatedMessage, hheader]
    cases verdict with
    | acceptAction seq => simpa only [hroutes.1, if_true] using hroutes.2
    | acceptReload amount => simpa only [hroutes.1, hreload, if_false, if_true] using hroutes.2
    | disconnect =>
        simpa only [hroutes.1, hdisconnect, hdisconnect', if_false, if_true] using hroutes.2
    | register | reject => exact hroutes.elim

/-- Only `handle_action` accepts an ACTION. -/
theorem handle_eq_acceptAction :
    (s.handle lib message maxSequenceGap maxSequenceGapLogged).verdict = .acceptAction seq ↔
      s.state ≠ .unauthenticated ∧
        ∃ header, (extractMessageTypeAndJson lib message).value = some header ∧
          header.messageType = MessageType.action ∧
          (s.handleAction lib header s.sessionId maxSequenceGap maxSequenceGapLogged).verdict =
            .acceptAction seq :=
  handle_eq_iff_routes nofun nofun

/-- An accepted sequence number is new. -/
theorem lastSequenceNumber_lt_of_acceptAction
    (h : (s.handle lib message maxSequenceGap maxSequenceGapLogged).verdict = .acceptAction seq) :
    s.lastSequenceNumber < seq := by
  obtain ⟨_, _, _, _, haction⟩ := handle_eq_acceptAction.mp h
  obtain ⟨_, _, _, _, hnew, _⟩ := handleAction_eq_acceptAction.mp haction
  exact hnew

/-- Only `handle_reload_msg` accepts a RELOAD_REQUEST. -/
theorem handle_eq_acceptReload :
    (s.handle lib message maxSequenceGap maxSequenceGapLogged).verdict =
        .acceptReload requestedAmount ↔
      s.state ≠ .unauthenticated ∧
        ∃ header, (extractMessageTypeAndJson lib message).value = some header ∧
          header.messageType = MessageType.reloadRequest ∧
          (s.handleReloadMsg lib header s.sessionId).verdict = .acceptReload requestedAmount :=
  handle_eq_iff_routes nofun nofun

/-- A DISCONNECT is accepted when it parses and names the session. -/
theorem handleDisconnectMsg_eq_disconnect (hvalid : ∀ disconnect,
    (parseDisconnectFromEnvelope lib header.envelopeJson).value = some disconnect →
      validateSessionIdFormat disconnect.sessionId = true) :
    (s.handleDisconnectMsg lib header sid).verdict = .disconnect ↔
      ∃ disconnect, (parseDisconnectFromEnvelope lib header.envelopeJson).value = some disconnect ∧
        disconnect.sessionId = s.sessionId := by
  unfold handleDisconnectMsg
  dsimp only
  cases hparse : (parseDisconnectFromEnvelope lib header.envelopeJson).value with
  | none => simp [Handled.after, Handled.reject]
  | some disconnect =>
      have hid := validateSessionId_eq_none_of_format (s := s) (hvalid _ hparse)
      simp only [Option.some.injEq, exists_eq_left']
      cases hrefusal : s.validateSessionId disconnect.sessionId with
      | some refusal =>
          obtain ⟨errorCode, msg, hreject⟩ := validateSessionId_rejects hrefusal
          have hne : disconnect.sessionId ≠ s.sessionId := fun heq => by
            simp [hid.mpr heq] at hrefusal
          simp [hreject, hne]
      | none => simp [hid.mp hrefusal]

/-- Only `handle_disconnect_msg` accepts a DISCONNECT. -/
theorem header_of_disconnect
    (h : (s.handle lib message maxSequenceGap maxSequenceGapLogged).verdict = .disconnect) :
    ∃ header, (extractMessageTypeAndJson lib message).value = some header ∧
      (s.handleDisconnectMsg lib header s.sessionId).verdict = .disconnect := by
  obtain ⟨-, header, hheader, -, hverdict⟩ :=
    (handle_eq_iff_routes (by nofun) (by nofun)).mp h
  exact ⟨header, hheader, hverdict⟩

end Verdicts

end WebsocketSession

end CppSim.Server
