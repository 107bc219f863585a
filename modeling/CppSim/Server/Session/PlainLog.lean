import CppSim.Common.PlainLines
import CppSim.Server.Session.Printing
import CppSim.Server.Session.ProtocolLines

/-!
# Control characters in the log of a session

The lines a session logs are literals with numbers, with session ids, with the texts of
exceptions and of the transport's errors, and with strings of the client.  Only the handlers of
messages log the strings of the client.

`ShowsPlainly` says of a message that the strings of it that are logged as they are, or cut but
otherwise as they are, have no control character: the version of an envelope or of a handshake,
the type of an action, and the type of a message.  `plainLog_of_step` says that a step logs a
control character exactly if it handles a message of which this is not true.
-/

namespace CppSim.Server

open Protocol

/-- The text of a line. -/
def LogLine.text : LogLine → Text
  | .message line | .error line | .protocol line => line

/-- No line has a control character. -/
def PlainLog (log : List LogLine) : Prop := ∀ line ∈ log, IsPlain line.text

section PlainLog

variable {line : Text} {log first second : List LogLine}

theorem plainLog_nil : PlainLog [] := by
  intro line hline
  cases hline

theorem plainLog_error : PlainLog (.error line :: log) ↔ IsPlain line ∧ PlainLog log :=
  List.forall_mem_cons

theorem plainLog_append : PlainLog (first ++ second) ↔ PlainLog first ∧ PlainLog second :=
  List.forall_mem_append

theorem plainLog_map_protocol {lines : List Text} :
    PlainLog (lines.map .protocol) ↔ LinesPlain lines := List.forall_mem_map

theorem plainLog_error_singleton : PlainLog [.error line] ↔ IsPlain line :=
  List.forall_mem_singleton

theorem plainLog_message_singleton : PlainLog [.message line] ↔ IsPlain line :=
  List.forall_mem_singleton

/-- A line that is one literal. -/
theorem plainLog_literal {chars : List Char} (h : chars.all plainChar = true) :
    PlainLog [.error (text (String.ofList chars))] :=
  plainLog_error_singleton.mpr (isPlain_text h)

theorem plainLog_after {lines : List Text} {h : Handled} :
    PlainLog (h.after lines).log ↔ LinesPlain lines ∧ PlainLog h.log := by
  rw [Handled.after, plainLog_append, plainLog_map_protocol]

end PlainLog

/-! ## The handlers -/

/-- If the message is a HANDSHAKE, what is shown of its version is plain. -/
def HandshakeShowsPlainly (lib : JsonLib) (message : Text) : Prop :=
  ∀ j version payload, lib.parse message = .ok j → IsHandshake version j payload →
    IsPlain (version.take 32)

/-- The types of the messages that are parsed after authentication. -/
def requestTypes : List Text :=
  [MessageType.action, MessageType.reloadRequest, MessageType.disconnect]

/-- What is shown of the message after authentication is plain: the type in its header, the
version of an envelope of the types that are parsed, and the type of an action. -/
structure RequestShowsPlainly (j : Json) : Prop where
  messageType : ∀ messageType, j.field? (text "message_type") = some (.string messageType) →
    messageType.length ≤ maxMessageTypeLength → IsPlain messageType
  version : ∀ messageType ∈ requestTypes, ShowsVersionPlainly messageType j
  actionType : ∀ m, Carries ActionMessage.fromJson MessageType.action protocolVersion j m →
    m.ShowsPlainly

/-- What a session in this state shows of the message is plain. -/
def ShowsPlainly (lib : JsonLib) (state : SessionState) (message : Text) : Prop :=
  if state = .unauthenticated then HandshakeShowsPlainly lib message
  else ∀ j, lib.parse message = .ok j → RequestShowsPlainly j

section Handlers

variable {lib : JsonLib} {s : WebsocketSession} {message sid : Text} {gap logged : Int64}
  {header : ParsedMessageHeader} {j : Json}

namespace WebsocketSession

theorem plainLog_validateSessionId {provided : Text} {refusal : Handled}
    (hsession : IsPlain s.sessionId) (hprovided : IsPlain provided)
    (h : s.validateSessionId provided = some refusal) : PlainLog refusal.log := by
  have hmismatch : IsPlain (text "[WebSocketSession] Session ID mismatch: expected ") :=
    isPlain_text rfl
  have hlong : IsPlain (text "[WebSocketSession] Session ID too long: ") := isPlain_text rfl
  have hgreater : IsPlain (text " > ") := isPlain_text rfl
  have hgot : IsPlain (text ", got ") := isPlain_text rfl
  unfold validateSessionId at h
  split_ifs at h <;> cases Option.some.inj h
  · exact plainLog_literal rfl
  · exact plainLog_error_singleton.mpr (((hlong.append (isPlain_toText _)).append hgreater).append
      (isPlain_toText _))
  · exact plainLog_error_singleton.mpr (((hmismatch.append hsession.sanitizeSessionId).append
      hgot).append hprovided.sanitizeSessionId)

/-- The handshakes of a version are accepted, apart from the empty one, which is plain. -/
theorem handshakeShowsPlainly_iff : HandshakeShowsPlainly lib message ↔
    ∀ m, (parseHandshake lib message).value = some m → IsPlain (m.protocolVersion.take 32) := by
  constructor
  · intro h m hm
    obtain ⟨-, j, payload, hparse, hhandshake⟩ := exists_parseHandshake_eq_some.mp ⟨m, hm, rfl⟩
    exact h j m.protocolVersion payload hparse hhandshake
  · intro h j version payload hparse hhandshake
    by_cases hempty : version = []
    · rw [hempty]
      exact isPlain_nil
    · obtain ⟨m, hm, rfl⟩ :=
        exists_parseHandshake_eq_some.mpr ⟨hempty, j, payload, hparse, hhandshake⟩
      exact h m hm

theorem plainLog_handleHandshakeMessage (hlib : lib.DescribesPlainly) :
    PlainLog (s.handleHandshakeMessage lib message).log ↔ HandshakeShowsPlainly lib message := by
  rw [handshakeShowsPlainly_iff]
  unfold handleHandshakeMessage
  dsimp only
  split
  · rename_i hnone
    refine iff_of_true ?_ fun m hm => ?_
    · exact plainLog_after.mpr ⟨linesPlain_parseHandshake hlib, plainLog_literal rfl⟩
    · rw [hnone] at hm
      cases hm
  · rename_i handshake hsome
    simp only [hsome, Option.some.injEq, forall_eq']
    split
    · have hbegin : IsPlain (text "[WebSocketSession] Handshake error: Incompatible version ") :=
        isPlain_text rfl
      rw [Handled.reject, plainLog_error_singleton, isPlain_append_iff, isPlain_truncField]
      exact and_iff_right hbegin
    · rename_i hversion
      push Not at hversion
      have hplain : IsPlain handshake.protocolVersion := by
        rw [hversion]
        exact isPlain_text rfl
      refine iff_of_true ?_ (hplain.take 32)
      have hnamed : ∀ name, handshake.clientName = some name → PlainLog
          [LogLine.message (text "[WebSocketSession] Client Name: " ++ truncField name 32)] := by
        intro name hname
        obtain ⟨_, -, -, hvalid⟩ := parseHandshake_eq_some.mp hsome
        have hbegin : IsPlain (text "[WebSocketSession] Client Name: ") := isPlain_text rfl
        have hprintable := isPlain_of_printable (hvalid.clientName name hname).printable
        exact plainLog_message_singleton.mpr
          (hbegin.append (isPlain_truncField.mpr (hprintable.take 32)))
      cases hname : handshake.clientName with
      | none =>
          split
          · exact plainLog_nil
          · exact plainLog_append.mpr ⟨plainLog_nil, plainLog_literal rfl⟩
      | some name =>
          split
          · exact hnamed name hname
          · exact plainLog_append.mpr ⟨hnamed name hname, plainLog_literal rfl⟩

theorem plainLog_handleAction (hsession : IsPlain s.sessionId) (hsid : IsPlain sid) :
    PlainLog (s.handleAction lib header sid gap logged).log ↔
      LinesPlain (parseActionFromEnvelope lib header.envelopeJson).log := by
  have hfailed : IsPlain (text "[WebSocketSession] Failed to parse ACTION message from ") :=
    isPlain_text rfl
  have hold : IsPlain (text "[WebSocketSession] Invalid sequence number ") := isPlain_text rfl
  have hexpected : IsPlain (text " (expected > ") := isPlain_text rfl
  have hclose : IsPlain (text ")") := isPlain_text rfl
  have hfar : IsPlain (text "[WebSocketSession] Sequence number too far ahead: ") := isPlain_text rfl
  have hgap : IsPlain (text " (gap: ") := isPlain_text rfl
  have hmax : IsPlain (text ", max allowed: ") := isPlain_text rfl
  have hvalidated : IsPlain (text "[WebSocketSession] Validated ACTION from ") := isPlain_text rfl
  have htype : IsPlain (text ": type=") := isPlain_text rfl
  have hseq : IsPlain (text " seq=") := isPlain_text rfl
  unfold handleAction
  dsimp only
  split
  · rw [plainLog_after]
    exact and_iff_left (plainLog_error_singleton.mpr (hfailed.append hsid.sanitizeSessionId))
  · rename_i action haction
    rw [show (parseActionFromEnvelope lib header.envelopeJson).log = [] from
      log_validate_parseFromEnvelope haction]
    refine iff_of_true ?_ linesPlain_nil
    split
    · rename_i refusal hrefusal
      have hprovided := isPlain_of_validateSessionIdFormat (sessionId_of_parseAction haction)
      exact plainLog_validateSessionId hsession hprovided hrefusal
    · split
      · exact plainLog_error_singleton.mpr ((((hold.append (isPlain_toText _)).append
          hexpected).append (isPlain_toText _)).append hclose)
      · split
        · exact plainLog_error_singleton.mpr ((((((hfar.append (isPlain_toText _)).append
            hgap).append (isPlain_toText _)).append hmax).append (isPlain_toText _)).append hclose)
        · -- the type of an accepted action is one of the known ones
          have hknown : ∀ t ∈ validActionTypes, IsPlain t := by decide +kernel
          have hvalid := (parseActionFromEnvelope_eq_some.mp haction).2
          have hplain := hknown _ hvalid.actionType
          exact plainLog_message_singleton.mpr (((((hvalidated.append hsid.sanitizeSessionId).append
            htype).append hplain).append hseq).append (isPlain_toText _))

theorem plainLog_handleReloadMsg (hsession : IsPlain s.sessionId) (hsid : IsPlain sid) :
    PlainLog (s.handleReloadMsg lib header sid).log ↔
      LinesPlain (parseReloadFromEnvelope lib header.envelopeJson).log := by
  have hfailed : IsPlain (text "[WebSocketSession] Failed to parse RELOAD_REQUEST from ") :=
    isPlain_text rfl
  have hvalidated : IsPlain (text "[WebSocketSession] Validated RELOAD_REQUEST from ") :=
    isPlain_text rfl
  unfold handleReloadMsg
  dsimp only
  split
  · rw [plainLog_after]
    exact and_iff_left (plainLog_error_singleton.mpr (hfailed.append hsid.sanitizeSessionId))
  · rename_i reload hreload
    rw [show (parseReloadFromEnvelope lib header.envelopeJson).log = [] from
      log_validate_parseFromEnvelope hreload]
    refine iff_of_true ?_ linesPlain_nil
    split
    · rename_i refusal hrefusal
      have hprovided := isPlain_of_validateSessionIdFormat (sessionId_of_parseReload hreload)
      exact plainLog_validateSessionId hsession hprovided hrefusal
    · exact plainLog_message_singleton.mpr (hvalidated.append hsid.sanitizeSessionId)

theorem plainLog_handleDisconnectMsg (hsession : IsPlain s.sessionId) (hsid : IsPlain sid) :
    PlainLog (s.handleDisconnectMsg lib header sid).log ↔
      LinesPlain (parseDisconnectFromEnvelope lib header.envelopeJson).log := by
  have hfailed : IsPlain (text "[WebSocketSession] Failed to parse DISCONNECT from ") :=
    isPlain_text rfl
  have hvalidated : IsPlain (text "[WebSocketSession] Validated DISCONNECT from ") :=
    isPlain_text rfl
  unfold handleDisconnectMsg
  dsimp only
  split
  · rw [plainLog_after]
    exact and_iff_left (plainLog_error_singleton.mpr (hfailed.append hsid.sanitizeSessionId))
  · rename_i disconnect hdisconnect
    rw [show (parseDisconnectFromEnvelope lib header.envelopeJson).log = [] from
      log_validate_parseFromEnvelope hdisconnect]
    refine iff_of_true ?_ linesPlain_nil
    split
    · rename_i refusal hrefusal
      have hvalid := (parseDisconnectFromEnvelope_eq_some.mp hdisconnect).2
      have hprovided := isPlain_of_validateSessionIdFormat hvalid.sessionId
      exact plainLog_validateSessionId hsession hprovided hrefusal
    · exact plainLog_message_singleton.mpr (hvalidated.append hsid.sanitizeSessionId)

end WebsocketSession

/-- An envelope has the type that is under its key. -/
theorem showsVersionPlainly_of_ne {messageType : Text}
    (hne : j.field? (text "message_type") ≠ some (.string messageType)) :
    ShowsVersionPlainly messageType j := by
  intro version payload henvelope
  exact absurd (MessageEnvelope.fromJson_eq_ok.mp henvelope).1 hne

/-- A message without a header shows nothing. -/
theorem requestShowsPlainly_of_header_eq_none (hparse : lib.parse message = .ok j)
    (hnone : (extractMessageTypeAndJson lib message).value = none) : RequestShowsPlainly j := by
  have hlength : ∀ messageType ∈ requestTypes, messageType.length ≤ maxMessageTypeLength := by
    decide +kernel
  have hno : ∀ messageType : Text, messageType.length ≤ maxMessageTypeLength →
      j.field? (text "message_type") ≠ some (.string messageType) := by
    intro messageType hshort hfield
    have hheader : (extractMessageTypeAndJson lib message).value = some ⟨messageType, j⟩ :=
      extractMessageTypeAndJson_eq_some.mpr ⟨hparse, hfield, hshort⟩
    rw [hnone] at hheader
    cases hheader
  refine ⟨?_, ?_, ?_⟩
  · intro messageType hfield hshort
    exact absurd hfield (hno messageType hshort)
  · intro messageType hmem
    exact showsVersionPlainly_of_ne (hno messageType (hlength messageType hmem))
  · intro m hcarries
    exact absurd hcarries.field?_messageType (hno _ (hlength _ (by simp [requestTypes])))

/-- What a message with a header shows depends on its type. -/
theorem requestShowsPlainly_iff (hheader : (extractMessageTypeAndJson lib message).value = some header) :
    RequestShowsPlainly header.envelopeJson ↔
      IsPlain header.messageType ∧
        (header.messageType ∈ requestTypes →
          ShowsVersionPlainly header.messageType header.envelopeJson) ∧
        (header.messageType = MessageType.action → ∀ m,
          Carries ActionMessage.fromJson MessageType.action protocolVersion header.envelopeJson m →
            m.ShowsPlainly) := by
  obtain ⟨-, hfield, hlength⟩ := extractMessageTypeAndJson_eq_some.mp hheader
  constructor
  · intro h
    exact ⟨h.messageType _ hfield hlength, h.version _, fun _ => h.actionType⟩
  · rintro ⟨htype, hversion, haction⟩
    refine ⟨?_, ?_, ?_⟩
    · intro messageType hfield' _
      cases hfield.symm.trans hfield'
      exact htype
    · intro messageType hmem
      by_cases hsame : header.messageType = messageType
      · subst hsame
        exact hversion hmem
      · refine showsVersionPlainly_of_ne fun hfield' => hsame ?_
        exact Json.string.inj (Option.some.inj (hfield.symm.trans hfield'))
    · intro m hcarries
      have hsame := hfield.symm.trans hcarries.field?_messageType
      exact haction (Json.string.inj (Option.some.inj hsame)) m hcarries

theorem WebsocketSession.plainLog_handleAuthenticatedMessage (hlib : lib.DescribesPlainly)
    (hsession : IsPlain s.sessionId) :
    PlainLog (s.handleAuthenticatedMessage lib message gap logged).log ↔
      ∀ j, lib.parse message = .ok j → RequestShowsPlainly j := by
  have hinvalid : IsPlain (text "[WebSocketSession] Invalid message format from ") := isPlain_text rfl
  have hmissing : IsPlain (text ": missing message_type") := isPlain_text rfl
  have hunknown : IsPlain (text "[WebSocketSession] Unknown message type '") := isPlain_text rfl
  have hfrom : IsPlain (text "' from ") := isPlain_text rfl
  unfold handleAuthenticatedMessage
  dsimp only
  split
  · rename_i hnone
    refine iff_of_true (plainLog_after.mpr ⟨?_, ?_⟩) fun j hparse => ?_
    · exact linesPlain_extractMessageTypeAndJson hlib
    · exact plainLog_error_singleton.mpr
        ((hinvalid.append hsession.sanitizeSessionId).append hmissing)
    · exact requestShowsPlainly_of_header_eq_none hparse hnone
  · rename_i header hheader
    obtain ⟨hparse, hfield, hlength⟩ := extractMessageTypeAndJson_eq_some.mp hheader
    have hone : (∀ j, lib.parse message = .ok j → RequestShowsPlainly j) ↔
        RequestShowsPlainly header.envelopeJson := by
      constructor
      · exact fun h => h _ hparse
      · intro h j hparse'
        cases hparse.symm.trans hparse'
        exact h
    have hknown : ∀ t ∈ requestTypes, IsPlain t := by decide +kernel
    rw [hone, requestShowsPlainly_iff hheader]
    by_cases haction : header.messageType = MessageType.action
    · have htype : header.messageType ∈ requestTypes := by simp [requestTypes, haction]
      rw [if_pos haction, plainLog_handleAction hsession hsession,
        linesPlain_parseActionFromEnvelope hlib, ← haction]
      constructor
      · rintro ⟨hversion, hshows⟩
        exact ⟨hknown _ htype, fun _ => hversion, fun _ => hshows⟩
      · rintro ⟨-, hversion, hshows⟩
        exact ⟨hversion htype, hshows rfl⟩
    · rw [if_neg haction]
      by_cases hreload : header.messageType = MessageType.reloadRequest
      · have htype : header.messageType ∈ requestTypes := by simp [requestTypes, hreload]
        rw [if_pos hreload, plainLog_handleReloadMsg hsession hsession,
          linesPlain_parseReloadFromEnvelope hlib, ← hreload]
        constructor
        · exact fun hversion => ⟨hknown _ htype, fun _ => hversion, fun h => absurd h haction⟩
        · exact fun h => h.2.1 htype
      · rw [if_neg hreload]
        by_cases hdisconnect : header.messageType = MessageType.disconnect
        · have htype : header.messageType ∈ requestTypes := by simp [requestTypes, hdisconnect]
          rw [if_pos hdisconnect, plainLog_handleDisconnectMsg hsession hsession,
            linesPlain_parseDisconnectFromEnvelope hlib, ← hdisconnect]
          constructor
          · exact fun hversion => ⟨hknown _ htype, fun _ => hversion, fun h => absurd h haction⟩
          · exact fun h => h.2.1 htype
        · have htype : header.messageType ∉ requestTypes := by
            simp [requestTypes, haction, hreload, hdisconnect]
          rw [if_neg hdisconnect, Handled.reject, truncField_messageType hheader,
            plainLog_error_singleton]
          constructor
          · intro hline
            have hshown := (isPlain_append_iff.mp (isPlain_append_iff.mp hline).1).1
            exact ⟨(isPlain_append_iff.mp hshown).2, fun h => absurd h htype,
              fun h => absurd h haction⟩
          · exact fun h => ((hunknown.append h.1).append hfrom).append hsession.sanitizeSessionId

/-- A message is logged without a control character exactly if what is shown of it has none. -/
theorem WebsocketSession.plainLog_handle (hlib : lib.DescribesPlainly) (hsession : IsPlain s.sessionId) :
    PlainLog (s.handle lib message gap logged).log ↔ ShowsPlainly lib s.state message := by
  unfold handle ShowsPlainly
  split
  · exact plainLog_handleHandshakeMessage hlib
  · exact plainLog_handleAuthenticatedMessage hlib hsession

end Handlers

/-! ## The steps -/

/-- The text of an error that an operation of the transport or of the timer ended with. -/
def Action.what? : Action → Option Text
  | .onAccept (some (.other what)) | .onRead (.failed (.other what)) | .onWrite (some what)
  | .onDeadline _ what => some what
  | _ => none

section Steps

variable {lib : JsonLib} {s : WebsocketSession} {a : Action} {r : Reaction} {what : Text}

/-- The step logs no control character. -/
def Reaction.Plain (r : Reaction) : Prop := PlainLog r.log

namespace WebsocketSession

theorem plain_queueFullLine (hsession : IsPlain s.sessionId) : IsPlain s.queueFullLine.text := by
  have hfull : IsPlain (text "[WebSocketSession] Write queue full for session ") := isPlain_text rfl
  have hdropping : IsPlain (text ", dropping message") := isPlain_text rfl
  exact (hfull.append hsession.sanitizeSessionId).append hdropping

theorem plain_sendOnStrand {source : Source} {message : Text} {next : Next} {failed : Strand}
    {failure : List LogLine} (hsession : IsPlain s.sessionId) (h : PlainLog failure) :
    (s.sendOnStrand source message next failed failure).Plain := by
  unfold sendOnStrand
  split
  · exact h
  · exact plainLog_error.mpr ⟨plain_queueFullLine hsession, h⟩
  · exact plainLog_nil
  · exact plainLog_nil

theorem plain_sendFromCaller (message : Text) (hsession : IsPlain s.sessionId) :
    (s.sendFromCaller message).Plain := by
  unfold sendFromCaller
  split
  · exact plainLog_nil
  · exact plainLog_error.mpr ⟨plain_queueFullLine hsession, plainLog_nil⟩
  · exact plainLog_nil
  · exact plainLog_nil

theorem plain_sendProtocolError (errorCode message : Text) (after : After)
    (hsession : IsPlain s.sessionId) : (s.sendProtocolError lib errorCode message after).Plain := by
  have hfailed : IsPlain (text "[WebSocketSession] Failed to send protocol error for session ") :=
    isPlain_text rfl
  simp only [sendProtocolError]
  split
  · exact plainLog_nil
  · exact plain_sendOnStrand hsession
      (plainLog_error_singleton.mpr (hfailed.append hsession.sanitizeSessionId))

theorem plain_onWrite (message : Text) (error : Option Text) (hsession : IsPlain s.sessionId)
    (hwhat : ∀ what ∈ error, IsPlain what) : (s.onWrite message error).Plain := by
  cases error with
  | some what =>
      have hwrite : IsPlain (text "[WebSocketSession] Write error for ") := isPlain_text rfl
      have hcolon : IsPlain (text ": ") := isPlain_text rfl
      have hdropped : IsPlain (text "[WebSocketSession] Dropped ") := isPlain_text rfl
      have hqueued : IsPlain (text " queued message(s) on write error") := isPlain_text rfl
      simp only [onWrite, Reaction.Plain]
      refine plainLog_error.mpr ⟨?_, ?_⟩
      · exact ((hwrite.append hsession.sanitizeSessionId).append hcolon).append (hwhat what rfl)
      · split
        · exact plainLog_error_singleton.mpr ((hdropped.append (isPlain_toText _)).append hqueued)
        · exact plainLog_nil
  | none =>
      simp only [onWrite]
      split
      · exact plainLog_nil
      · split <;> exact plainLog_nil

theorem plain_onAccept (error : Option TransportError)
    (hwhat : ∀ what, error = some (.other what) → IsPlain what) : (s.onAccept error).Plain := by
  have hfailed : IsPlain (text "[WebSocketSession] Accept failed: ") := isPlain_text rfl
  cases error with
  | some error =>
      simp only [onAccept]
      split
      · exact plainLog_nil
      · cases error with
        | closed => cases s.closeRequested <;> exact plainLog_nil
        | other what =>
            cases s.closeRequested with
            | true => exact plainLog_nil
            | false => exact plainLog_error_singleton.mpr (hfailed.append (hwhat what rfl))
  | none =>
      simp only [onAccept]
      split
      · exact plainLog_nil
      · exact plainLog_message_singleton.mpr (isPlain_text rfl)

theorem plain_onReadError (error : TransportError) (hsession : IsPlain s.sessionId)
    (hwhat : ∀ what, error = .other what → IsPlain what) : (s.onReadError error).Plain := by
  have hgone : IsPlain (text "[WebSocketSession] Client disconnected: ") := isPlain_text rfl
  have hearly : IsPlain (text "[WebSocketSession] Read error (unauthenticated): ") := isPlain_text rfl
  have hread : IsPlain (text "[WebSocketSession] Read error for ") := isPlain_text rfl
  have hcolon : IsPlain (text ": ") := isPlain_text rfl
  cases error with
  | closed =>
      simp only [onReadError, Reaction.Plain]
      split
      · exact plainLog_message_singleton.mpr (isPlain_text rfl)
      · exact plainLog_message_singleton.mpr (hgone.append hsession.sanitizeSessionId)
  | other what =>
      simp only [onReadError, Reaction.Plain]
      split
      · exact plainLog_error_singleton.mpr (hearly.append (hwhat what rfl))
      · exact plainLog_error_singleton.mpr
          (((hread.append hsession.sanitizeSessionId).append hcolon).append (hwhat what rfl))

theorem plain_onRead (result : ReadResult) (hsession : IsPlain s.sessionId)
    (hwhat : ∀ what, result = .failed (.other what) → IsPlain what) : (s.onRead result).Plain := by
  have hlimit : IsPlain (text "[WebSocketSession] Rate limit exceeded (max ") := isPlain_text rfl
  have hwindow : IsPlain (text " messages per window) for session ") := isPlain_text rfl
  unfold onRead
  split
  · exact plainLog_nil
  · cases result with
    | failed error =>
        exact plain_onReadError error hsession fun what herror => hwhat what (by rw [herror])
    | message message rateLimitWindow maxMessages maxMessagesLogged =>
        dsimp only
        split
        · refine plainLog_error_singleton.mpr
            (((hlimit.append (isPlain_toText _)).append hwindow).append ?_)
          split
          · exact isPlain_text rfl
          · exact hsession.sanitizeSessionId
        · exact plainLog_nil

theorem plain_registrationFailed {lines : List LogLine} (h : PlainLog lines) :
    (s.registrationFailed lines).Plain := plainLog_append.mpr ⟨h, plainLog_literal rfl⟩

theorem plain_generated (attempt : ℕ) (newSessionId : Text) :
    (s.generated attempt newSessionId).Plain := by
  unfold generated
  split
  · exact plain_registrationFailed (plainLog_literal rfl)
  · split
    · exact plain_registrationFailed (plainLog_literal rfl)
    · exact plainLog_nil

theorem plain_emplaced (attempt : ℕ) {newSessionId : Text} (result : EmplaceResult)
    (hnew : IsPlain newSessionId) : (s.emplaced attempt newSessionId result).Plain := by
  have hmaximum : IsPlain (text "[ConnectionManager] Maximum connections reached (") :=
    isPlain_text rfl
  have hclose : IsPlain (text ")") := isPlain_text rfl
  have hcollision : IsPlain (text "[ConnectionManager] Session ID collision (attempt ") :=
    isPlain_text rfl
  have hretrying : IsPlain (text "), retrying: ") := isPlain_text rfl
  have hregistered : IsPlain (text "[ConnectionManager] Registered session: ") := isPlain_text rfl
  have htotal : IsPlain (text " (total: ") := isPlain_text rfl
  cases result with
  | success count =>
      exact plainLog_message_singleton.mpr ((((hregistered.append hnew.sanitizeSessionId).append
        htotal).append (isPlain_toText _)).append hclose)
  | maxConnections =>
      exact plain_registrationFailed (plainLog_error_singleton.mpr
        ((hmaximum.append (isPlain_toText _)).append hclose))
  | collision =>
      have hline := ((hcollision.append (isPlain_toText (attempt + 1))).append hretrying).append
        hnew.sanitizeSessionId
      simp only [emplaced]
      split
      · exact plainLog_error_singleton.mpr hline
      · exact plain_registrationFailed (plainLog_error.mpr ⟨hline, plainLog_literal rfl⟩)

theorem plain_handlerThrew (hwhat : IsPlain what) : (s.handlerThrew what).Plain := by
  have hthrew : IsPlain (text "[WebSocketSession] Unhandled exception in message handler: ") :=
    isPlain_text rfl
  exact plainLog_error_singleton.mpr (hthrew.append hwhat)

theorem plain_sendResponse (hlib : lib.DescribesPlainly) {newSessionId : Text}
    (hsession : IsPlain s.sessionId) (hnew : IsPlain newSessionId) :
    (s.sendResponse lib newSessionId).Plain := by
  have hfailed : IsPlain (text
      "[WebSocketSession] Failed to send handshake response for session: ") := isPlain_text rfl
  simp only [sendResponse]
  split
  · rename_i hthrew
    exact plain_handlerThrew (hlib.dump _ _ hthrew)
  · exact plain_sendOnStrand hsession (plainLog_error_singleton.mpr (hfailed.append hnew))

theorem plain_authenticate {newSessionId : Text} (hnew : IsPlain newSessionId) :
    (s.authenticate newSessionId).Plain := by
  have hsuccess : IsPlain (text "[WebSocketSession] Handshake successful for session: ") :=
    isPlain_text rfl
  exact plainLog_message_singleton.mpr (hsuccess.append hnew.sanitizeSessionId)

theorem plain_sendReload (hlib : lib.DescribesPlainly) (requestedAmount newStack : Int64)
    (hsession : IsPlain s.sessionId) : (s.sendReload lib requestedAmount newStack).Plain := by
  have hfailed : IsPlain (text "[WebSocketSession] Failed to send RELOAD_RESPONSE to ") :=
    isPlain_text rfl
  simp only [sendReload]
  split
  · rename_i hthrew
    exact plain_handlerThrew (hlib.dump _ _ hthrew)
  · exact plain_sendOnStrand hsession
      (plainLog_error_singleton.mpr (hfailed.append hsession.sanitizeSessionId))

theorem plain_checkDeadline (result : TimerResult) (hsession : IsPlain s.sessionId)
    (hwhat : IsPlain what) : (s.checkDeadline what result).Plain := by
  have htimer : IsPlain (text "[WebSocketSession] Timer error: ") := isPlain_text rfl
  have hidle : IsPlain (text "[WebSocketSession] Idle timeout for session ") := isPlain_text rfl
  cases result with
  | aborted =>
      simp only [checkDeadline]
      split <;> exact plainLog_nil
  | failed =>
      simp only [checkDeadline]
      split
      · exact plainLog_nil
      · exact plainLog_error_singleton.mpr (htimer.append hwhat)
  | elapsed =>
      simp only [checkDeadline]
      cases s.state with
      | closed => exact plainLog_nil
      | unauthenticated => exact plainLog_literal rfl
      | authenticated =>
          exact plainLog_error_singleton.mpr (hidle.append hsession.sanitizeSessionId)

theorem plain_resume (hlib : lib.DescribesPlainly) (ids : IdsHold IsPlain s)
    (h : s.resume lib = some r) : r.Plain := by
  have hsession := ids.sessionId
  have hheld := ids.heldId
  unfold resume at h
  split at h <;> cases h
  · exact plain_sendProtocolError _ _ _ hsession
  · exact plainLog_nil
  · exact plainLog_nil
  · exact plainLog_nil
  · exact plainLog_nil
  · exact plainLog_nil
  · exact plainLog_nil
  · exact plainLog_nil
  · exact plainLog_nil
  · rename_i newSessionId hstrand
    exact plain_sendResponse hlib hsession (hheld newSessionId (by rw [hstrand]; rfl))
  · rename_i newSessionId hstrand
    exact plain_authenticate (hheld newSessionId (by rw [hstrand]; rfl))
  · exact plain_sendReload hlib _ _ hsession
  · exact plainLog_nil
  · exact plainLog_nil
  · exact plainLog_nil

theorem plain_start (hsession : IsPlain s.sessionId) (hwhat : ∀ what ∈ a.what?, IsPlain what)
    (h : s.start a = some r) : r.Plain := by
  unfold start at h
  split at h
  · split at h <;> cases h
    exact plain_onAccept _ fun what herror => hwhat what (by rw [herror]; rfl)
  · split at h <;> cases h
    exact plain_onRead _ hsession fun what hresult => hwhat what (by rw [hresult]; rfl)
  · split at h <;> cases h
    exact plain_onWrite _ _ hsession fun what herror => hwhat what (by
      rw [Option.mem_def.mp herror]; rfl)
  · split at h <;> cases h
    exact plainLog_nil
  · split at h <;> cases h
    exact plainLog_nil
  · obtain ⟨deadline, -, rfl⟩ := Option.map_eq_some_iff.mp h
    exact plain_checkDeadline _ hsession (hwhat _ rfl)
  · cases h

theorem plain_handleMessage {message : Text} {gap logged : Int64} (hlib : lib.DescribesPlainly)
    (hsession : IsPlain s.sessionId) :
    (s.handleMessage lib message gap logged).Plain ↔
      ((checkSuspiciousActivity s.now s.activity).2 = false → ShowsPlainly lib s.state message) := by
  have hburst : IsPlain (text "[WebSocketSession] Rapid message burst detected: ") := isPlain_text rfl
  have hfast : IsPlain (text " messages in < 1s") := isPlain_text rfl
  have hclosing : IsPlain (text
      "[WebSocketSession] Suspicious activity detected — closing session ") := isPlain_text rfl
  unfold handleMessage
  split
  · rename_i activity hcheck
    refine iff_of_true ?_ fun hcalm => ?_
    · exact plainLog_error.mpr ⟨(hburst.append (isPlain_toText _)).append hfast,
        plainLog_error_singleton.mpr (hclosing.append hsession.sanitizeSessionId)⟩
    · rw [hcheck] at hcalm
      cases hcalm
  · rename_i activity hcheck
    have hhandle : PlainLog (s.handle lib message gap logged).log ↔
        ShowsPlainly lib s.state message := plainLog_handle hlib hsession
    rw [hcheck, ← hhandle]
    dsimp only
    split <;> exact ⟨fun h _ => h, fun h => h rfl⟩

/-- A step logs a control character exactly if it handles a message that shows one. -/
theorem plain_of_step (hlib : lib.DescribesPlainly) (ids : IdsHold IsPlain s)
    (hwhat : ∀ what ∈ a.what?, IsPlain what) (h : s.step lib a = some r) :
    r.Plain ↔ ∀ message, s.Handles a message → ShowsPlainly lib s.state message := by
  have hsession := ids.sessionId
  have hother : r.Plain → (∀ gap logged, a ≠ .handleMessage gap logged) →
      (r.Plain ↔ ∀ message, s.Handles a message → ShowsPlainly lib s.state message) := by
    intro hplain hne
    refine iff_of_true hplain fun message hhandles => ?_
    obtain ⟨gap, logged, haction⟩ := hhandles.action
    exact absurd haction (hne gap logged)
  unfold step at h
  split at h
  · cases h
  · cases a with
    | handleMessage gap logged =>
        dsimp only at h
        split at h
        · rename_i message hstrand
          cases h
          rw [plain_handleMessage hlib hsession]
          constructor
          · intro hshows message' hhandles
            cases hstrand.symm.trans hhandles.strand
            exact hshows hhandles.calm
          · exact fun hall hcalm => hall message ⟨⟨gap, logged, rfl⟩, hstrand, hcalm⟩
        · cases h
    | resume => exact hother (plain_resume hlib ids h) (by simp)
    | onAccept | onRead | onWrite | doWrite | closeLambda | onDeadline =>
        dsimp only at h
        split at h
        · exact hother (plain_start hsession hwhat h) (by simp)
        · cases h
    | generated newSessionId =>
        dsimp only at h
        split at h <;> cases h
        exact hother (plain_generated _ _) (by simp)
    | emplaced result =>
        dsimp only at h
        split at h <;> cases h
        rename_i attempt newSessionId hstrand
        have hnew := ids.heldId newSessionId (by rw [hstrand]; rfl)
        exact hother (plain_emplaced _ _ hnew) (by simp)
    | send message =>
        cases h
        exact hother (plain_sendFromCaller message hsession) (by simp)
    | elapse =>
        obtain ⟨deadline, -, rfl⟩ := Option.map_eq_some_iff.mp h
        exact hother plainLog_nil (by simp)
    | dispatchClose =>
        dsimp only at h
        split at h
        · cases h
        · split at h <;> cases h <;> exact hother plainLog_nil (by simp)
    | tick | timerError | close | dropManager =>
        cases h
        exact hother plainLog_nil (by simp)
    | armDeadline | startAccept | rearm | postWrite | destroy =>
        dsimp only at h
        split at h <;> cases h
        exact hother plainLog_nil (by simp)

end WebsocketSession

end Steps

end CppSim.Server
