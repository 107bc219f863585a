import CppSim.Common.Protocol

/-!
# Parsing and validating client messages

The functions of `protocol.cpp` that turn a received text, or an envelope already
parsed, into a message.  Each returns an optional message and the lines it passes to
the protocol's error logger; `Logged` is that pair.

The one-shot parsers go through `parseFromEnvelope`, except for the handshake, which
reads the version without checking it so that its caller can answer with an error of
its own.
-/

namespace CppSim.Protocol

/-- A result and the lines logged on the way to it. -/
structure Logged (α : Type*) where
  value : α
  log : List Text

/-- A result without a log line. -/
def Logged.quiet {α : Type*} (value : α) : Logged α := ⟨value, []⟩

/-- A rejection with one log line. -/
def Logged.reject {α : Type*} (line : Text) : Logged (Option α) := ⟨none, [line]⟩

/-! ## Characters and session ids -/

def isPrintableAscii (c : UInt8) : Bool := 0x20 ≤ c && c < 0x7f

def isValidSessionIdChar (c : UInt8) : Bool :=
  (97 ≤ c && c ≤ 122) || (48 ≤ c && c ≤ 57) || c == 95

/-- `validate_session_id_format`: `sess_` and at least one lower-case letter, digit or
underscore, within the length limit. -/
def validateSessionIdFormat (sid : Text) : Bool :=
  6 ≤ sid.length && sid.length ≤ maxSessionIdLength && sid.take 5 == text "sess_" &&
    (sid.drop 5).all isValidSessionIdChar

/-- `validate_session_id_field`: the lines logged, none when the id is valid. -/
def validateSessionIdField (sessionId : Text) (messageName : Text) : List Text :=
  if sessionId = [] ∨ validateSessionIdFormat sessionId = false then
    [text "[Protocol] Invalid session_id in " ++ messageName ++ text " message"]
  else []

/-! ## Envelopes -/

/-- `MAX_MESSAGE_TYPE_LENGTH`. -/
def maxMessageTypeLength : ℕ := 32

/-- `MAX_CLIENT_NAME_LENGTH`. -/
def maxClientNameLength : ℕ := 128

/-- `MAX_DISCONNECT_REASON_LENGTH`. -/
def maxDisconnectReasonLength : ℕ := 256

structure ParsedMessageHeader where
  messageType : Text
  envelopeJson : Json

section Parse

variable (lib : JsonLib)

/-- `extract_message_type_and_json`. -/
def extractMessageTypeAndJson (jsonStr : Text) : Logged (Option ParsedMessageHeader) :=
  match lib.parse jsonStr with
  | .error what =>
      .reject (text "[Protocol] JSON parse error in extract_message_type: " ++ what)
  | .ok j =>
      match j.field? (text "message_type") with
      | some (.string messageType) =>
          if messageType.length > maxMessageTypeLength then
            .reject (text "[Protocol] message_type exceeds maximum length")
          else .quiet (some { messageType, envelopeJson := j })
      | _ => .reject (text "[Protocol] Missing or invalid 'message_type' field in message")

/-- `parse_from_envelope`. -/
def parseFromEnvelope {T : Type} (fromJson : Json → Except Exn T) (expectedType : Text)
    (messageName : Text) (envelopeJson : Json) : Logged (Option T) :=
  match MessageEnvelope.fromJson envelopeJson with
  | .error e =>
      .reject (text "[Protocol] " ++ messageName ++ text " Parse Error: " ++ e.what lib)
  | .ok envelope =>
      if envelope.messageType ≠ expectedType then .quiet none
      else if envelope.protocolVersion ≠ protocolVersion then
        .reject (text "[Protocol] " ++ messageName ++ text " version mismatch: expected " ++
          protocolVersion ++ text ", got " ++ envelope.protocolVersion)
      else
        match fromJson envelope.payload with
        | .error e =>
            .reject (text "[Protocol] " ++ messageName ++ text " Parse Error: " ++ e.what lib)
        | .ok msg => .quiet (some msg)

/-- `parse_message`. -/
def parseMessage {T : Type} (fromJson : Json → Except Exn T) (expectedType : Text)
    (messageName : Text) (jsonStr : Text) : Logged (Option T) :=
  match lib.parse jsonStr with
  | .error what => .reject (text "[Protocol] " ++ messageName ++ text " Parse Error: " ++ what)
  | .ok j => parseFromEnvelope lib fromJson expectedType messageName j

/-! ## Handshakes -/

/-- The checks `parse_handshake` makes of a client name, with the line of the first
that fails. -/
def checkClientName (name : Text) : List Text :=
  if name.length > maxClientNameLength then
    [text "[Protocol] Client name exceeds maximum length"]
  else if name.all isPrintableAscii = false then
    [text "[Protocol] Client name contains non-printable characters"]
  else if name.all (· == 32) then
    [text "[Protocol] Client name is blank/whitespace-only"]
  else []

/-- What is said of an optional name is said of a name. -/
theorem mem_checkClientName_of_elim {name : Option Text} {line : Text} {rest : List Text}
    (h : name.elim [] checkClientName = line :: rest) : ∃ n, line ∈ checkClientName n := by
  cases name with
  | none => cases h
  | some n =>
      have hcheck : checkClientName n = line :: rest := h
      exact ⟨n, by simp [hcheck]⟩

/-- `parse_handshake`. -/
def parseHandshake (jsonStr : Text) : Logged (Option HandshakeMessage) :=
  match lib.parse jsonStr with
  | .error what => .reject (text "[Protocol] Handshake Parse Error: " ++ what)
  | .ok j =>
      match MessageEnvelope.fromJson j with
      | .error e => .reject (text "[Protocol] Handshake Parse Error: " ++ e.what lib)
      | .ok envelope =>
          if envelope.messageType ≠ MessageType.handshake then .quiet none
          else
            match HandshakeMessage.fromJson envelope.payload with
            | .error e => .reject (text "[Protocol] Handshake Parse Error: " ++ e.what lib)
            | .ok msg =>
                if msg.protocolVersion = [] then
                  .reject (text "[Protocol] Empty protocol_version in HANDSHAKE message")
                else
                  match msg.clientName.elim [] checkClientName with
                  | line :: _ => .reject line
                  | [] =>
                      if msg.protocolVersion ≠ envelope.protocolVersion then
                        .reject (text
                          "[Protocol] Handshake version mismatch between payload and envelope")
                      else .quiet (some msg)

/-! ## Validation after decoding -/

def validActionTypes : List Text :=
  [ActionType.fold, ActionType.check, ActionType.call, ActionType.raise, ActionType.allIn]

def amountRequiredTypes : List Text := [ActionType.raise, ActionType.allIn]

def amountForbiddenTypes : List Text := [ActionType.fold, ActionType.check, ActionType.call]

/-- The checks of `validate_action`, with the line of the first that fails. -/
def checkAction (msg : ActionMessage) : List Text :=
  match validateSessionIdField msg.sessionId (text "ACTION") with
  | line :: _ => [line]
  | [] =>
      if msg.sequenceNumber < 0 then
        [text "[Protocol] Negative sequence_number in ACTION message"]
      else if msg.actionType = [] then [text "[Protocol] Empty action_type in ACTION message"]
      else if msg.actionType ∉ validActionTypes then
        [text "[Protocol] Invalid action_type: " ++ truncField msg.actionType 64]
      else if msg.amount.any (fun cents => cents ≤ 0 || cents > maxAmount) then
        [text "[Protocol] Invalid amount in action: must be positive and within bounds"]
      else if msg.actionType ∈ amountRequiredTypes ∧ msg.amount = none then
        [text "[Protocol] " ++ truncField msg.actionType 64 ++ text " action requires amount field"]
      else if msg.actionType ∈ amountForbiddenTypes ∧ msg.amount ≠ none then
        [text "[Protocol] " ++ truncField msg.actionType 64 ++
          text " action should not have amount field"]
      else []

/-- The checks of `validate_reload`. -/
def checkReload (msg : ReloadRequestMessage) : List Text :=
  match validateSessionIdField msg.sessionId (text "RELOAD_REQUEST") with
  | line :: _ => [line]
  | [] =>
      if msg.requestedAmount ≤ 0 ∨ msg.requestedAmount > maxAmount then
        [text "[Protocol] Invalid reload amount: must be positive and within bounds"]
      else []

/-- The checks of `validate_disconnect`. -/
def checkDisconnect (msg : DisconnectMessage) : List Text :=
  match validateSessionIdField msg.sessionId (text "DISCONNECT") with
  | line :: _ => [line]
  | [] =>
      match msg.reason with
      | none => []
      | some reason =>
          if reason.length > maxDisconnectReasonLength then
            [text "[Protocol] Disconnect reason exceeds maximum length"]
          else if reason.all isPrintableAscii = false then
            [text "[Protocol] Disconnect reason contains non-printable characters"]
          else []

/-- A decoded message is kept when no check of its type fails. -/
def validate {T : Type} (check : T → List Text) (result : Logged (Option T)) :
    Logged (Option T) :=
  match result.value with
  | none => result
  | some msg =>
      match check msg with
      | [] => result
      | lines => ⟨none, result.log ++ lines⟩

/-- `validate_action`. -/
def validateAction (result : Logged (Option ActionMessage)) : Logged (Option ActionMessage) :=
  validate checkAction result

/-- `validate_reload`. -/
def validateReload (result : Logged (Option ReloadRequestMessage)) :
    Logged (Option ReloadRequestMessage) :=
  validate checkReload result

/-- `validate_disconnect`. -/
def validateDisconnect (result : Logged (Option DisconnectMessage)) :
    Logged (Option DisconnectMessage) :=
  validate checkDisconnect result

/-! ## The parsers -/

/-- `parse_action`. -/
def parseAction (jsonStr : Text) : Logged (Option ActionMessage) :=
  validateAction
    (parseMessage lib ActionMessage.fromJson MessageType.action (text "Action") jsonStr)

/-- `parse_action_from_envelope`. -/
def parseActionFromEnvelope (envelopeJson : Json) : Logged (Option ActionMessage) :=
  validateAction
    (parseFromEnvelope lib ActionMessage.fromJson MessageType.action (text "Action") envelopeJson)

/-- `parse_reload_request`. -/
def parseReloadRequest (jsonStr : Text) : Logged (Option ReloadRequestMessage) :=
  validateReload (parseMessage lib ReloadRequestMessage.fromJson MessageType.reloadRequest
    (text "Reload Request") jsonStr)

/-- `parse_reload_from_envelope`. -/
def parseReloadFromEnvelope (envelopeJson : Json) : Logged (Option ReloadRequestMessage) :=
  validateReload (parseFromEnvelope lib ReloadRequestMessage.fromJson
    MessageType.reloadRequest (text "Reload Request") envelopeJson)

/-- `parse_disconnect`. -/
def parseDisconnect (jsonStr : Text) : Logged (Option DisconnectMessage) :=
  validateDisconnect (parseMessage lib DisconnectMessage.fromJson MessageType.disconnect
    (text "Disconnect") jsonStr)

/-- `parse_disconnect_from_envelope`. -/
def parseDisconnectFromEnvelope (envelopeJson : Json) : Logged (Option DisconnectMessage) :=
  validateDisconnect (parseFromEnvelope lib DisconnectMessage.fromJson
    MessageType.disconnect (text "Disconnect") envelopeJson)

end Parse

/-! ## What a validated message satisfies -/

section Validated

variable {lib : JsonLib} {T : Type} {check : T → List Text} {result : Logged (Option T)} {msg : T}

theorem validate_value_eq_some :
    (validate check result).value = some msg ↔ result.value = some msg ∧ check msg = [] := by
  unfold validate
  split
  · simp_all
  · rename_i m hm
    split
    · rename_i hcheck
      simp only [hm, Option.some.injEq]
      constructor
      · rintro rfl
        exact ⟨rfl, hcheck⟩
      · exact And.left
    · rename_i hcheck
      simp only [hm, Option.some.injEq, reduceCtorEq, false_iff, not_and]
      rintro rfl hnil
      exact hcheck hnil

theorem length_of_validateSessionIdFormat {sid : Text} (h : validateSessionIdFormat sid = true) :
    6 ≤ sid.length ∧ sid.length ≤ maxSessionIdLength := by
  simp only [validateSessionIdFormat, Bool.and_eq_true, decide_eq_true_eq] at h
  exact h.1.1

theorem validateSessionIdField_eq_nil {sid messageName : Text}
    (h : validateSessionIdField sid messageName = []) : validateSessionIdFormat sid = true := by
  unfold validateSessionIdField at h
  split at h
  · cases h
  · rename_i hvalid
    push Not at hvalid
    simpa using hvalid.2

/-- The session id of a parsed action is well formed. -/
theorem sessionId_of_parseAction {j : Json} {m : ActionMessage}
    (h : (parseActionFromEnvelope lib j).value = some m) :
    validateSessionIdFormat m.sessionId = true := by
  have hcheck := (validate_value_eq_some.mp h).2
  unfold checkAction at hcheck
  split at hcheck
  · cases hcheck
  · exact validateSessionIdField_eq_nil ‹_›

/-- The session id of a parsed reload request is well formed. -/
theorem sessionId_of_parseReload {j : Json} {m : ReloadRequestMessage}
    (h : (parseReloadFromEnvelope lib j).value = some m) :
    validateSessionIdFormat m.sessionId = true := by
  have hcheck := (validate_value_eq_some.mp h).2
  unfold checkReload at hcheck
  split at hcheck
  · cases hcheck
  · exact validateSessionIdField_eq_nil ‹_›

/-- A parsed reload request asks for a positive amount within bounds. -/
theorem requestedAmount_bounds {j : Json} {m : ReloadRequestMessage}
    (h : (parseReloadFromEnvelope lib j).value = some m) :
    0 < m.requestedAmount.toInt ∧ m.requestedAmount.toInt ≤ maxAmount.toInt := by
  have hcheck := (validate_value_eq_some.mp h).2
  unfold checkReload at hcheck
  split at hcheck
  · cases hcheck
  · split at hcheck
    · cases hcheck
    · rename_i hbounds
      push Not at hbounds
      exact ⟨by simpa [Int64.lt_iff_toInt_lt] using hbounds.1,
        by simpa [Int64.le_iff_toInt_le] using hbounds.2⟩

end Validated

/-! ## What a client sends -/

/-- The envelope of a client message. -/
def clientEnvelope (messageType : Text) (payload : List (Text × Json)) : Json :=
  MessageEnvelope.toJson { messageType, protocolVersion, payload := .ofFields payload }

def handshakeEnvelope : Json :=
  clientEnvelope MessageType.handshake [(text "protocol_version", .string protocolVersion)]

/-- A HANDSHAKE of another version. -/
def versionEnvelope (version : Text) : Json :=
  MessageEnvelope.toJson
    { messageType := MessageType.handshake, protocolVersion := version,
      payload := .ofFields [(text "protocol_version", .string version)] }

/-- A HANDSHAKE of an earlier version of the protocol. -/
def outdatedEnvelope : Json := versionEnvelope (text "v0.9")

/-- A FOLD. -/
def foldEnvelope (sessionId : Text) (sequenceNumber : Int64) : Json :=
  clientEnvelope MessageType.action [(text "session_id", .string sessionId),
    (text "action_type", .string ActionType.fold),
    (text "sequence_number", .integer sequenceNumber)]

def reloadEnvelope (sessionId : Text) (requestedAmount : Int64) : Json :=
  clientEnvelope MessageType.reloadRequest [(text "session_id", .string sessionId),
    (text "requested_amount", .integer requestedAmount)]

example : (parseHandshake (JsonLib.knowing [handshakeEnvelope]) (handshakeEnvelope.print 4)).value =
    some ⟨protocolVersion, none⟩ := by decide +kernel

end CppSim.Protocol
