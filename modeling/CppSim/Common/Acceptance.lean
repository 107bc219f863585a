import CppSim.Common.Parse

/-!
# What the parsers accept

A parser is a sequence of checks with an error path each.  Here its acceptance is one
statement: `Valid` lists the rules a message of the type obeys, `check…_eq_nil` says
that these are the rules the code checks, and `parse…_eq_some` that the parser returns
a message exactly when the text is an envelope of its type that decodes to a valid one.
-/

namespace CppSim.Protocol

/-! ## The rules -/

structure ValidClientName (name : Text) : Prop where
  length_le : name.length ≤ maxClientNameLength
  printable : name.all isPrintableAscii = true
  not_blank : ∃ c ∈ name, c ≠ 32

structure HandshakeMessage.Valid (m : HandshakeMessage) : Prop where
  version : m.protocolVersion ≠ []
  clientName : ∀ name ∈ m.clientName, ValidClientName name

structure ActionMessage.Valid (m : ActionMessage) : Prop where
  sessionId : validateSessionIdFormat m.sessionId = true
  sequenceNumber : 0 ≤ m.sequenceNumber
  actionType : m.actionType ∈ validActionTypes
  amount : ∀ cents ∈ m.amount, 0 < cents ∧ cents ≤ maxAmount
  /-- The amount is there exactly when the action takes one. -/
  amount_iff : m.amount.isSome = true ↔ m.actionType ∈ amountRequiredTypes

structure ReloadRequestMessage.Valid (m : ReloadRequestMessage) : Prop where
  sessionId : validateSessionIdFormat m.sessionId = true
  requestedAmount : 0 < m.requestedAmount ∧ m.requestedAmount ≤ maxAmount

structure DisconnectMessage.Valid (m : DisconnectMessage) : Prop where
  sessionId : validateSessionIdFormat m.sessionId = true
  reason_length : ∀ reason ∈ m.reason, reason.length ≤ maxDisconnectReasonLength
  reason_printable : ∀ reason ∈ m.reason, reason.all isPrintableAscii = true

/-! ## The checks check the rules -/

/-- A check that fails with one line lets the rest decide when it passes. -/
theorem ite_line_eq_nil {p : Prop} [Decidable p] {line : Text} {rest : List Text} :
    (if p then [line] else rest) = [] ↔ ¬p ∧ rest = [] := by
  split <;> simp_all

theorem checkClientName_eq_nil {name : Text} : checkClientName name = [] ↔ ValidClientName name := by
  simp only [checkClientName, ite_line_eq_nil, and_true]
  constructor
  · rintro ⟨hlength, hprintable, hblank⟩
    exact ⟨not_lt.mp hlength, by simpa using hprintable, by simpa using hblank⟩
  · rintro ⟨hlength, hprintable, hblank⟩
    exact ⟨not_lt.mpr hlength, by simp [hprintable], by simpa using hblank⟩

theorem HandshakeMessage.checkClientName_eq_nil {m : HandshakeMessage} :
    m.clientName.elim [] checkClientName = [] ↔ ∀ name ∈ m.clientName, ValidClientName name := by
  cases m.clientName with
  | none => simp
  | some name => simp [Protocol.checkClientName_eq_nil]

/-- A session id passes its check or is reported in one line. -/
theorem validateSessionIdField_cases (sid messageName : Text) :
    validateSessionIdField sid messageName = [] ∧ validateSessionIdFormat sid = true ∨
      ∃ line, validateSessionIdField sid messageName = [line] ∧
        ¬validateSessionIdFormat sid = true := by
  by_cases hformat : validateSessionIdFormat sid = true
  · have hlength := (length_of_validateSessionIdFormat hformat).1
    have hne : sid ≠ [] := by
      rintro rfl
      simp at hlength
    exact Or.inl ⟨by rw [validateSessionIdField, if_neg (by simp [hne, hformat])], hformat⟩
  · exact Or.inr ⟨_, by rw [validateSessionIdField, if_pos (by simp [hformat])], hformat⟩

/-- An action type forbids an amount or requires one. -/
theorem mem_amountForbiddenTypes {actionType : Text} (h : actionType ∈ validActionTypes) :
    actionType ∈ amountForbiddenTypes ↔ actionType ∉ amountRequiredTypes := by
  have hcases : ∀ t ∈ validActionTypes, t ∈ amountForbiddenTypes ↔ t ∉ amountRequiredTypes := by
    decide
  exact hcases actionType h

theorem ne_nil_of_mem_validActionTypes {actionType : Text} (h : actionType ∈ validActionTypes) :
    actionType ≠ [] := by
  rintro rfl
  revert h
  decide

theorem checkAction_eq_nil {m : ActionMessage} : checkAction m = [] ↔ m.Valid := by
  unfold checkAction
  rcases validateSessionIdField_cases m.sessionId (text "ACTION") with
    ⟨hfield, hid⟩ | ⟨line, hfield, hid⟩
  on_goal 2 => exact iff_of_false (by simp [hfield]) fun h => hid h.sessionId
  simp only [hfield, ite_line_eq_nil, and_true]
  constructor
  · rintro ⟨hsequence, -, htype, hamount, hrequired, hforbidden⟩
    push Not at htype
    rw [mem_amountForbiddenTypes htype] at hforbidden
    refine ⟨hid, Int64.not_lt.mp hsequence, htype, ?_, ?_⟩
    · intro cents hcents
      simpa [Option.mem_def.mp hcents] using hamount
    · rw [Option.isSome_iff_ne_none]
      tauto
  · rintro ⟨-, hsequence, htype, hamount, hiff⟩
    rw [Option.isSome_iff_ne_none] at hiff
    refine ⟨Int64.not_lt.mpr hsequence, ne_nil_of_mem_validActionTypes htype, not_not.mpr htype,
      ?_, ?_, ?_⟩
    · cases hcents : m.amount with
      | none => simp
      | some cents => simpa using hamount cents hcents
    · tauto
    · rw [mem_amountForbiddenTypes htype]
      tauto

theorem checkReload_eq_nil {m : ReloadRequestMessage} : checkReload m = [] ↔ m.Valid := by
  unfold checkReload
  rcases validateSessionIdField_cases m.sessionId (text "RELOAD_REQUEST") with
    ⟨hfield, hid⟩ | ⟨line, hfield, hid⟩
  on_goal 2 => exact iff_of_false (by simp [hfield]) fun h => hid h.sessionId
  simp only [hfield, ite_line_eq_nil, and_true, not_or]
  constructor
  · rintro ⟨hpositive, hbounded⟩
    exact ⟨hid, Int64.not_le.mp hpositive, Int64.not_lt.mp hbounded⟩
  · rintro ⟨-, hpositive, hbounded⟩
    exact ⟨Int64.not_le.mpr hpositive, Int64.not_lt.mpr hbounded⟩

theorem checkDisconnect_eq_nil {m : DisconnectMessage} : checkDisconnect m = [] ↔ m.Valid := by
  unfold checkDisconnect
  rcases validateSessionIdField_cases m.sessionId (text "DISCONNECT") with
    ⟨hfield, hid⟩ | ⟨line, hfield, hid⟩
  on_goal 2 => exact iff_of_false (by simp [hfield]) fun h => hid h.sessionId
  cases hreason : m.reason with
  | none =>
      simp only [hfield, true_iff]
      exact ⟨hid, by simp [hreason], by simp [hreason]⟩
  | some reason =>
      simp only [hfield, ite_line_eq_nil, and_true]
      constructor
      · rintro ⟨hlength, hprintable⟩
        refine ⟨hid, ?_, ?_⟩
        · simpa [hreason] using hlength
        · simpa [hreason] using hprintable
      · rintro ⟨-, hlength, hprintable⟩
        refine ⟨?_, ?_⟩
        · simpa using hlength reason hreason
        · simpa using hprintable reason hreason

/-! ## The parsers accept what the rules allow -/

section Accepts

variable {lib : JsonLib} {T : Type} {fromJson : Json → Except Exn T} {messageType name s : Text}
  {j : Json} {m : T}

/-- The value is an envelope of the type and version, and its payload decodes to `m`. -/
def Carries (fromJson : Json → Except Exn T) (messageType version : Text) (j : Json) (m : T) :
    Prop :=
  ∃ payload, MessageEnvelope.fromJson j = .ok ⟨messageType, version, payload⟩ ∧
    fromJson payload = .ok m

theorem parseFromEnvelope_eq_some :
    (parseFromEnvelope lib fromJson messageType name j).value = some m ↔
      Carries fromJson messageType protocolVersion j m := by
  unfold parseFromEnvelope Carries
  constructor
  · intro h
    split at h
    · cases h
    · rename_i envelope henvelope
      split at h
      · cases h
      · rename_i htype
        split at h
        · cases h
        · rename_i hversion
          split at h
          · cases h
          · rename_i msg hmsg
            push Not at htype hversion
            obtain rfl : msg = m := Option.some.inj h
            exact ⟨envelope.payload, by rw [henvelope, ← htype, ← hversion], hmsg⟩
  · rintro ⟨payload, henvelope, hm⟩
    simp only [henvelope, ne_eq, not_true_eq_false, if_false, hm]
    rfl

theorem parseMessage_eq_some :
    (parseMessage lib fromJson messageType name s).value = some m ↔
      ∃ j, lib.parse s = .ok j ∧ Carries fromJson messageType protocolVersion j m := by
  unfold parseMessage
  cases hparse : lib.parse s with
  | error what => simp [Logged.reject]
  | ok j => simp [parseFromEnvelope_eq_some]

/-- A validated parser accepts what is carried and passes its checks. -/
theorem validate_parseMessage_eq_some {check : T → List Text} :
    (validate check (parseMessage lib fromJson messageType name s)).value = some m ↔
      ∃ j, lib.parse s = .ok j ∧ Carries fromJson messageType protocolVersion j m ∧
        check m = [] := by
  rw [validate_value_eq_some, parseMessage_eq_some]
  constructor
  · rintro ⟨⟨j, hparse, hcarries⟩, hcheck⟩
    exact ⟨j, hparse, hcarries, hcheck⟩
  · rintro ⟨j, hparse, hcarries, hcheck⟩
    exact ⟨⟨j, hparse, hcarries⟩, hcheck⟩

theorem parseAction_eq_some {m : ActionMessage} :
    (parseAction lib s).value = some m ↔ ∃ j, lib.parse s = .ok j ∧
      Carries ActionMessage.fromJson MessageType.action protocolVersion j m ∧ m.Valid := by
  simp only [parseAction, validateAction, validate_parseMessage_eq_some, checkAction_eq_nil]

theorem parseReloadRequest_eq_some {m : ReloadRequestMessage} :
    (parseReloadRequest lib s).value = some m ↔ ∃ j, lib.parse s = .ok j ∧
      Carries ReloadRequestMessage.fromJson MessageType.reloadRequest protocolVersion j m ∧
        m.Valid := by
  simp only [parseReloadRequest, validateReload, validate_parseMessage_eq_some, checkReload_eq_nil]

theorem parseDisconnect_eq_some {m : DisconnectMessage} :
    (parseDisconnect lib s).value = some m ↔ ∃ j, lib.parse s = .ok j ∧
      Carries DisconnectMessage.fromJson MessageType.disconnect protocolVersion j m ∧
        m.Valid := by
  simp only [parseDisconnect, validateDisconnect, validate_parseMessage_eq_some,
    checkDisconnect_eq_nil]

theorem parseActionFromEnvelope_eq_some {m : ActionMessage} :
    (parseActionFromEnvelope lib j).value = some m ↔
      Carries ActionMessage.fromJson MessageType.action protocolVersion j m ∧ m.Valid := by
  rw [parseActionFromEnvelope, validateAction, validate_value_eq_some, parseFromEnvelope_eq_some,
    checkAction_eq_nil]

theorem parseReloadFromEnvelope_eq_some {m : ReloadRequestMessage} :
    (parseReloadFromEnvelope lib j).value = some m ↔
      Carries ReloadRequestMessage.fromJson MessageType.reloadRequest protocolVersion j m ∧
        m.Valid := by
  rw [parseReloadFromEnvelope, validateReload, validate_value_eq_some, parseFromEnvelope_eq_some,
    checkReload_eq_nil]

theorem parseDisconnectFromEnvelope_eq_some {m : DisconnectMessage} :
    (parseDisconnectFromEnvelope lib j).value = some m ↔
      Carries DisconnectMessage.fromJson MessageType.disconnect protocolVersion j m ∧
        m.Valid := by
  rw [parseDisconnectFromEnvelope, validateDisconnect, validate_value_eq_some,
    parseFromEnvelope_eq_some, checkDisconnect_eq_nil]

/-- The handshake is carried under the version it names itself, whichever that is. -/
theorem parseHandshake_eq_some {m : HandshakeMessage} :
    (parseHandshake lib s).value = some m ↔ ∃ j, lib.parse s = .ok j ∧
      Carries HandshakeMessage.fromJson MessageType.handshake m.protocolVersion j m ∧
        m.Valid := by
  unfold parseHandshake Carries
  constructor
  · intro h
    split at h
    · cases h
    · rename_i j hparse
      split at h
      · cases h
      · rename_i envelope henvelope
        split at h
        · cases h
        · rename_i htype
          split at h
          · cases h
          · rename_i msg hmsg
            split at h
            · cases h
            · rename_i hversion
              split at h
              · cases h
              · rename_i hname
                split at h
                · cases h
                · rename_i hsame
                  push Not at htype hsame
                  obtain rfl : msg = m := Option.some.inj h
                  refine ⟨j, hparse, ⟨envelope.payload, ?_, hmsg⟩, hversion, ?_⟩
                  · rw [henvelope, ← htype, hsame]
                  · exact HandshakeMessage.checkClientName_eq_nil.mp hname
  · rintro ⟨j, hparse, ⟨payload, henvelope, hm⟩, hversion, hname⟩
    simp only [hparse, henvelope, ne_eq, not_true_eq_false, if_false, hm, hversion,
      HandshakeMessage.checkClientName_eq_nil.mpr hname]
    rfl

theorem MessageEnvelope.fromJson_eq_ok {e : MessageEnvelope} :
    MessageEnvelope.fromJson j = .ok e ↔
      j.field? (text "message_type") = some (.string e.messageType) ∧
        j.field? (text "protocol_version") = some (.string e.protocolVersion) ∧
        j.field? (text "payload") = some e.payload := by
  simp only [fromJson, bind, except_bind_eq_ok]
  constructor
  · rintro ⟨type, htype, type', htype', version, hversion, version', hversion', payload, hpayload, he⟩
    cases Except.ok.inj he
    rw [Json.field?_of_atKey htype, Json.field?_of_atKey hversion, Json.field?_of_atKey hpayload,
      Json.eq_string_of_getString htype', Json.eq_string_of_getString hversion']
    exact ⟨rfl, rfl, rfl⟩
  · rintro ⟨htype, hversion, hpayload⟩
    exact ⟨_, Json.atKey_of_field? htype, _, rfl, _, Json.atKey_of_field? hversion, _, rfl, _,
      Json.atKey_of_field? hpayload, rfl⟩

theorem optionalField_eq_some {j value : Json} {key : Text} (h : optionalField j key = some value) :
    j.field? key = some value := by
  unfold optionalField at h
  split at h
  · rename_i v hfield
    split at h
    · cases h
    · rw [hfield, h]
  · cases h

/-- An optional string is absent, null or a string. -/
theorem optionalString_eq_ok {key : Text} {o : Option Text} :
    optionalString j key = .ok o ↔
      o = none ∧ (∀ value, j.field? key = some value → value = .null) ∨
        ∃ value, o = some value ∧ j.field? key = some (.string value) := by
  unfold optionalString optionalField
  cases j.field? key with
  | none => cases o <;> simp [pure, Except.pure]
  | some value =>
      cases value with
      | null => cases o <;> simp [pure, Except.pure, Json.isNull]
      | string value => cases o <;> simp [bind, Except.bind, pure, Except.pure, Json.isNull,
          Json.getString, eq_comm]
      | _ => cases o <;> simp [bind, Except.bind, Json.isNull, Json.getString]

/-- The value is a HANDSHAKE of a version, whose payload may name the client. -/
structure IsHandshake (version : Text) (j payload : Json) : Prop where
  messageType : j.field? (text "message_type") = some (.string MessageType.handshake)
  envelopeVersion : j.field? (text "protocol_version") = some (.string version)
  carried : j.field? (text "payload") = some payload
  payloadVersion : payload.field? (text "protocol_version") = some (.string version)
  clientName : ∀ value, payload.field? (text "client_name") = some value →
    value = .null ∨ ∃ name, value = .string name ∧ ValidClientName name

/-- `parse_handshake` accepts the HANDSHAKEs of all versions but the empty one. -/
theorem exists_parseHandshake_eq_some {version : Text} :
    (∃ m, (parseHandshake lib s).value = some m ∧ m.protocolVersion = version) ↔
      version ≠ [] ∧ ∃ j payload, lib.parse s = .ok j ∧ IsHandshake version j payload := by
  simp only [parseHandshake_eq_some, Carries, MessageEnvelope.fromJson_eq_ok,
    HandshakeMessage.fromJson, bind, except_bind_eq_ok, optionalString_eq_ok]
  constructor
  · rintro ⟨m, ⟨j, hparse, ⟨payload, ⟨htype, hversion, hpayload⟩, value, hvalue, version', hversion',
      name, hname, hm⟩, hne, hvalid⟩, rfl⟩
    cases Except.ok.inj hm
    cases Json.eq_string_of_getString hversion'
    refine ⟨hne, j, payload, hparse, htype, hversion, hpayload, Json.field?_of_atKey hvalue, ?_⟩
    intro value hvalue
    rcases hname with ⟨rfl, hnull⟩ | ⟨name, rfl, hfield⟩
    · exact .inl (hnull value hvalue)
    · rw [hfield] at hvalue
      cases Option.some.inj hvalue
      exact .inr ⟨name, rfl, hvalid name rfl⟩
  · rintro ⟨hne, j, payload, hparse, htype, hversion, hpayload, hversion', hname⟩
    have hread : ∃ name, (name = none ∧
          (∀ value, payload.field? (text "client_name") = some value → value = .null) ∨
        ∃ value, name = some value ∧
          payload.field? (text "client_name") = some (.string value)) ∧
        ∀ value ∈ name, ValidClientName value := by
      cases hfield : payload.field? (text "client_name") with
      | none => exact ⟨none, .inl ⟨rfl, by simp⟩, by simp⟩
      | some value =>
          rcases hname value hfield with rfl | ⟨name, rfl, hvalid⟩
          · exact ⟨none, .inl ⟨rfl, by simp⟩, by simp⟩
          · exact ⟨some name, .inr ⟨name, rfl, rfl⟩, by simpa using hvalid⟩
    obtain ⟨name, hname, hvalid⟩ := hread
    exact ⟨⟨version, name⟩, ⟨j, hparse, ⟨payload, ⟨htype, hversion, hpayload⟩, _,
      Json.atKey_of_field? hversion', _, rfl, name, hname, rfl⟩, hne, hvalid⟩, rfl⟩

end Accepts

end CppSim.Protocol
