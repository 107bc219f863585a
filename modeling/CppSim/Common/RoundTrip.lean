import CppSim.Common.Acceptance
import CppSim.Common.Reread

/-!
# Messages survive the wire

The conversions of `protocol.hpp` are written by hand, the decoder of a message apart
from its encoder.  This file shows that they are inverse to each other through the
print and the parser of the library, which may change the kind of a nonnegative
integer on the way (`JsonLib.Rereads`).

For each message type:

* `fromJson_toJson`: decoding what was read back of an encoded payload gives the
  message, with its optional fields;
* `stringsUtf8_toJson`: the payload of a message with valid strings has valid strings.
  What a client may send is checked so closely that its strings are ASCII, except the
  version of a handshake.

The results are `clientMessages_roundTrip` and `serverMessages_roundTrip`.
-/

namespace CppSim.Protocol

/-! ## Optional fields -/

section Optional

variable {T : Type} {j : Json} {key k : Text} {toJson : T → Json} {value : Option T}

theorem field?_setOptional_of_ne (hne : key ≠ k) :
    (setOptional j key toJson value).field? k = j.field? k := by
  cases value with
  | none => rfl
  | some v => exact Json.field?_setField_of_ne hne

/-- A field that the object does not have holds what it is set to. -/
theorem field?_setOptional (hj : j.IsObject) (hfield : j.field? key = none) :
    (setOptional j key toJson value).field? key = value.map toJson := by
  obtain ⟨fields, rfl⟩ := hj
  cases value with
  | none => exact hfield
  | some v =>
      simp only [setOptional, Json.setField, Json.field?, Json.find?_insertField, if_true,
        Option.map_some]

theorem isObject_setOptional (hj : j.IsObject) : (setOptional j key toJson value).IsObject := by
  obtain ⟨fields, rfl⟩ := hj
  cases value with
  | none => exact ⟨_, rfl⟩
  | some v => exact ⟨_, rfl⟩

/-- An optional field that was encoded is read back as it was. -/
theorem optionalField_reread (hfield : j.field? key = value.map toJson)
    (hnull : ∀ v, (toJson v).isNull = false) :
    optionalField j.reread key = value.map fun v => (toJson v).reread := by
  unfold optionalField
  rw [Json.field?_reread, hfield]
  cases value with
  | none => rfl
  | some v => simp [hnull v]

end Optional

section Optional

variable {j : Json} {key : Text}

theorem optionalString_reread {value : Option Text} (hfield : j.field? key = value.map .string) :
    optionalString j.reread key = .ok value := by
  unfold optionalString
  rw [optionalField_reread hfield fun _ => rfl]
  cases value with
  | none => rfl
  | some s => rfl

theorem getVector_stringsToJson (items : List Text) :
    (stringsToJson items).reread.getVector Json.getString = .ok items :=
  Json.getVector_reread fun item _ => Json.getString_reread_string item

theorem optionalStrings_reread {value : Option (List Text)}
    (hfield : j.field? key = value.map stringsToJson) :
    optionalStrings j.reread key = .ok value := by
  unfold optionalStrings
  rw [optionalField_reread hfield fun _ => rfl]
  cases value with
  | none => rfl
  | some items =>
      simp only [Option.map_some, getVector_stringsToJson]
      rfl

end Optional

/-! ## Decoding what was encoded -/

theorem PlayerStack.fromJson_toJson (p : PlayerStack) : fromJson p.toJson.reread = .ok p := by
  have hseat : p.toJson.field? (text "seat") = some (.integer p.seat.toInt64) := by
    simp [toJson, Json.field?_ofFields]
  have hstack : p.toJson.field? (text "stack") = some (.integer p.stack) := by
    simp [toJson, Json.field?_ofFields]
  simp only [fromJson, Json.atKey_reread hseat, Json.atKey_reread hstack, bind, Except.bind,
    Json.getInt32_reread_integer, Json.getInt64_reread_integer]
  rfl

theorem HandshakeMessage.fromJson_toJson (m : HandshakeMessage) :
    fromJson m.toJson.reread = .ok m := by
  have hversion : m.toJson.field? (text "protocol_version") = some (.string m.protocolVersion) := by
    rw [toJson, field?_setOptional_of_ne (by simp)]
    simp [Json.field?_ofFields]
  have hname : m.toJson.field? (text "client_name") = m.clientName.map .string := by
    apply field?_setOptional (Json.isObject_ofFields _)
    simp [Json.field?_ofFields]
  simp only [fromJson, Json.atKey_reread hversion, bind, Except.bind, Json.getString_reread_string,
    optionalString_reread hname]
  rfl

theorem HandshakeResponse.fromJson_toJson (m : HandshakeResponse) :
    fromJson m.toJson.reread = .ok m := by
  have hid : m.toJson.field? (text "session_id") = some (.string m.sessionId) := by
    simp [toJson, Json.field?_ofFields]
  have hseat : m.toJson.field? (text "seat_number") = some (.integer m.seatNumber.toInt64) := by
    simp [toJson, Json.field?_ofFields]
  have hstack : m.toJson.field? (text "starting_stack") = some (.integer m.startingStack) := by
    simp [toJson, Json.field?_ofFields]
  simp only [fromJson, Json.atKey_reread hid, Json.atKey_reread hseat, Json.atKey_reread hstack,
    bind, Except.bind, Json.getString_reread_string, Json.getInt32_reread_integer,
    Json.getInt64_reread_integer]
  rfl

theorem centsFromJson_reread (field : Text) (cents : Int64) :
    centsFromJson field (Json.reread (.integer cents)) = .ok cents := by
  simp only [centsFromJson, Json.isNumberInteger_reread_integer, if_true,
    Json.getInt64_reread_integer]

theorem ActionMessage.fromJson_toJson (m : ActionMessage) :
    fromJson m.toJson.reread = .ok m := by
  have hid : m.toJson.field? (text "session_id") = some (.string m.sessionId) := by
    rw [toJson, field?_setOptional_of_ne (by simp)]
    simp [Json.field?_ofFields]
  have htype : m.toJson.field? (text "action_type") = some (.string m.actionType) := by
    rw [toJson, field?_setOptional_of_ne (by simp)]
    simp [Json.field?_ofFields]
  have hsequence : m.toJson.field? (text "sequence_number") = some (.integer m.sequenceNumber) := by
    rw [toJson, field?_setOptional_of_ne (by simp)]
    simp [Json.field?_ofFields]
  have hamount : m.toJson.field? (text "amount") = m.amount.map .integer := by
    apply field?_setOptional (Json.isObject_ofFields _)
    simp [Json.field?_ofFields]
  simp only [fromJson, Json.atKey_reread hid, Json.atKey_reread htype, Json.atKey_reread hsequence,
    bind, Except.bind, Json.getString_reread_string, Json.getInt64_reread_integer,
    optionalField_reread hamount fun _ => rfl]
  obtain ⟨sessionId, actionType, amount, sequenceNumber⟩ := m
  cases amount with
  | none => rfl
  | some cents =>
      simp only [Option.map_some, centsFromJson_reread]
      rfl

section StateUpdate

variable (m : StateUpdateMessage)

/-- The fields of a state update that are always there. -/
theorem StateUpdateMessage.field?_toJson {key : Text} (hcards : text "community_cards" ≠ key)
    (hhole : text "hole_cards" ≠ key) (hseat : text "acting_seat" ≠ key) :
    m.toJson.field? key = (Json.ofFields [(text "game_phase", .string m.gamePhase),
      (text "pot_size", .integer m.potSize), (text "current_bet", .integer m.currentBet),
      (text "player_stacks", .array (m.playerStacks.map PlayerStack.toJson)),
      (text "valid_actions", stringsToJson m.validActions)]).field? key := by
  simp only [toJson]
  rw [field?_setOptional_of_ne hseat, field?_setOptional_of_ne hhole,
    field?_setOptional_of_ne hcards]

theorem StateUpdateMessage.field?_toJson_communityCards :
    m.toJson.field? (text "community_cards") = m.communityCards.map stringsToJson := by
  simp only [toJson]
  rw [field?_setOptional_of_ne (by simp), field?_setOptional_of_ne (by simp)]
  apply field?_setOptional (Json.isObject_ofFields _)
  simp [Json.field?_ofFields]

theorem StateUpdateMessage.field?_toJson_holeCards :
    m.toJson.field? (text "hole_cards") = m.holeCards.map stringsToJson := by
  simp only [toJson]
  rw [field?_setOptional_of_ne (by simp)]
  apply field?_setOptional (isObject_setOptional (Json.isObject_ofFields _))
  rw [field?_setOptional_of_ne (by simp)]
  simp [Json.field?_ofFields]

theorem StateUpdateMessage.field?_toJson_actingSeat :
    m.toJson.field? (text "acting_seat") = m.actingSeat.map fun seat => .integer seat.toInt64 := by
  simp only [toJson]
  apply field?_setOptional (isObject_setOptional (isObject_setOptional (Json.isObject_ofFields _)))
  rw [field?_setOptional_of_ne (by simp), field?_setOptional_of_ne (by simp)]
  simp [Json.field?_ofFields]

theorem StateUpdateMessage.fromJson_toJson : fromJson m.toJson.reread = .ok m := by
  have hphase : m.toJson.field? (text "game_phase") = some (.string m.gamePhase) := by
    rw [m.field?_toJson (by simp) (by simp) (by simp)]
    simp [Json.field?_ofFields]
  have hpot : m.toJson.field? (text "pot_size") = some (.integer m.potSize) := by
    rw [m.field?_toJson (by simp) (by simp) (by simp)]
    simp [Json.field?_ofFields]
  have hbet : m.toJson.field? (text "current_bet") = some (.integer m.currentBet) := by
    rw [m.field?_toJson (by simp) (by simp) (by simp)]
    simp [Json.field?_ofFields]
  have hstacks : m.toJson.field? (text "player_stacks") =
      some (.array (m.playerStacks.map PlayerStack.toJson)) := by
    rw [m.field?_toJson (by simp) (by simp) (by simp)]
    simp [Json.field?_ofFields]
  have hactions : m.toJson.field? (text "valid_actions") = some (stringsToJson m.validActions) := by
    rw [m.field?_toJson (by simp) (by simp) (by simp)]
    simp [Json.field?_ofFields]
  have hstack : (Json.array (m.playerStacks.map PlayerStack.toJson)).reread.getVector
      PlayerStack.fromJson = .ok m.playerStacks :=
    Json.getVector_reread fun p _ => p.fromJson_toJson
  simp only [fromJson, Json.atKey_reread hphase, Json.atKey_reread hpot, Json.atKey_reread hbet,
    Json.atKey_reread hstacks, Json.atKey_reread hactions, bind, Except.bind,
    Json.getString_reread_string, Json.getInt64_reread_integer, hstack, getVector_stringsToJson,
    optionalStrings_reread m.field?_toJson_communityCards,
    optionalStrings_reread m.field?_toJson_holeCards,
    optionalField_reread m.field?_toJson_actingSeat fun _ => rfl]
  obtain ⟨_, _, _, _, _, _, _, actingSeat⟩ := m
  cases actingSeat with
  | none => rfl
  | some seat =>
      simp only [Option.map_some, Json.getInt32_reread_integer]
      rfl

end StateUpdate

theorem ErrorMessage.toJson_eq (m : ErrorMessage) :
    m.toJson = setOptional (.ofFields [(text "error_code", .string m.errorCode),
      (text "message", .string m.message)]) (text "session_id") Json.string m.sessionId := by
  unfold toJson setOptional
  cases m.sessionId <;> rfl

theorem ErrorMessage.fromJson_toJson (m : ErrorMessage) : fromJson m.toJson.reread = .ok m := by
  have hcode : m.toJson.field? (text "error_code") = some (.string m.errorCode) := by
    rw [toJson_eq, field?_setOptional_of_ne (by simp)]
    simp [Json.field?_ofFields]
  have hmessage : m.toJson.field? (text "message") = some (.string m.message) := by
    rw [toJson_eq, field?_setOptional_of_ne (by simp)]
    simp [Json.field?_ofFields]
  have hid : m.toJson.field? (text "session_id") = m.sessionId.map .string := by
    rw [toJson_eq]
    apply field?_setOptional (Json.isObject_ofFields _)
    simp [Json.field?_ofFields]
  simp only [fromJson, Json.atKey_reread hcode, Json.atKey_reread hmessage, bind, Except.bind,
    Json.getString_reread_string, optionalString_reread hid]
  rfl

theorem ReloadRequestMessage.fromJson_toJson (m : ReloadRequestMessage) :
    fromJson m.toJson.reread = .ok m := by
  have hid : m.toJson.field? (text "session_id") = some (.string m.sessionId) := by
    simp [toJson, Json.field?_ofFields]
  have hamount : m.toJson.field? (text "requested_amount") = some (.integer m.requestedAmount) := by
    simp [toJson, Json.field?_ofFields]
  simp only [fromJson, Json.atKey_reread hid, Json.atKey_reread hamount, bind, Except.bind,
    Json.getString_reread_string, centsFromJson_reread]
  rfl

theorem ReloadResponseMessage.fromJson_toJson (m : ReloadResponseMessage) :
    fromJson m.toJson.reread = .ok m := by
  have hgranted : m.toJson.field? (text "granted") = some (.boolean m.granted) := by
    simp [toJson, Json.field?_ofFields]
  have hstack : m.toJson.field? (text "new_stack") = some (.integer m.newStack) := by
    simp [toJson, Json.field?_ofFields]
  simp only [fromJson, Json.atKey_reread hgranted, Json.atKey_reread hstack, bind, Except.bind,
    Json.getBoolean_reread_boolean, Json.getInt64_reread_integer]
  rfl

theorem DisconnectMessage.fromJson_toJson (m : DisconnectMessage) :
    fromJson m.toJson.reread = .ok m := by
  have hid : m.toJson.field? (text "session_id") = some (.string m.sessionId) := by
    rw [toJson, field?_setOptional_of_ne (by simp)]
    simp [Json.field?_ofFields]
  have hreason : m.toJson.field? (text "reason") = m.reason.map .string := by
    apply field?_setOptional (Json.isObject_ofFields _)
    simp [Json.field?_ofFields]
  simp only [fromJson, Json.atKey_reread hid, bind, Except.bind, Json.getString_reread_string,
    optionalString_reread hreason]
  rfl

theorem MessageEnvelope.fromJson_toJson (m : MessageEnvelope) :
    fromJson m.toJson.reread = .ok { m with payload := m.payload.reread } := by
  have htype : m.toJson.field? (text "message_type") = some (.string m.messageType) := by
    simp [toJson, Json.field?_ofFields]
  have hversion : m.toJson.field? (text "protocol_version") = some (.string m.protocolVersion) := by
    simp [toJson, Json.field?_ofFields]
  have hpayload : m.toJson.field? (text "payload") = some m.payload := by
    simp [toJson, Json.field?_ofFields]
  simp only [fromJson, Json.atKey_reread htype, Json.atKey_reread hversion,
    Json.atKey_reread hpayload, bind, Except.bind, Json.getString_reread_string]
  rfl

/-- The payload that was sent is carried by what is read back of its envelope. -/
theorem carries_reread {T : Type} {fromJson : Json → Except Exn T} {messageType version : Text}
    {payload : Json} {m : T} (h : fromJson payload.reread = .ok m) :
    Carries fromJson messageType version
      (MessageEnvelope.toJson ⟨messageType, version, payload⟩).reread m :=
  ⟨payload.reread, MessageEnvelope.fromJson_toJson _, h⟩

/-! ## Strings that are sent -/

theorem isUtf8_of_printable {s : Text} (h : s.all isPrintableAscii = true) : IsUtf8 s := by
  apply isUtf8_of_ascii
  intro byte hbyte
  have hprintable := List.all_eq_true.mp h byte hbyte
  simp only [isPrintableAscii, Bool.and_eq_true, decide_eq_true_eq] at hprintable
  exact UInt8.lt_trans hprintable.2 (by decide)

theorem isUtf8_of_validateSessionIdFormat {sid : Text} (h : validateSessionIdFormat sid = true) :
    IsUtf8 sid := by
  simp only [validateSessionIdFormat, Bool.and_eq_true, beq_iff_eq] at h
  obtain ⟨⟨-, hstart⟩, hrest⟩ := h
  rw [← List.take_append_drop 5 sid, hstart]
  refine (isUtf8_text "sess_").append (isUtf8_of_ascii ?_)
  intro byte hbyte
  have hvalid := List.all_eq_true.mp hrest byte hbyte
  simp only [isValidSessionIdChar, Bool.or_eq_true, Bool.and_eq_true, decide_eq_true_eq,
    beq_iff_eq] at hvalid
  rcases hvalid with (⟨-, hle⟩ | ⟨-, hle⟩) | rfl
  · exact UInt8.lt_of_le_of_lt hle (by decide)
  · exact UInt8.lt_of_le_of_lt hle (by decide)
  · decide

theorem isUtf8_of_mem_validActionTypes {actionType : Text} (h : actionType ∈ validActionTypes) :
    IsUtf8 actionType := by
  simp only [validActionTypes, List.mem_cons, List.not_mem_nil, or_false] at h
  rcases h with rfl | rfl | rfl | rfl | rfl <;> exact isUtf8_text _

theorem stringsUtf8_setOptional {T : Type} {j : Json} {key : String} {toJson : T → Json}
    {value : Option T} (hj : j.StringsUtf8) (hvalue : ∀ v ∈ value, (toJson v).StringsUtf8) :
    (setOptional j (text key) toJson value).StringsUtf8 := by
  cases value with
  | none => exact hj
  | some v => exact Json.stringsUtf8_setField hj (isUtf8_text key) (hvalue v rfl)

theorem stringsUtf8_stringsToJson {items : List Text} (h : ∀ item ∈ items, IsUtf8 item) :
    (stringsToJson items).StringsUtf8 := by
  refine .array fun item hitem => ?_
  obtain ⟨s, hs, rfl⟩ := List.mem_map.mp hitem
  exact .string (h s hs)

theorem MessageEnvelope.stringsUtf8_toJson {messageType : String} {version : Text} {payload : Json}
    (hversion : IsUtf8 version) (hpayload : payload.StringsUtf8) :
    (MessageEnvelope.toJson ⟨text messageType, version, payload⟩).StringsUtf8 := by
  apply Json.stringsUtf8_ofFields
  simp [isUtf8_text, Json.stringsUtf8_string, hversion, hpayload]

/-! ## Client messages -/

def HandshakeMessage.toEnvelope (m : HandshakeMessage) : Json :=
  MessageEnvelope.toJson ⟨MessageType.handshake, m.protocolVersion, m.toJson⟩

def ActionMessage.toEnvelope (m : ActionMessage) : Json :=
  MessageEnvelope.toJson ⟨MessageType.action, protocolVersion, m.toJson⟩

def ReloadRequestMessage.toEnvelope (m : ReloadRequestMessage) : Json :=
  MessageEnvelope.toJson ⟨MessageType.reloadRequest, protocolVersion, m.toJson⟩

def DisconnectMessage.toEnvelope (m : DisconnectMessage) : Json :=
  MessageEnvelope.toJson ⟨MessageType.disconnect, protocolVersion, m.toJson⟩

/-- The envelope of the message is printed, and the parser returns the message from the print. -/
def RoundTrips {T : Type} (lib : JsonLib) (toEnvelope : T → Json)
    (parse : JsonLib → Text → Logged (Option T)) (m : T) : Prop :=
  ∃ s, lib.dump (toEnvelope m) = .ok s ∧ (parse lib s).value = some m

/-- The encoder and the parser of a client message fit together: a valid message comes back
as it was sent, and a message the parser returns is valid. -/
structure ClientRoundTrip {T : Type} (lib : JsonLib) (toEnvelope : T → Json)
    (parse : JsonLib → Text → Logged (Option T)) (Valid : T → Prop) : Prop where
  encode : ∀ m, Valid m → lib.Rereads (toEnvelope m) → RoundTrips lib toEnvelope parse m
  decode : ∀ s m, (parse lib s).value = some m →
    Valid m ∧ (lib.Rereads (toEnvelope m) → RoundTrips lib toEnvelope parse m)

section Client

variable {lib : JsonLib}

/-- Decoding needs no argument of its own: what is returned is valid, so it comes back. -/
theorem ClientRoundTrip.of_encode {T : Type} {toEnvelope : T → Json}
    {parse : JsonLib → Text → Logged (Option T)} {Valid : T → Prop}
    (encode : ∀ m, Valid m → lib.Rereads (toEnvelope m) → RoundTrips lib toEnvelope parse m)
    (valid : ∀ s m, (parse lib s).value = some m → Valid m) :
    ClientRoundTrip lib toEnvelope parse Valid where
  encode := encode
  decode s m h := ⟨valid s m h, encode m (valid s m h)⟩

theorem HandshakeMessage.stringsUtf8_toJson {m : HandshakeMessage} (h : m.Valid)
    (hversion : IsUtf8 m.protocolVersion) : m.toJson.StringsUtf8 := by
  apply stringsUtf8_setOptional
  · apply Json.stringsUtf8_ofFields
    simp [isUtf8_text, Json.stringsUtf8_string, hversion]
  · intro name hname
    exact .string (isUtf8_of_printable (h.clientName name hname).printable)

theorem ActionMessage.stringsUtf8_toJson {m : ActionMessage} (h : m.Valid) :
    m.toJson.StringsUtf8 := by
  apply stringsUtf8_setOptional
  · apply Json.stringsUtf8_ofFields
    simp [isUtf8_text, Json.stringsUtf8_string, isUtf8_of_validateSessionIdFormat h.sessionId,
      isUtf8_of_mem_validActionTypes h.actionType, Json.StringsUtf8.integer]
  · intro cents _
    exact .integer cents

theorem ReloadRequestMessage.stringsUtf8_toJson {m : ReloadRequestMessage} (h : m.Valid) :
    m.toJson.StringsUtf8 := by
  apply Json.stringsUtf8_ofFields
  simp [isUtf8_text, Json.stringsUtf8_string, isUtf8_of_validateSessionIdFormat h.sessionId,
    Json.StringsUtf8.integer]

theorem DisconnectMessage.stringsUtf8_toJson {m : DisconnectMessage} (h : m.Valid) :
    m.toJson.StringsUtf8 := by
  apply stringsUtf8_setOptional
  · apply Json.stringsUtf8_ofFields
    simp [isUtf8_text, Json.stringsUtf8_string, isUtf8_of_validateSessionIdFormat h.sessionId]
  · intro reason hreason
    exact .string (isUtf8_of_printable (h.reason_printable reason hreason))

theorem isUtf8_protocolVersion : IsUtf8 protocolVersion := isUtf8_text _

theorem stringsUtf8_handshakeEnvelope : handshakeEnvelope.StringsUtf8 := by
  apply MessageEnvelope.stringsUtf8_toJson isUtf8_protocolVersion
  apply Json.stringsUtf8_ofFields
  simp [isUtf8_text, Json.stringsUtf8_string, isUtf8_protocolVersion]

/-- The version of a handshake is a string of the text it was parsed from. -/
theorem HandshakeMessage.isUtf8_of_parseHandshake (hlib : lib.ParsesUtf8) {s : Text}
    {m : HandshakeMessage} (h : (parseHandshake lib s).value = some m) :
    IsUtf8 m.protocolVersion := by
  obtain ⟨j, hparse, ⟨payload, henvelope, -⟩, -⟩ := parseHandshake_eq_some.mp h
  simp only [MessageEnvelope.fromJson, bind, except_bind_eq_ok] at henvelope
  obtain ⟨_, _, _, _, value, hvalue, version, hversion, _, _, hsame⟩ := henvelope
  obtain rfl : version = m.protocolVersion :=
    congrArg MessageEnvelope.protocolVersion (Except.ok.inj hsame)
  exact (hlib s j hparse).isUtf8 hvalue hversion

/-- Every client message survives its round trip. -/
theorem clientMessages_roundTrip (hlib : lib.ParsesUtf8) :
    ClientRoundTrip lib HandshakeMessage.toEnvelope parseHandshake
        (fun m => m.Valid ∧ IsUtf8 m.protocolVersion) ∧
      ClientRoundTrip lib ActionMessage.toEnvelope parseAction ActionMessage.Valid ∧
      ClientRoundTrip lib ReloadRequestMessage.toEnvelope parseReloadRequest
        ReloadRequestMessage.Valid ∧
      ClientRoundTrip lib DisconnectMessage.toEnvelope parseDisconnect DisconnectMessage.Valid := by
  refine ⟨.of_encode ?_ ?_, .of_encode ?_ ?_, .of_encode ?_ ?_, .of_encode ?_ ?_⟩
  · rintro m ⟨hvalid, hversion⟩ hrereads
    obtain ⟨s, hdump, hparse⟩ := hrereads
      (MessageEnvelope.stringsUtf8_toJson hversion (HandshakeMessage.stringsUtf8_toJson hvalid hversion))
    refine ⟨s, hdump, parseHandshake_eq_some.mpr ⟨_, hparse, ?_, hvalid⟩⟩
    exact carries_reread m.fromJson_toJson
  · intro s m h
    obtain ⟨-, -, -, hvalid⟩ := parseHandshake_eq_some.mp h
    exact ⟨hvalid, HandshakeMessage.isUtf8_of_parseHandshake hlib h⟩
  · intro m hvalid hrereads
    obtain ⟨s, hdump, hparse⟩ := hrereads
      (MessageEnvelope.stringsUtf8_toJson isUtf8_protocolVersion (ActionMessage.stringsUtf8_toJson hvalid))
    refine ⟨s, hdump, parseAction_eq_some.mpr ⟨_, hparse, ?_, hvalid⟩⟩
    exact carries_reread m.fromJson_toJson
  · intro s m h
    obtain ⟨-, -, -, hvalid⟩ := parseAction_eq_some.mp h
    exact hvalid
  · intro m hvalid hrereads
    obtain ⟨s, hdump, hparse⟩ := hrereads
      (MessageEnvelope.stringsUtf8_toJson isUtf8_protocolVersion
        (ReloadRequestMessage.stringsUtf8_toJson hvalid))
    refine ⟨s, hdump, parseReloadRequest_eq_some.mpr ⟨_, hparse, ?_, hvalid⟩⟩
    exact carries_reread m.fromJson_toJson
  · intro s m h
    obtain ⟨-, -, -, hvalid⟩ := parseReloadRequest_eq_some.mp h
    exact hvalid
  · intro m hvalid hrereads
    obtain ⟨s, hdump, hparse⟩ := hrereads
      (MessageEnvelope.stringsUtf8_toJson isUtf8_protocolVersion
        (DisconnectMessage.stringsUtf8_toJson hvalid))
    refine ⟨s, hdump, parseDisconnect_eq_some.mpr ⟨_, hparse, ?_, hvalid⟩⟩
    exact carries_reread m.fromJson_toJson
  · intro s m h
    obtain ⟨-, -, -, hvalid⟩ := parseDisconnect_eq_some.mp h
    exact hvalid

end Client

/-- A RAISE of 12.50. -/
def raiseMessage : ActionMessage := ⟨text "sess_a", ActionType.raise, some 1250, 7⟩

theorem valid_raiseMessage : raiseMessage.Valid where
  sessionId := by decide
  sequenceNumber := by decide
  actionType := by decide
  amount := by
    rintro cents ⟨⟩
    decide
  amount_iff := by decide

/-- The raise comes back with its amount. -/
theorem clientMessages_roundTrip_raise :
    RoundTrips (JsonLib.knowing [raiseMessage.toEnvelope.reread]) ActionMessage.toEnvelope
      parseAction raiseMessage := by
  have hstrings : raiseMessage.toEnvelope.StringsUtf8 :=
    MessageEnvelope.stringsUtf8_toJson isUtf8_protocolVersion
      (ActionMessage.stringsUtf8_toJson valid_raiseMessage)
  have hlib := JsonLib.parsesUtf8_knowing fun j hj => List.mem_singleton.mp hj ▸ hstrings.reread
  exact (clientMessages_roundTrip hlib).2.1.encode _ valid_raiseMessage
    (JsonLib.rereads_knowing _)

/-! ## Server messages -/

def HandshakeResponse.StringsUtf8 (m : HandshakeResponse) : Prop := IsUtf8 m.sessionId

structure StateUpdateMessage.StringsUtf8 (m : StateUpdateMessage) : Prop where
  gamePhase : IsUtf8 m.gamePhase
  communityCards : ∀ cards ∈ m.communityCards, ∀ card ∈ cards, IsUtf8 card
  holeCards : ∀ cards ∈ m.holeCards, ∀ card ∈ cards, IsUtf8 card
  validActions : ∀ action ∈ m.validActions, IsUtf8 action

structure ErrorMessage.StringsUtf8 (m : ErrorMessage) : Prop where
  errorCode : IsUtf8 m.errorCode
  message : IsUtf8 m.message
  sessionId : ∀ sid ∈ m.sessionId, IsUtf8 sid

/-- What the server prints of a message with valid strings is an envelope of its type and
version, and its payload decodes to the message. -/
def ServerRoundTrip {T : Type} (lib : JsonLib) (messageType : Text) (toJson : T → Json)
    (fromJson : Json → Except Exn T) (serialize : JsonLib → T → Except Text Text)
    (StringsUtf8 : T → Prop) : Prop :=
  ∀ m, StringsUtf8 m →
    lib.Rereads (MessageEnvelope.toJson ⟨messageType, protocolVersion, toJson m⟩) →
    ∃ s j, serialize lib m = .ok s ∧ lib.parse s = .ok j ∧
      Carries fromJson messageType protocolVersion j m

section Server

variable {lib : JsonLib}

/-- A message that is serialized in its envelope comes back when its payload does. -/
theorem ServerRoundTrip.of_payload {T : Type} {messageType : String} {toJson : T → Json}
    {fromJson : Json → Except Exn T} {serialize : JsonLib → T → Except Text Text}
    {StringsUtf8 : T → Prop}
    (hserialize : ∀ m, serialize lib m = serializeMessage lib (toJson m) (text messageType))
    (hstrings : ∀ m, StringsUtf8 m → (toJson m).StringsUtf8)
    (hpayload : ∀ m, fromJson (toJson m).reread = .ok m) :
    ServerRoundTrip lib (text messageType) toJson fromJson serialize StringsUtf8 := by
  intro m hm hrereads
  obtain ⟨s, hdump, hparse⟩ := hrereads
    (MessageEnvelope.stringsUtf8_toJson isUtf8_protocolVersion (hstrings m hm))
  refine ⟨s, _, ?_, hparse, carries_reread (hpayload m)⟩
  rw [hserialize m]
  exact hdump

theorem HandshakeResponse.stringsUtf8_toJson {m : HandshakeResponse} (h : m.StringsUtf8) :
    m.toJson.StringsUtf8 := by
  apply Json.stringsUtf8_ofFields
  simp [isUtf8_text, Json.stringsUtf8_string, Json.StringsUtf8.integer, show IsUtf8 m.sessionId from h]

theorem ReloadResponseMessage.stringsUtf8_toJson (m : ReloadResponseMessage) :
    m.toJson.StringsUtf8 := by
  apply Json.stringsUtf8_ofFields
  simp [isUtf8_text, Json.StringsUtf8.integer, Json.StringsUtf8.boolean]

theorem PlayerStack.stringsUtf8_toJson (p : PlayerStack) : p.toJson.StringsUtf8 := by
  apply Json.stringsUtf8_ofFields
  simp [isUtf8_text, Json.StringsUtf8.integer]

theorem StateUpdateMessage.stringsUtf8_toJson {m : StateUpdateMessage} (h : m.StringsUtf8) :
    m.toJson.StringsUtf8 := by
  have hstacks : (Json.array (m.playerStacks.map PlayerStack.toJson)).StringsUtf8 := by
    refine .array fun item hitem => ?_
    obtain ⟨p, -, rfl⟩ := List.mem_map.mp hitem
    exact p.stringsUtf8_toJson
  apply stringsUtf8_setOptional
  · apply stringsUtf8_setOptional
    · apply stringsUtf8_setOptional
      · apply Json.stringsUtf8_ofFields
        simp [isUtf8_text, Json.stringsUtf8_string, Json.StringsUtf8.integer, h.gamePhase, hstacks,
          stringsUtf8_stringsToJson h.validActions]
      · intro cards hcards
        exact stringsUtf8_stringsToJson (h.communityCards cards hcards)
    · intro cards hcards
      exact stringsUtf8_stringsToJson (h.holeCards cards hcards)
  · intro seat _
    exact .integer _

theorem ErrorMessage.stringsUtf8_toJson {m : ErrorMessage} (h : m.StringsUtf8) :
    m.toJson.StringsUtf8 := by
  rw [m.toJson_eq]
  apply stringsUtf8_setOptional
  · apply Json.stringsUtf8_ofFields
    simp [isUtf8_text, Json.stringsUtf8_string, h.errorCode, h.message]
  · intro sid hsid
    exact .string (h.sessionId sid hsid)

/-- Every server message survives its round trip. -/
theorem serverMessages_roundTrip :
    ServerRoundTrip lib MessageType.handshakeResponse HandshakeResponse.toJson
        HandshakeResponse.fromJson serializeHandshakeResponse HandshakeResponse.StringsUtf8 ∧
      ServerRoundTrip lib MessageType.reloadResponse ReloadResponseMessage.toJson
        ReloadResponseMessage.fromJson serializeReloadResponse (fun _ => True) ∧
      ServerRoundTrip lib MessageType.error ErrorMessage.toJson ErrorMessage.fromJson
        serializeError ErrorMessage.StringsUtf8 ∧
      ServerRoundTrip lib MessageType.stateUpdate StateUpdateMessage.toJson
        StateUpdateMessage.fromJson serializeStateUpdate StateUpdateMessage.StringsUtf8 := by
  refine ⟨.of_payload (fun _ => rfl) (fun m hm => ?_) HandshakeResponse.fromJson_toJson,
    .of_payload (fun _ => rfl) (fun m _ => m.stringsUtf8_toJson)
      ReloadResponseMessage.fromJson_toJson,
    .of_payload (fun _ => rfl) (fun m hm => ?_) ErrorMessage.fromJson_toJson,
    .of_payload (fun _ => rfl) (fun m hm => ?_) StateUpdateMessage.fromJson_toJson⟩
  · exact HandshakeResponse.stringsUtf8_toJson hm
  · exact ErrorMessage.stringsUtf8_toJson hm
  · exact StateUpdateMessage.stringsUtf8_toJson hm

end Server

/-- A state update before the first hand comes back. -/
theorem serverMessages_roundTrip_waiting :
    let m : StateUpdateMessage := ⟨text "WAITING", 0, 0, [], none, some [], [], some 3⟩
    let j := MessageEnvelope.toJson ⟨MessageType.stateUpdate, protocolVersion, m.toJson⟩
    ∃ s j', serializeStateUpdate (JsonLib.knowing [j.reread]) m = .ok s ∧
      (JsonLib.knowing [j.reread]).parse s = .ok j' ∧
      Carries StateUpdateMessage.fromJson MessageType.stateUpdate protocolVersion j' m := by
  intro m j
  refine serverMessages_roundTrip.2.2.2 m ⟨isUtf8_text _, ?_, ?_, ?_⟩ (JsonLib.rereads_knowing j)
  · simp [m]
  · simp [m]
  · simp [m]

end CppSim.Protocol
