import CppSim.Common.Json

/-!
# Protocol messages

The constants and message types of `protocol.hpp`, with the conversions from and to
JSON that are written by hand there.  A message travels as the payload of an
envelope that names its type and the protocol version.

The two money fields, `amount` of an action and `requested_amount` of a reload
request, are decoded by the same branches and differ only in the name their
exceptions carry; `centsFromJson` is that decoder.
-/

namespace CppSim.Protocol

/-! ## Constants -/

/-- `PROTOCOL_VERSION`. -/
def protocolVersion : Text := text "v1.0"

/-- `MAX_AMOUNT`, in cents. -/
def maxAmount : Int64 := 1000000000000000

/-- `MAX_SESSION_ID_LENGTH`. -/
def maxSessionIdLength : ℕ := 128

namespace ErrorCode

def incompatibleVersion : Text := text "INCOMPATIBLE_VERSION"
def protocolError : Text := text "PROTOCOL_ERROR"
def malformedHandshake : Text := text "MALFORMED_HANDSHAKE"
def malformedMessage : Text := text "MALFORMED_MESSAGE"
def sessionClosed : Text := text "SESSION_CLOSED"

end ErrorCode

namespace MessageType

def handshake : Text := text "HANDSHAKE"
def handshakeResponse : Text := text "HANDSHAKE_RESPONSE"
def action : Text := text "ACTION"
def stateUpdate : Text := text "STATE_UPDATE"
def error : Text := text "ERROR"
def reloadRequest : Text := text "RELOAD_REQUEST"
def reloadResponse : Text := text "RELOAD_RESPONSE"
def disconnect : Text := text "DISCONNECT"

end MessageType

namespace ActionType

def fold : Text := text "FOLD"
def check : Text := text "CHECK"
def call : Text := text "CALL"
def raise : Text := text "RAISE"
def allIn : Text := text "ALL_IN"

end ActionType

/-! ## Messages -/

structure PlayerStack where
  seat : Int32
  /-- In cents. -/
  stack : Int64
  deriving DecidableEq

structure HandshakeMessage where
  protocolVersion : Text
  clientName : Option Text
  deriving DecidableEq

structure HandshakeResponse where
  sessionId : Text
  seatNumber : Int32
  startingStack : Int64
  deriving DecidableEq

structure ActionMessage where
  sessionId : Text
  actionType : Text
  /-- In cents, if applicable. -/
  amount : Option Int64
  sequenceNumber : Int64
  deriving DecidableEq

structure StateUpdateMessage where
  gamePhase : Text
  /-- In cents. -/
  potSize : Int64
  /-- In cents. -/
  currentBet : Int64
  playerStacks : List PlayerStack
  communityCards : Option (List Text)
  holeCards : Option (List Text)
  validActions : List Text
  actingSeat : Option Int32
  deriving DecidableEq

structure ErrorMessage where
  errorCode : Text
  message : Text
  sessionId : Option Text
  deriving DecidableEq

structure ReloadRequestMessage where
  sessionId : Text
  /-- In cents. -/
  requestedAmount : Int64
  deriving DecidableEq

structure ReloadResponseMessage where
  granted : Bool
  newStack : Int64
  deriving DecidableEq

structure DisconnectMessage where
  sessionId : Text
  reason : Option Text
  deriving DecidableEq

structure MessageEnvelope where
  messageType : Text
  protocolVersion : Text
  payload : Json

/-! ## From JSON -/

/-- A field that may be absent or null. -/
def optionalField (j : Json) (key : Text) : Option Json :=
  match j.field? key with
  | some value => if value.isNull then none else some value
  | none => none

def optionalString (j : Json) (key : Text) : Except Exn (Option Text) :=
  match optionalField j key with
  | some value => do
      let s ← value.getString
      pure (some s)
  | none => pure none

def optionalStrings (j : Json) (key : Text) : Except Exn (Option (List Text)) :=
  match optionalField j key with
  | some value => do
      let items ← value.getVector Json.getString
      pure (some items)
  | none => pure none

/-- `std::round` of the product, if it is in the range that the decoders check. -/
def roundInRange (field : Text) (product : Double) : Except Exn ℤ :=
  match product with
  | .finite p =>
      let cents := roundAway p
      -- both bounds are compared as doubles, and the upper one rounds up to `2^63`
      if cents > 2 ^ 63 ∨ cents < -2 ^ 63 then
        .error (.std (field ++ text " out of representable range after conversion"))
      else .ok cents
  -- an infinite product is beyond one of the bounds
  | _ => .error (.std (field ++ text " out of representable range after conversion"))

/-- `std::round(dollars * 100.0)`, checked. -/
def roundedCents (field : Text) (dollars : Double) : Except Exn ℤ :=
  match dollars with
  | .finite q => roundInRange field (.ofRational (q * 100))
  | _ => .error (.std (field ++ text " must be finite"))

/-- The floating-point branch of the money decoders: dollars to cents. -/
def centsOfDollars (field : Text) (dollars : Double) : Except Exn Int64 := do
  let cents ← roundedCents field dollars
  pure (Double.finite cents).toInt64

/-- A money field: an integer is an amount in cents, a double one in dollars. -/
def centsFromJson (field : Text) (j : Json) : Except Exn Int64 :=
  if j.isNumberInteger then j.getInt64
  else if j.isNumberUnsigned then do
    let n ← j.getUInt64
    pure n.toInt64
  else do
    let dollars ← j.getDouble
    centsOfDollars field dollars

/-- `from_json` of a player stack. -/
def PlayerStack.fromJson (j : Json) : Except Exn PlayerStack := do
  let seat ← (← j.atKey (text "seat")).getInt32
  let stack ← (← j.atKey (text "stack")).getInt64
  pure { seat, stack }

/-- `from_json` of a handshake message. -/
def HandshakeMessage.fromJson (j : Json) : Except Exn HandshakeMessage := do
  let protocolVersion ← (← j.atKey (text "protocol_version")).getString
  let clientName ← optionalString j (text "client_name")
  pure { protocolVersion, clientName }

/-- `from_json` of a handshake response. -/
def HandshakeResponse.fromJson (j : Json) : Except Exn HandshakeResponse := do
  let sessionId ← (← j.atKey (text "session_id")).getString
  let seatNumber ← (← j.atKey (text "seat_number")).getInt32
  let startingStack ← (← j.atKey (text "starting_stack")).getInt64
  pure { sessionId, seatNumber, startingStack }

/-- `from_json` of an action message. -/
def ActionMessage.fromJson (j : Json) : Except Exn ActionMessage := do
  let sessionId ← (← j.atKey (text "session_id")).getString
  let actionType ← (← j.atKey (text "action_type")).getString
  let sequenceNumber ← (← j.atKey (text "sequence_number")).getInt64
  let amount ← match optionalField j (text "amount") with
    | some value => do
        let cents ← centsFromJson (text "amount") value
        pure (some cents)
    | none => pure none
  pure { sessionId, actionType, amount, sequenceNumber }

/-- `from_json` of a state update. -/
def StateUpdateMessage.fromJson (j : Json) : Except Exn StateUpdateMessage := do
  let gamePhase ← (← j.atKey (text "game_phase")).getString
  let potSize ← (← j.atKey (text "pot_size")).getInt64
  let currentBet ← (← j.atKey (text "current_bet")).getInt64
  let playerStacks ← (← j.atKey (text "player_stacks")).getVector PlayerStack.fromJson
  let validActions ← (← j.atKey (text "valid_actions")).getVector Json.getString
  let communityCards ← optionalStrings j (text "community_cards")
  let holeCards ← optionalStrings j (text "hole_cards")
  let actingSeat ← match optionalField j (text "acting_seat") with
    | some value => do
        let seat ← value.getInt32
        pure (some seat)
    | none => pure none
  pure { gamePhase, potSize, currentBet, playerStacks, communityCards, holeCards, validActions,
         actingSeat }

/-- `from_json` of an error message. -/
def ErrorMessage.fromJson (j : Json) : Except Exn ErrorMessage := do
  let errorCode ← (← j.atKey (text "error_code")).getString
  let message ← (← j.atKey (text "message")).getString
  let sessionId ← optionalString j (text "session_id")
  pure { errorCode, message, sessionId }

/-- `from_json` of a reload request. -/
def ReloadRequestMessage.fromJson (j : Json) : Except Exn ReloadRequestMessage := do
  let sessionId ← (← j.atKey (text "session_id")).getString
  let amt ← j.atKey (text "requested_amount")
  let requestedAmount ← centsFromJson (text "requested_amount") amt
  pure { sessionId, requestedAmount }

/-- `from_json` of a reload response. -/
def ReloadResponseMessage.fromJson (j : Json) : Except Exn ReloadResponseMessage := do
  let granted ← (← j.atKey (text "granted")).getBoolean
  let newStack ← (← j.atKey (text "new_stack")).getInt64
  pure { granted, newStack }

/-- `from_json` of a disconnect message. -/
def DisconnectMessage.fromJson (j : Json) : Except Exn DisconnectMessage := do
  let sessionId ← (← j.atKey (text "session_id")).getString
  let reason ← optionalString j (text "reason")
  pure { sessionId, reason }

/-- `from_json` of an envelope. -/
def MessageEnvelope.fromJson (j : Json) : Except Exn MessageEnvelope := do
  let messageType ← (← j.atKey (text "message_type")).getString
  let protocolVersion ← (← j.atKey (text "protocol_version")).getString
  let payload ← j.atKey (text "payload")
  pure { messageType, protocolVersion, payload }

/-! ## To JSON -/

/-- `if (value) j[key] = *value`. -/
def setOptional {T : Type} (j : Json) (key : Text) (toJson : T → Json) : Option T → Json
  | some value => j.setField key (toJson value)
  | none => j

/-- A `std::vector<std::string>` as JSON. -/
def stringsToJson (items : List Text) : Json := .array (items.map Json.string)

/-- `to_json` of a player stack. -/
def PlayerStack.toJson (p : PlayerStack) : Json :=
  .ofFields [(text "seat", .integer p.seat.toInt64), (text "stack", .integer p.stack)]

/-- `to_json` of a handshake message. -/
def HandshakeMessage.toJson (m : HandshakeMessage) : Json :=
  setOptional (.ofFields [(text "protocol_version", .string m.protocolVersion)])
    (text "client_name") Json.string m.clientName

/-- `to_json` of a handshake response. -/
def HandshakeResponse.toJson (m : HandshakeResponse) : Json :=
  .ofFields [(text "session_id", .string m.sessionId),
    (text "seat_number", .integer m.seatNumber.toInt64),
    (text "starting_stack", .integer m.startingStack)]

/-- `to_json` of an action message. -/
def ActionMessage.toJson (m : ActionMessage) : Json :=
  setOptional (.ofFields [(text "session_id", .string m.sessionId),
      (text "action_type", .string m.actionType),
      (text "sequence_number", .integer m.sequenceNumber)])
    (text "amount") Json.integer m.amount

/-- `to_json` of a state update. -/
def StateUpdateMessage.toJson (m : StateUpdateMessage) : Json :=
  let j := Json.ofFields [(text "game_phase", .string m.gamePhase),
    (text "pot_size", .integer m.potSize),
    (text "current_bet", .integer m.currentBet),
    (text "player_stacks", .array (m.playerStacks.map PlayerStack.toJson)),
    (text "valid_actions", stringsToJson m.validActions)]
  let j := setOptional j (text "community_cards") stringsToJson m.communityCards
  let j := setOptional j (text "hole_cards") stringsToJson m.holeCards
  setOptional j (text "acting_seat") (fun seat => .integer seat.toInt64) m.actingSeat

/-- `to_json` of an error message. -/
def ErrorMessage.toJson (m : ErrorMessage) : Json :=
  let j := Json.ofFields [(text "error_code", .string m.errorCode),
    (text "message", .string m.message)]
  match m.sessionId with
  | some sid => j.setField (text "session_id") (.string sid)
  | none => j

/-- `to_json` of a reload request. -/
def ReloadRequestMessage.toJson (m : ReloadRequestMessage) : Json :=
  .ofFields [(text "session_id", .string m.sessionId),
    (text "requested_amount", .integer m.requestedAmount)]

/-- `to_json` of a reload response. -/
def ReloadResponseMessage.toJson (m : ReloadResponseMessage) : Json :=
  .ofFields [(text "granted", .boolean m.granted), (text "new_stack", .integer m.newStack)]

/-- `to_json` of a disconnect message. -/
def DisconnectMessage.toJson (m : DisconnectMessage) : Json :=
  setOptional (.ofFields [(text "session_id", .string m.sessionId)]) (text "reason") Json.string
    m.reason

/-- `to_json` of an envelope. -/
def MessageEnvelope.toJson (m : MessageEnvelope) : Json :=
  .ofFields [(text "message_type", .string m.messageType),
    (text "protocol_version", .string m.protocolVersion), (text "payload", m.payload)]

/-! ## Serialization -/

section Serialize

variable (lib : JsonLib)

/-- `serialize_message`: the envelope of a payload, printed. -/
def serializeMessage (payload : Json) (messageType : Text) : Except Text Text :=
  lib.dump (MessageEnvelope.toJson { messageType, protocolVersion, payload })

/-- `serialize_state_update`. -/
def serializeStateUpdate (msg : StateUpdateMessage) : Except Text Text :=
  serializeMessage lib msg.toJson MessageType.stateUpdate

/-- `serialize_error`. -/
def serializeError (msg : ErrorMessage) : Except Text Text :=
  serializeMessage lib msg.toJson MessageType.error

/-- `serialize_handshake_response`. -/
def serializeHandshakeResponse (msg : HandshakeResponse) : Except Text Text :=
  serializeMessage lib msg.toJson MessageType.handshakeResponse

/-- `serialize_reload_response`. -/
def serializeReloadResponse (msg : ReloadResponseMessage) : Except Text Text :=
  serializeMessage lib msg.toJson MessageType.reloadResponse

end Serialize

end CppSim.Protocol
