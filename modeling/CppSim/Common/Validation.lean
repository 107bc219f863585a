import CppSim.Common.Routes

/-!
# The public validators

`protocol_validation.cpp` offers the checks of single fields to the users of the library.  The
parsers do not call them: but for the format of a session id, which is shared, they make checks
of their own, with lists and bounds of their own.

`parsers_agree_validators` says that the two are the same rules.  What a parser accepts is what
decodes to a message whose fields the validators accept, and what they say about the message
types is what a session that looks a type up finds.
-/

namespace CppSim.Protocol

/-! ## The validators -/

/-- `isalnum`. -/
def isAlnum (c : UInt8) : Bool :=
  (48 ≤ c && c ≤ 57) || (65 ≤ c && c ≤ 90) || (97 ≤ c && c ≤ 122)

def isValidMessageType (messageType : Text) (allowedTypes : List Text) : Bool :=
  if messageType = [] then false
  else if messageType.any fun c => !isAlnum c && c != 95 then false
  else allowedTypes.contains messageType

def isValidSessionId (sessionId : Text) : Bool :=
  if sessionId = [] then false else validateSessionIdFormat sessionId

def isValidActionType (actionType : Text) : Bool :=
  [text "FOLD", text "CHECK", text "CALL", text "RAISE", text "ALL_IN"].contains actionType

/-- The bounds of the caller, where it gives them, come on top of the library's. -/
def isValidAmount (amount : Int64) (minAmount maxAmount : Option Int64) : Bool :=
  if amount ≤ 0 then false
  else if minAmount.any fun min => amount < min then false
  else if maxAmount.any fun max => amount > max then false
  else if amount > Protocol.maxAmount then false
  else true

def isValidGamePhase (gamePhase : Text) : Bool :=
  [text "WAITING", text "PREFLOP", text "FLOP", text "TURN", text "RIVER", text "SHOWDOWN",
    text "HAND_COMPLETE"].contains gamePhase

def isValidSeatNumber (seat maxSeats : Int32) : Bool := 0 ≤ seat && seat < maxSeats

/-! ## What each accepts -/

section Fields

variable {messageType sessionId actionType : Text} {allowedTypes : List Text} {amount : Int64}
  {minAmount maxAmount : Option Int64}

/-- Where the allowed types are words, a type is valid if it is one of them. -/
theorem isValidMessageType_iff (hne : [] ∉ allowedTypes)
    (hwords : ∀ t ∈ allowedTypes, ∀ c ∈ t, isAlnum c = true ∨ c = 95) :
    isValidMessageType messageType allowedTypes = true ↔ messageType ∈ allowedTypes := by
  unfold isValidMessageType
  constructor
  · intro h
    split_ifs at h
    exact List.contains_iff_mem.mp h
  · intro hmem
    have hnil : messageType ≠ [] := fun hnil => hne (hnil ▸ hmem)
    have hword : (messageType.any fun c => !isAlnum c && c != 95) = false := by
      rw [List.any_eq_false]
      intro c hc
      rcases hwords messageType hmem c hc with hletter | rfl
      · simp [hletter]
      · simp
    rw [if_neg hnil, hword, if_neg Bool.false_ne_true]
    exact List.contains_iff_mem.mpr hmem

theorem isValidSessionId_iff :
    isValidSessionId sessionId = true ↔ validateSessionIdFormat sessionId = true := by
  unfold isValidSessionId
  split
  · rename_i hnil
    subst hnil
    decide
  · rfl

theorem isValidActionType_iff : isValidActionType actionType = true ↔ actionType ∈ validActionTypes :=
  List.contains_iff_mem

theorem isValidAmount_iff :
    isValidAmount amount minAmount maxAmount = true ↔
      0 < amount ∧ amount ≤ Protocol.maxAmount ∧ (∀ min ∈ minAmount, min ≤ amount) ∧
        ∀ max ∈ maxAmount, amount ≤ max := by
  have hmin : (minAmount.any fun min => decide (amount < min)) = true ↔
      ¬ ∀ min ∈ minAmount, min ≤ amount := by
    cases minAmount <;> simp
  have hmax : (maxAmount.any fun max => decide (amount > max)) = true ↔
      ¬ ∀ max ∈ maxAmount, amount ≤ max := by
    cases maxAmount <;> simp
  unfold isValidAmount
  simp only [hmin, hmax]
  constructor
  · intro h
    split_ifs at h with hpos hlow hhigh hcap
    exact ⟨Int64.not_le.mp hpos, Int64.not_lt.mp hcap, hlow, hhigh⟩
  · rintro ⟨hpos, hcap, hlow, hhigh⟩
    rw [if_neg (Int64.not_le.mpr hpos), if_neg (not_not.mpr hlow), if_neg (not_not.mpr hhigh),
      if_neg (Int64.not_lt.mpr hcap)]

end Fields

/-! ## Messages -/

/-- The types of all messages. -/
def messageTypes : List Text :=
  [MessageType.handshake, MessageType.handshakeResponse, MessageType.action,
    MessageType.stateUpdate, MessageType.error, MessageType.reloadRequest,
    MessageType.reloadResponse, MessageType.disconnect]

/-- The validators accept the fields of an ACTION. -/
structure ActionMessage.Validated (m : ActionMessage) : Prop where
  sessionId : isValidSessionId m.sessionId = true
  sequenceNumber : 0 ≤ m.sequenceNumber
  actionType : isValidActionType m.actionType = true
  amount : ∀ cents ∈ m.amount, isValidAmount cents none none = true
  amount_iff : m.amount.isSome = true ↔ m.actionType ∈ amountRequiredTypes

theorem ActionMessage.validated_iff {m : ActionMessage} : m.Validated ↔ m.Valid := by
  have hamount : ∀ cents, isValidAmount cents none none = true ↔ 0 < cents ∧ cents ≤ maxAmount := by
    intro cents
    simp [isValidAmount_iff]
  constructor
  · rintro ⟨hid, hsequence, htype, hcents, hiff⟩
    exact ⟨isValidSessionId_iff.mp hid, hsequence, isValidActionType_iff.mp htype,
      fun cents h => (hamount cents).mp (hcents cents h), hiff⟩
  · rintro ⟨hid, hsequence, htype, hcents, hiff⟩
    exact ⟨isValidSessionId_iff.mpr hid, hsequence, isValidActionType_iff.mpr htype,
      fun cents h => (hamount cents).mpr (hcents cents h), hiff⟩

theorem ReloadRequestMessage.valid_iff {m : ReloadRequestMessage} :
    m.Valid ↔ isValidSessionId m.sessionId = true ∧
      isValidAmount m.requestedAmount none none = true := by
  rw [isValidSessionId_iff, isValidAmount_iff]
  constructor
  · rintro ⟨hid, hpos, hle⟩
    exact ⟨hid, hpos, hle, by simp, by simp⟩
  · rintro ⟨hid, hpos, hle, -, -⟩
    exact ⟨hid, hpos, hle⟩

theorem isValidMessageType_messageTypes {messageType : Text} :
    isValidMessageType messageType messageTypes = true ↔ messageType ∈ messageTypes :=
  isValidMessageType_iff (by decide +kernel) (by decide +kernel)

theorem mem_messageTypes_of_accepted {lib : JsonLib} {s messageType : Text}
    (h : messageType ∈ acceptedTypes lib s) : messageType ∈ messageTypes := by
  obtain ⟨entry, hentry, rfl⟩ := List.mem_map.mp h
  have hmem := List.mem_of_mem_filter hentry
  simp only [verdicts, List.mem_cons, List.not_mem_nil, or_false] at hmem
  rcases hmem with rfl | rfl | rfl | rfl <;> simp [messageTypes]

/-- The parsers of ACTION and RELOAD_REQUEST accept what decodes to a message whose fields the
validators accept.  A DISCONNECT that is parsed has a valid session id, and a text that any
parser accepts is of a valid type. -/
theorem parsers_agree_validators (lib : JsonLib) (s : Text) :
    (∀ m, (parseAction lib s).value = some m ↔ ∃ j, lib.parse s = .ok j ∧
        Carries ActionMessage.fromJson MessageType.action protocolVersion j m ∧ m.Validated) ∧
      (∀ m, (parseReloadRequest lib s).value = some m ↔ ∃ j, lib.parse s = .ok j ∧
        Carries ReloadRequestMessage.fromJson MessageType.reloadRequest protocolVersion j m ∧
          isValidSessionId m.sessionId = true ∧ isValidAmount m.requestedAmount none none = true) ∧
      (∀ m, (parseDisconnect lib s).value = some m → isValidSessionId m.sessionId = true) ∧
      ∀ messageType ∈ acceptedTypes lib s, isValidMessageType messageType messageTypes = true := by
  refine ⟨fun m => ?_, fun m => ?_, fun m h => ?_, fun messageType h => ?_⟩
  · simp only [parseAction_eq_some, ActionMessage.validated_iff]
  · simp only [parseReloadRequest_eq_some, ReloadRequestMessage.valid_iff]
  · obtain ⟨j, -, -, hvalid⟩ := parseDisconnect_eq_some.mp h
    exact isValidSessionId_iff.mpr hvalid.sessionId
  · exact isValidMessageType_messageTypes.mpr (mem_messageTypes_of_accepted h)

end CppSim.Protocol
