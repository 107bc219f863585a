import CppSim.Common.Acceptance
import CppSim.Common.Reread

/-!
# The lines the parsers log

Each line of the protocol's error logger is a literal, a literal with the text of an
exception, or a literal with a string of the client.  The library parses valid UTF-8 only,
and describes its exceptions in UTF-8 where they refer to nothing else, so a line is UTF-8
unless a string of the client is cut.

One line cuts a string at a byte, whatever character stands there: the one about an
`action_type` that is not known.  `ActionMessage.CutsCleanly` is the case in which the cut
does no harm, and `logged_parseActionFromEnvelope` says that the lines about an ACTION are
UTF-8 in this case and in no other.
-/

namespace CppSim

/-! ## Exceptions -/

/-- What an exception of the library refers to is valid UTF-8. -/
def JsonException.Utf8 : JsonException → Prop
  | .keyNotFound key => IsUtf8 key
  | .wrongType _ actual => actual.StringsUtf8

/-- The library describes an exception that refers to valid UTF-8 in valid UTF-8. -/
def JsonLib.DescribesUtf8 (lib : JsonLib) : Prop :=
  ∀ exception : JsonException, exception.Utf8 → IsUtf8 (lib.what exception)

theorem JsonLib.describesUtf8_knowing (values : List Json) :
    (JsonLib.knowing values).DescribesUtf8 := by
  intro exception h
  cases exception with
  | keyNotFound key => exact ((isUtf8_text _).append h).append (isUtf8_text _)
  | wrongType => exact (isUtf8_text _).append (isUtf8_text _)

def Exn.Utf8 : Exn → Prop
  | .json exception => exception.Utf8
  | .std what => IsUtf8 what

theorem Exn.Utf8.what {lib : JsonLib} {e : Exn} (h : e.Utf8) (hlib : lib.DescribesUtf8) :
    IsUtf8 (e.what lib) := by
  cases e with
  | json exception => exact hlib exception h
  | std what => exact h

/-! ## What the decoders throw -/

/-- What a computation throws, if it throws, satisfies the predicate. -/
def Throws {T : Type} (P : Exn → Prop) (x : Except Exn T) : Prop := ∀ e, x = .error e → P e

section Throws

variable {P : Exn → Prop} {T T' : Type}

theorem throws_ok (value : T) : Throws P (.ok value : Except Exn T) := by
  intro e h
  cases h

theorem throws_error {e : Exn} (h : P e) : Throws P (.error e : Except Exn T) := by
  rintro _ ⟨⟩
  exact h

/-- Each part of a computation may throw. -/
theorem Throws.bind {x : Except Exn T} {f : T → Except Exn T'} (hx : Throws P x)
    (hf : ∀ value, x = .ok value → Throws P (f value)) : Throws P (x >>= f) := by
  cases x with
  | error e => exact throws_error (hx e rfl)
  | ok value => exact hf value rfl

end Throws

/-- The keys the decoders look up. -/
def decoderKeys : List String :=
  ["message_type", "protocol_version", "payload", "client_name", "session_id", "action_type",
    "sequence_number", "amount", "requested_amount", "reason"]

/-- The types they ask for. -/
def decoderTypes : List String := ["object", "string", "number"]

/-- How the texts of their own exceptions end, after a key. -/
def decoderTexts : List String := [" must be finite", " out of representable range after conversion"]

/-- Whatever the decoders throw about a value with `Q` satisfies `P`. -/
structure Covers (P : Exn → Prop) (Q : Json → Prop) : Prop where
  field : ∀ {j value : Json} {key : Text}, Q j → j.field? key = some value → Q value
  keyNotFound : ∀ key ∈ decoderKeys, P (.json (.keyNotFound (text key)))
  wrongType : ∀ expected ∈ decoderTypes, ∀ j, Q j → P (.json (.wrongType expected j))
  std : ∀ key ∈ decoderKeys, ∀ ending ∈ decoderTexts, P (.std (text key ++ text ending))

theorem covers_utf8 : Covers Exn.Utf8 Json.StringsUtf8 where
  field h hfield := h.field? hfield
  keyNotFound key _ := isUtf8_text key
  wrongType _ _ _ h := h
  std key _ ending _ := (isUtf8_text key).append (isUtf8_text ending)

namespace Covers

open Protocol

variable {P : Exn → Prop} {Q : Json → Prop} {T : Type} {j : Json}

theorem atKey (covers : Covers P Q) (h : Q j) {key : String} (hkey : key ∈ decoderKeys) :
    Throws P (j.atKey (text key)) := by
  cases j with
  | object fields =>
      simp only [Json.atKey]
      split
      · exact throws_ok _
      · exact throws_error (covers.keyNotFound key hkey)
  | _ => exact throws_error (covers.wrongType "object" (by decide) _ h)

theorem getString (covers : Covers P Q) (h : Q j) : Throws P j.getString := by
  cases j with
  | string value => exact throws_ok value
  | _ => exact throws_error (covers.wrongType "string" (by decide) _ h)

theorem getInt64 (covers : Covers P Q) (h : Q j) : Throws P j.getInt64 := by
  cases j with
  | integer | unsigned | float => exact throws_ok _
  | _ => exact throws_error (covers.wrongType "number" (by decide) _ h)

theorem getUInt64 (covers : Covers P Q) (h : Q j) : Throws P j.getUInt64 := by
  cases j with
  | integer | unsigned => exact throws_ok _
  | _ => exact throws_error (covers.wrongType "number" (by decide) _ h)

theorem getDouble (covers : Covers P Q) (h : Q j) : Throws P j.getDouble := by
  cases j with
  | integer | unsigned | float => exact throws_ok _
  | _ => exact throws_error (covers.wrongType "number" (by decide) _ h)

/-- A string that must be there. -/
theorem string (covers : Covers P Q) {f : Text → Except Exn T} (h : Q j) {key : String}
    (hkey : key ∈ decoderKeys) (hf : ∀ s, Throws P (f s)) :
    Throws P (do
      let value ← j.atKey (text key)
      let s ← value.getString
      f s) := by
  apply (covers.atKey h hkey).bind
  intro value hvalue
  have hvalue := covers.field h (Json.field?_of_atKey hvalue)
  exact (covers.getString hvalue).bind fun s _ => hf s

theorem optionalString (covers : Covers P Q) (h : Q j) (key : Text) :
    Throws P (optionalString j key) := by
  unfold Protocol.optionalString
  split
  · rename_i value hvalue
    have hvalue := covers.field h (optionalField_eq_some hvalue)
    exact (covers.getString hvalue).bind fun s _ => throws_ok (some s)
  · exact throws_ok none

theorem roundedCents (covers : Covers P Q) {field : String} (hfield : field ∈ decoderKeys)
    (dollars : Double) : Throws P (roundedCents (text field) dollars) := by
  unfold Protocol.roundedCents
  split
  · unfold roundInRange
    split
    · dsimp only
      split
      · exact throws_error (covers.std field hfield _ (by decide))
      · exact throws_ok _
    · exact throws_error (covers.std field hfield _ (by decide))
  · exact throws_error (covers.std field hfield _ (by decide))

theorem centsFromJson (covers : Covers P Q) (h : Q j) {field : String} (hfield : field ∈ decoderKeys) :
    Throws P (centsFromJson (text field) j) := by
  unfold Protocol.centsFromJson
  split
  · exact covers.getInt64 h
  · split
    · exact (covers.getUInt64 h).bind fun n _ => throws_ok n.toInt64
    · apply (covers.getDouble h).bind
      intro dollars _
      exact (covers.roundedCents hfield dollars).bind fun cents _ => throws_ok _

theorem envelope (covers : Covers P Q) (h : Q j) : Throws P (MessageEnvelope.fromJson j) := by
  apply covers.string h (by decide)
  intro messageType
  apply covers.string h (by decide)
  intro protocolVersion
  exact (covers.atKey h (by decide)).bind fun payload _ => throws_ok _

theorem handshake (covers : Covers P Q) (h : Q j) : Throws P (HandshakeMessage.fromJson j) := by
  apply covers.string h (by decide)
  intro protocolVersion
  exact (covers.optionalString h _).bind fun clientName _ => throws_ok _

theorem action (covers : Covers P Q) (h : Q j) : Throws P (ActionMessage.fromJson j) := by
  apply covers.string h (by decide)
  intro sessionId
  apply covers.string h (by decide)
  intro actionType
  apply (covers.atKey h (by decide)).bind
  intro value hvalue
  apply (covers.getInt64 (covers.field h (Json.field?_of_atKey hvalue))).bind
  intro sequenceNumber _
  dsimp only
  split
  · rename_i amount hamount
    have hstrings := covers.field h (optionalField_eq_some hamount)
    exact (covers.centsFromJson hstrings (by decide)).bind fun cents _ => throws_ok _
  · exact throws_ok _

theorem reloadRequest (covers : Covers P Q) (h : Q j) :
    Throws P (ReloadRequestMessage.fromJson j) := by
  apply covers.string h (by decide)
  intro sessionId
  apply (covers.atKey h (by decide)).bind
  intro amount hamount
  have hstrings := covers.field h (Json.field?_of_atKey hamount)
  exact (covers.centsFromJson hstrings (by decide)).bind fun cents _ => throws_ok _

theorem disconnect (covers : Covers P Q) (h : Q j) : Throws P (DisconnectMessage.fromJson j) := by
  apply covers.string h (by decide)
  intro sessionId
  exact (covers.optionalString h _).bind fun reason _ => throws_ok _

end Covers

namespace Protocol

/-! ## Lines -/

/-- Every line is valid UTF-8. -/
def LinesUtf8 (lines : List Text) : Prop := ∀ line ∈ lines, IsUtf8 line

theorem linesUtf8_nil : LinesUtf8 [] := by
  intro line hline
  cases hline

theorem linesUtf8_singleton {line : Text} : LinesUtf8 [line] ↔ IsUtf8 line := List.forall_mem_singleton

theorem linesUtf8_validateSessionIdField (sid : Text) (messageName : String) :
    LinesUtf8 (validateSessionIdField sid (text messageName)) := by
  unfold validateSessionIdField
  split
  · exact linesUtf8_singleton.mpr (((isUtf8_text _).append (isUtf8_text _)).append (isUtf8_text _))
  · exact linesUtf8_nil

theorem isUtf8_truncField_validActionTypes {actionType : Text} (h : actionType ∈ validActionTypes) :
    IsUtf8 (truncField actionType 64) := by
  have hall : ∀ t ∈ validActionTypes, IsUtf8 (truncField t 64) := by decide +kernel
  exact hall actionType h

/-- If the action's type is looked up and is longer than its line shows, then what the line
shows of it ends with a character. -/
def ActionMessage.CutsCleanly (m : ActionMessage) : Prop :=
  validateSessionIdFormat m.sessionId = true → 0 ≤ m.sequenceNumber →
    64 < m.actionType.length → IsUtf8 (m.actionType.take 64)

theorem text_dots_ascii : ∀ byte ∈ text "...", byte < 128 := by
  have hdots : text "..." = [46, 46, 46] := rfl
  rw [hdots]
  simp

/-- The cut is harmless if what is left in front of the dots is valid. -/
theorem isUtf8_truncField {s : Text} (h : IsUtf8 s) (maxLen : ℕ) :
    IsUtf8 (truncField s maxLen) ↔ (maxLen < s.length → IsUtf8 (s.take maxLen)) := by
  unfold truncField
  by_cases hlength : s.length ≤ maxLen
  · simp [hlength, h]
  · rw [if_neg hlength, isUtf8_append_ascii_iff text_dots_ascii]
    simp [not_le.mp hlength]

theorem linesUtf8_checkAction {m : ActionMessage} (h : IsUtf8 m.actionType) :
    LinesUtf8 (checkAction m) ↔ m.CutsCleanly := by
  unfold checkAction ActionMessage.CutsCleanly
  have hline := linesUtf8_validateSessionIdField m.sessionId "ACTION"
  rcases validateSessionIdField_cases m.sessionId (text "ACTION") with
    ⟨hfield, hid⟩ | ⟨line, hfield, hid⟩
  · simp only [hfield, hid, true_implies]
    by_cases hsequence : m.sequenceNumber < 0
    · rw [if_pos hsequence]
      refine iff_of_true (linesUtf8_singleton.mpr (isUtf8_text _)) fun hnonneg => ?_
      exact absurd hsequence (Int64.not_lt.mpr hnonneg)
    · rw [if_neg hsequence]
      have hnonneg : 0 ≤ m.sequenceNumber := Int64.not_lt.mp hsequence
      by_cases hempty : m.actionType = []
      · rw [if_pos hempty]
        refine iff_of_true (linesUtf8_singleton.mpr (isUtf8_text _)) fun _ hlong => ?_
        simp [hempty] at hlong
      · rw [if_neg hempty]
        by_cases hvalid : m.actionType ∈ validActionTypes
        · -- the known types are shorter than the cut
          have hshort : ∀ t ∈ validActionTypes, t.length ≤ 64 := by decide
          have htype := isUtf8_truncField_validActionTypes hvalid
          rw [if_neg (not_not.mpr hvalid)]
          refine iff_of_true ?_ fun _ hlong => absurd (hshort _ hvalid) (Nat.not_le.mpr hlong)
          split
          · exact linesUtf8_singleton.mpr (isUtf8_text _)
          · split
            · exact linesUtf8_singleton.mpr (((isUtf8_text _).append htype).append (isUtf8_text _))
            · split
              · exact linesUtf8_singleton.mpr (((isUtf8_text _).append htype).append (isUtf8_text _))
              · exact linesUtf8_nil
        · rw [if_pos hvalid, linesUtf8_singleton, isUtf8_append_iff (isUtf8_text _),
            isUtf8_truncField h]
          simp [hnonneg]
  · rw [hfield] at hline ⊢
    exact iff_of_true hline fun hformat => absurd hformat hid

theorem linesUtf8_checkReload (m : ReloadRequestMessage) : LinesUtf8 (checkReload m) := by
  have hline := linesUtf8_validateSessionIdField m.sessionId "RELOAD_REQUEST"
  unfold checkReload
  split
  · rename_i line rest hfield
    exact linesUtf8_singleton.mpr (hline line (hfield ▸ List.mem_cons_self))
  · split
    · exact linesUtf8_singleton.mpr (isUtf8_text _)
    · exact linesUtf8_nil

theorem linesUtf8_checkDisconnect (m : DisconnectMessage) : LinesUtf8 (checkDisconnect m) := by
  have hline := linesUtf8_validateSessionIdField m.sessionId "DISCONNECT"
  unfold checkDisconnect
  split
  · rename_i line rest hfield
    exact linesUtf8_singleton.mpr (hline line (hfield ▸ List.mem_cons_self))
  · split
    · exact linesUtf8_nil
    · split
      · exact linesUtf8_singleton.mpr (isUtf8_text _)
      · split
        · exact linesUtf8_singleton.mpr (isUtf8_text _)
        · exact linesUtf8_nil

theorem linesUtf8_checkClientName (name : Text) : LinesUtf8 (checkClientName name) := by
  unfold checkClientName
  split_ifs with hlength hprintable hblank
  · exact linesUtf8_singleton.mpr (isUtf8_text _)
  · exact linesUtf8_singleton.mpr (isUtf8_text _)
  · exact linesUtf8_singleton.mpr (isUtf8_text _)
  · exact linesUtf8_nil

/-! ## The parsers -/

section Parsers

variable {lib : JsonLib} {message : Text} {j : Json}

theorem linesUtf8_extractMessageTypeAndJson (hparse : lib.parse message = .ok j) :
    LinesUtf8 (extractMessageTypeAndJson lib message).log := by
  simp only [extractMessageTypeAndJson, hparse]
  split
  · split
    · exact linesUtf8_singleton.mpr (isUtf8_text _)
    · exact linesUtf8_nil
  · exact linesUtf8_singleton.mpr (isUtf8_text _)

/-- An envelope that is not decoded is reported with the text of the exception, or with its
version, which is a string of the client. -/
theorem linesUtf8_parseFromEnvelope {T : Type} {fromJson : Json → Except Exn T}
    {expectedType : Text} {messageName : String} (hlib : lib.DescribesUtf8) (hj : j.StringsUtf8)
    (hthrows : ∀ payload : Json, payload.StringsUtf8 → Throws Exn.Utf8 (fromJson payload)) :
    LinesUtf8 (parseFromEnvelope lib fromJson expectedType (text messageName) j).log := by
  have hname : IsUtf8 (text "[Protocol] " ++ text messageName) := (isUtf8_text _).append (isUtf8_text _)
  unfold parseFromEnvelope
  split
  · rename_i e hthrow
    have he := covers_utf8.envelope hj e hthrow
    exact linesUtf8_singleton.mpr ((hname.append (isUtf8_text _)).append (he.what hlib))
  · rename_i envelope henvelope
    obtain ⟨-, hversion, hpayload⟩ := MessageEnvelope.fromJson_eq_ok.mp henvelope
    split
    · exact linesUtf8_nil
    · split
      · have hgot := Json.stringsUtf8_string.mp (hj.field? hversion)
        exact linesUtf8_singleton.mpr ((((hname.append (isUtf8_text _)).append (isUtf8_text _)).append
          (isUtf8_text _)).append hgot)
      · split
        · rename_i e hthrow
          have he := hthrows _ (hj.field? hpayload) e hthrow
          exact linesUtf8_singleton.mpr ((hname.append (isUtf8_text _)).append (he.what hlib))
        · exact linesUtf8_nil

/-- A parser that returns a message has logged nothing. -/
theorem log_parseFromEnvelope {T : Type} {fromJson : Json → Except Exn T} {expectedType name : Text}
    {m : T} (h : (parseFromEnvelope lib fromJson expectedType name j).value = some m) :
    (parseFromEnvelope lib fromJson expectedType name j).log = [] := by
  obtain ⟨payload, henvelope, hm⟩ := parseFromEnvelope_eq_some.mp h
  simp [parseFromEnvelope, henvelope, hm, Logged.quiet]

/-- The lines of a parser and of the checks after it. -/
theorem log_validate {T : Type} {check : T → List Text} {result : Logged (Option T)} :
    (validate check result).log = result.log ++ result.value.elim [] check := by
  unfold validate
  split
  · rename_i hnone
    simp [hnone]
  · rename_i m hsome
    split
    · rename_i hcheck
      simp [hsome, hcheck]
    · simp [hsome]

theorem linesUtf8_parseReloadFromEnvelope (hlib : lib.DescribesUtf8) (hj : j.StringsUtf8) :
    LinesUtf8 (parseReloadFromEnvelope lib j).log := by
  rw [parseReloadFromEnvelope, validateReload, log_validate]
  refine List.forall_mem_append.mpr ⟨?_, ?_⟩
  · exact linesUtf8_parseFromEnvelope hlib hj fun _ => covers_utf8.reloadRequest
  · cases (parseFromEnvelope lib _ _ _ j).value with
    | none => exact linesUtf8_nil
    | some m => exact linesUtf8_checkReload m

theorem linesUtf8_parseDisconnectFromEnvelope (hlib : lib.DescribesUtf8) (hj : j.StringsUtf8) :
    LinesUtf8 (parseDisconnectFromEnvelope lib j).log := by
  rw [parseDisconnectFromEnvelope, validateDisconnect, log_validate]
  refine List.forall_mem_append.mpr ⟨?_, ?_⟩
  · exact linesUtf8_parseFromEnvelope hlib hj fun _ => covers_utf8.disconnect
  · cases (parseFromEnvelope lib _ _ _ j).value with
    | none => exact linesUtf8_nil
    | some m => exact linesUtf8_checkDisconnect m

/-- The type of an action is a string of the envelope it was carried in. -/
theorem Carries.isUtf8_actionType {m : ActionMessage} {version : Text}
    (h : Carries ActionMessage.fromJson MessageType.action version j m) (hj : j.StringsUtf8) :
    IsUtf8 m.actionType := by
  obtain ⟨payload, henvelope, hm⟩ := h
  obtain ⟨-, -, hpayload⟩ := MessageEnvelope.fromJson_eq_ok.mp henvelope
  simp only [ActionMessage.fromJson, bind, except_bind_eq_ok] at hm
  obtain ⟨_, -, _, -, value, hvalue, actionType, htype, _, -, _, -, hm⟩ := hm
  obtain rfl : actionType = m.actionType := by
    split at hm
    · obtain ⟨cents, -, hm⟩ := except_bind_eq_ok.mp hm
      exact congrArg ActionMessage.actionType (Except.ok.inj hm)
    · exact congrArg ActionMessage.actionType (Except.ok.inj hm)
  exact (hj.field? hpayload).isUtf8 hvalue htype

/-- The lines about an ACTION are valid UTF-8 exactly if its type is not cut within a
character. -/
theorem linesUtf8_parseActionFromEnvelope (hlib : lib.DescribesUtf8) (hj : j.StringsUtf8) :
    LinesUtf8 (parseActionFromEnvelope lib j).log ↔
      ∀ m, Carries ActionMessage.fromJson MessageType.action protocolVersion j m →
        m.CutsCleanly := by
  rw [parseActionFromEnvelope, validateAction, log_validate]
  have hlines : LinesUtf8 (parseFromEnvelope lib ActionMessage.fromJson MessageType.action
      (text "Action") j).log :=
    linesUtf8_parseFromEnvelope hlib hj fun _ => covers_utf8.action
  have hcarries : ∀ m, Carries ActionMessage.fromJson MessageType.action protocolVersion j m ↔
      (parseFromEnvelope lib ActionMessage.fromJson MessageType.action
        (text "Action") j).value = some m := fun _ => parseFromEnvelope_eq_some.symm
  simp only [hcarries]
  cases hvalue : (parseFromEnvelope lib ActionMessage.fromJson MessageType.action
      (text "Action") j).value with
  | none => simp [hlines]
  | some m =>
      have htype := (parseFromEnvelope_eq_some.mp hvalue).isUtf8_actionType hj
      rw [log_parseFromEnvelope hvalue]
      simp [linesUtf8_checkAction htype]

theorem linesUtf8_parseHandshake (hparses : lib.ParsesUtf8) (hlib : lib.DescribesUtf8)
    (hparse : lib.parse message = .ok j) : LinesUtf8 (parseHandshake lib message).log := by
  have hj := hparses _ _ hparse
  simp only [parseHandshake, hparse]
  split
  · rename_i e hthrow
    have he := covers_utf8.envelope hj e hthrow
    exact linesUtf8_singleton.mpr ((isUtf8_text _).append (he.what hlib))
  · rename_i envelope henvelope
    obtain ⟨-, -, hpayload⟩ := MessageEnvelope.fromJson_eq_ok.mp henvelope
    split
    · exact linesUtf8_nil
    · split
      · rename_i e hthrow
        have he := covers_utf8.handshake (hj.field? hpayload) e hthrow
        exact linesUtf8_singleton.mpr ((isUtf8_text _).append (he.what hlib))
      · rename_i msg hmsg
        split
        · exact linesUtf8_singleton.mpr (isUtf8_text _)
        · split
          · rename_i line rest hname
            obtain ⟨name, hmem⟩ := mem_checkClientName_of_elim hname
            exact linesUtf8_singleton.mpr (linesUtf8_checkClientName name line hmem)
          · split
            · exact linesUtf8_singleton.mpr (isUtf8_text _)
            · exact linesUtf8_nil

end Parsers

end Protocol

end CppSim
