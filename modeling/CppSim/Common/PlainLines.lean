import CppSim.Common.ErrorLines

/-!
# Control characters in the lines of the parsers

A text is plain if it has no control character, so that it stays on the line of the log it is
written to.  The literals of the source are plain, and so are the texts that the checks have
restricted.  Two lines of the parsers show a string that nothing has restricted: the version of
an envelope that has another than the server's, and the type of an action that is not known,
which `trunc_field` cuts but does not change.

`EnvelopeMessage.ShowsPlainly` and `ActionMessage.ShowsPlainly` say that these strings are plain.
-/

namespace CppSim

open Protocol

/-- A control character of ASCII. -/
def isControl (c : UInt8) : Bool := c < 0x20 || c == 0x7f

/-- The text has no control character. -/
def IsPlain (s : Text) : Prop := ∀ c ∈ s, isControl c = false

instance (s : Text) : Decidable (IsPlain s) := inferInstanceAs (Decidable (∀ c ∈ s, _))

section Plain

variable {s t : Text}

theorem isPlain_nil : IsPlain [] := by
  intro c hc
  cases hc

theorem isPlain_append_iff : IsPlain (s ++ t) ↔ IsPlain s ∧ IsPlain t := List.forall_mem_append

theorem IsPlain.append (hs : IsPlain s) (ht : IsPlain t) : IsPlain (s ++ t) :=
  isPlain_append_iff.mpr ⟨hs, ht⟩

theorem IsPlain.take (h : IsPlain s) (n : ℕ) : IsPlain (s.take n) := by
  intro c hc
  exact h c (List.mem_of_mem_take hc)

theorem isControl_ofNat {n : ℕ} (hn : n < 256) :
    isControl (UInt8.ofNat n) = false ↔ 32 ≤ n ∧ n ≠ 127 := by
  simp only [isControl, Bool.or_eq_false_iff, decide_eq_false_iff_not, UInt8.lt_iff_toNat_lt,
    beq_eq_false_iff_ne, ne_eq, ← UInt8.toNat_inj, UInt8.toNat_ofNat', UInt8.reduceToNat]
  omega

/-- A character is plain, so that all bytes of its encoding are. -/
def plainChar (c : Char) : Bool := 32 ≤ c.toNat && c.toNat != 127

theorem isPlain_utf8EncodeChar {c : Char} (h : plainChar c = true) :
    IsPlain (String.utf8EncodeChar c) := by
  have hplain : 32 ≤ c.val.toNat ∧ c.val.toNat ≠ 127 := by simpa [plainChar] using h
  unfold String.utf8EncodeChar
  dsimp only
  -- the bytes of a longer encoding are all at least 128
  split_ifs with hone htwo hthree
  · exact List.forall_mem_singleton.mpr ((isControl_ofNat (by omega)).mpr hplain)
  all_goals
    intro b hb
    simp only [List.mem_cons, List.not_mem_nil, or_false] at hb
  · rcases hb with rfl | rfl <;> exact (isControl_ofNat (by omega)).mpr (by omega)
  · rcases hb with rfl | rfl | rfl <;> exact (isControl_ofNat (by omega)).mpr (by omega)
  · rcases hb with rfl | rfl | rfl | rfl <;> exact (isControl_ofNat (by omega)).mpr (by omega)

theorem isPlain_flatMap {chars : List Char} (h : ∀ c ∈ chars, plainChar c = true) :
    IsPlain (chars.flatMap String.utf8EncodeChar) := by
  intro b hb
  obtain ⟨c, hc, hb⟩ := List.mem_flatMap.mp hb
  exact isPlain_utf8EncodeChar (h c hc) b hb

/-- A literal, as the list of its characters. -/
theorem isPlain_text {chars : List Char} (h : chars.all plainChar = true) :
    IsPlain (text (String.ofList chars)) := by
  rw [text, String.toList_ofList]
  exact isPlain_flatMap (List.all_eq_true.mp h)

/-- What `trunc_field` adds is plain. -/
theorem isPlain_truncField {maxLen : ℕ} : IsPlain (truncField s maxLen) ↔ IsPlain (s.take maxLen) := by
  unfold truncField
  split
  · rename_i hlength
    rw [List.take_of_length_le hlength]
  · rw [isPlain_append_iff]
    exact and_iff_left (isPlain_text rfl)

theorem IsPlain.sanitizeSessionId (h : IsPlain s) : IsPlain (sanitizeSessionId s) :=
  isPlain_truncField.mpr (h.take _)

theorem isPlain_toText_natCast (n : ℕ) : IsPlain (toText n) := by
  rw [toText_natCast, text, String.toList_ofList]
  refine isPlain_flatMap fun c hc => ?_
  have hdigit := Nat.isDigit_of_mem_toDigits (by decide) (by decide) hc
  simp only [Char.isDigit, Bool.and_eq_true, decide_eq_true_eq, ge_iff_le, UInt32.le_iff_toNat_le]
    at hdigit
  have hlow : 48 ≤ c.toNat := hdigit.1
  have hhigh : c.toNat ≤ 57 := hdigit.2
  simp only [plainChar, Bool.and_eq_true, decide_eq_true_eq, bne_iff_ne]
  omega

theorem isPlain_toText (n : ℤ) : IsPlain (toText n) := by
  cases n with
  | ofNat n => exact isPlain_toText_natCast n
  | negSucc n =>
      have hsign : toText (.negSucc n) = text "-" ++ toText (n + 1 : ℕ) := by
        change text ("-" ++ Nat.repr (n + 1)) = text "-" ++ text (Nat.repr (n + 1))
        rw [text, String.toList_append, List.flatMap_append]
        rfl
      rw [hsign]
      exact (isPlain_text rfl : IsPlain (text "-")).append (isPlain_toText_natCast _)

theorem isPlain_of_printable (h : s.all isPrintableAscii = true) : IsPlain s := by
  intro c hc
  have hprintable := List.all_eq_true.mp h c hc
  simp only [isPrintableAscii, Bool.and_eq_true, decide_eq_true_eq, UInt8.le_iff_toNat_le,
    UInt8.lt_iff_toNat_lt] at hprintable
  simp only [isControl, Bool.or_eq_false_iff, decide_eq_false_iff_not, UInt8.lt_iff_toNat_lt,
    beq_eq_false_iff_ne, ne_eq, ← UInt8.toNat_inj]
  exact ⟨Nat.not_lt.mpr hprintable.1, Nat.ne_of_lt hprintable.2⟩

theorem isPrintableAscii_of_isValidSessionIdChar {c : UInt8} (h : isValidSessionIdChar c = true) :
    isPrintableAscii c = true := by
  simp only [isValidSessionIdChar, Bool.or_eq_true, Bool.and_eq_true, decide_eq_true_eq,
    beq_iff_eq, UInt8.le_iff_toNat_le, ← UInt8.toNat_inj] at h
  simp only [isPrintableAscii, Bool.and_eq_true, decide_eq_true_eq, UInt8.le_iff_toNat_le,
    UInt8.lt_iff_toNat_lt]
  simp only [UInt8.reduceToNat] at h ⊢
  omega

theorem isPlain_of_validateSessionIdFormat (h : validateSessionIdFormat s = true) : IsPlain s := by
  simp only [validateSessionIdFormat, Bool.and_eq_true, beq_iff_eq] at h
  obtain ⟨⟨-, hstart⟩, hrest⟩ := h
  rw [← List.take_append_drop 5 s, hstart]
  have hprintable : (s.drop 5).all isPrintableAscii = true :=
    List.all_eq_true.mpr fun c hc =>
      isPrintableAscii_of_isValidSessionIdChar (List.all_eq_true.mp hrest c hc)
  exact (isPlain_text rfl : IsPlain (text "sess_")).append (isPlain_of_printable hprintable)

end Plain

/-! ## Exceptions -/

def JsonException.Plain : JsonException → Prop
  | .keyNotFound key => IsPlain key
  | .wrongType expected _ => IsPlain (text expected)

def Exn.Plain : Exn → Prop
  | .json exception => exception.Plain
  | .std what => IsPlain what

/-- The texts of the library's exceptions have no control characters. -/
structure JsonLib.DescribesPlainly (lib : JsonLib) : Prop where
  parse : ∀ message what, lib.parse message = .error what → IsPlain what
  dump : ∀ j what, lib.dump j = .error what → IsPlain what
  what : ∀ exception : JsonException, exception.Plain → IsPlain (lib.what exception)

theorem JsonLib.describesPlainly_knowing (values : List Json) :
    (JsonLib.knowing values).DescribesPlainly where
  parse message what h := by
    simp only [JsonLib.knowing] at h
    split at h <;> cases h
    exact isPlain_text rfl
  dump j what h := by cases h
  what exception h := by
    cases exception with
    | keyNotFound key =>
        exact ((isPlain_text rfl : IsPlain (text "[json.exception.out_of_range.403] key '")).append
          h).append (isPlain_text rfl)
    | wrongType expected =>
        exact (isPlain_text rfl : IsPlain (text "[json.exception.type_error.302] type must be ")).append h

theorem Exn.Plain.what {lib : JsonLib} {e : Exn} (h : e.Plain) (hlib : lib.DescribesPlainly) :
    IsPlain (e.what lib) := by
  cases e with
  | json exception => exact hlib.what exception h
  | std what => exact h

theorem covers_plain : Covers Exn.Plain fun _ => True where
  field _ _ := trivial
  keyNotFound := by
    have hall : ∀ key ∈ decoderKeys, IsPlain (text key) := by decide +kernel
    exact hall
  wrongType := by
    have hall : ∀ expected ∈ decoderTypes, IsPlain (text expected) := by decide +kernel
    exact fun expected hexpected _ _ => hall expected hexpected
  std := by
    have hall : ∀ key ∈ decoderKeys, ∀ ending ∈ decoderTexts,
        IsPlain (text key ++ text ending) := by decide +kernel
    exact hall

namespace Protocol

/-! ## Lines -/

/-- No line has a control character. -/
def LinesPlain (lines : List Text) : Prop := ∀ line ∈ lines, IsPlain line

theorem linesPlain_nil : LinesPlain [] := by
  intro line hline
  cases hline

theorem linesPlain_singleton {line : Text} : LinesPlain [line] ↔ IsPlain line :=
  List.forall_mem_singleton

theorem linesPlain_validateSessionIdField (sid : Text) {messageName : Text}
    (hname : IsPlain messageName) : LinesPlain (validateSessionIdField sid messageName) := by
  unfold validateSessionIdField
  split
  · have hbegin : IsPlain (text "[Protocol] Invalid session_id in ") := isPlain_text rfl
    exact linesPlain_singleton.mpr ((hbegin.append hname).append (isPlain_text rfl))
  · exact linesPlain_nil

/-- If the action's type is looked up, and is not known, what the line shows of it is plain. -/
def ActionMessage.ShowsPlainly (m : ActionMessage) : Prop :=
  validateSessionIdFormat m.sessionId = true → 0 ≤ m.sequenceNumber →
    m.actionType ∉ validActionTypes → IsPlain (m.actionType.take 64)

theorem linesPlain_checkAction {m : ActionMessage} :
    LinesPlain (checkAction m) ↔ m.ShowsPlainly := by
  unfold checkAction ActionMessage.ShowsPlainly
  have hline := linesPlain_validateSessionIdField m.sessionId (isPlain_text rfl : IsPlain (text "ACTION"))
  rcases validateSessionIdField_cases m.sessionId (text "ACTION") with
    ⟨hfield, hid⟩ | ⟨line, hfield, hid⟩
  · simp only [hfield, hid, true_implies]
    by_cases hsequence : m.sequenceNumber < 0
    · rw [if_pos hsequence]
      refine iff_of_true (linesPlain_singleton.mpr (isPlain_text rfl)) fun hnonneg => ?_
      exact absurd hsequence (Int64.not_lt.mpr hnonneg)
    · rw [if_neg hsequence]
      have hnonneg : 0 ≤ m.sequenceNumber := Int64.not_lt.mp hsequence
      by_cases hempty : m.actionType = []
      · rw [if_pos hempty, hempty]
        exact iff_of_true (linesPlain_singleton.mpr (isPlain_text rfl)) fun _ _ => isPlain_nil
      · rw [if_neg hempty]
        by_cases hvalid : m.actionType ∈ validActionTypes
        · -- the known types are plain
          have hknown : ∀ t ∈ validActionTypes, IsPlain (truncField t 64) := by decide +kernel
          have htype := hknown _ hvalid
          have hbegin : IsPlain (text "[Protocol] ") := isPlain_text rfl
          rw [if_neg (not_not.mpr hvalid)]
          refine iff_of_true ?_ fun _ hunknown => absurd hvalid hunknown
          split
          · exact linesPlain_singleton.mpr (isPlain_text rfl)
          · split
            · exact linesPlain_singleton.mpr ((hbegin.append htype).append (isPlain_text rfl))
            · split
              · exact linesPlain_singleton.mpr ((hbegin.append htype).append (isPlain_text rfl))
              · exact linesPlain_nil
        · have hbegin : IsPlain (text "[Protocol] Invalid action_type: ") := isPlain_text rfl
          rw [if_pos hvalid, linesPlain_singleton, isPlain_append_iff, isPlain_truncField]
          simp [hnonneg, hvalid, hbegin]
  · rw [hfield] at hline ⊢
    exact iff_of_true hline fun hformat => absurd hformat hid

theorem linesPlain_checkReload (m : ReloadRequestMessage) : LinesPlain (checkReload m) := by
  have hline := linesPlain_validateSessionIdField m.sessionId
    (isPlain_text rfl : IsPlain (text "RELOAD_REQUEST"))
  unfold checkReload
  split
  · rename_i line rest hfield
    exact linesPlain_singleton.mpr (hline line (hfield ▸ List.mem_cons_self))
  · split
    · exact linesPlain_singleton.mpr (isPlain_text rfl)
    · exact linesPlain_nil

theorem linesPlain_checkDisconnect (m : DisconnectMessage) : LinesPlain (checkDisconnect m) := by
  have hline := linesPlain_validateSessionIdField m.sessionId
    (isPlain_text rfl : IsPlain (text "DISCONNECT"))
  unfold checkDisconnect
  split
  · rename_i line rest hfield
    exact linesPlain_singleton.mpr (hline line (hfield ▸ List.mem_cons_self))
  · split
    · exact linesPlain_nil
    · split
      · exact linesPlain_singleton.mpr (isPlain_text rfl)
      · split
        · exact linesPlain_singleton.mpr (isPlain_text rfl)
        · exact linesPlain_nil

theorem linesPlain_checkClientName (name : Text) : LinesPlain (checkClientName name) := by
  unfold checkClientName
  split_ifs with hlength hprintable hblank
  · exact linesPlain_singleton.mpr (isPlain_text rfl)
  · exact linesPlain_singleton.mpr (isPlain_text rfl)
  · exact linesPlain_singleton.mpr (isPlain_text rfl)
  · exact linesPlain_nil

/-! ## The parsers -/

/-- If the value is an envelope of the type, its version is plain. -/
def ShowsVersionPlainly (messageType : Text) (j : Json) : Prop :=
  ∀ version payload, MessageEnvelope.fromJson j = .ok ⟨messageType, version, payload⟩ →
    IsPlain version

section Parsers

variable {lib : JsonLib} {message : Text} {j : Json}

theorem linesPlain_extractMessageTypeAndJson (hlib : lib.DescribesPlainly) :
    LinesPlain (extractMessageTypeAndJson lib message).log := by
  unfold extractMessageTypeAndJson
  split
  · rename_i what hparse
    have hbegin : IsPlain (text "[Protocol] JSON parse error in extract_message_type: ") :=
      isPlain_text rfl
    exact linesPlain_singleton.mpr (hbegin.append (hlib.parse _ _ hparse))
  · split
    · split
      · exact linesPlain_singleton.mpr (isPlain_text rfl)
      · exact linesPlain_nil
    · exact linesPlain_singleton.mpr (isPlain_text rfl)

/-- The lines about an envelope show the version, if it is another than the server's. -/
theorem linesPlain_parseFromEnvelope {T : Type} {fromJson : Json → Except Exn T}
    {expectedType messageName : Text} (hlib : lib.DescribesPlainly) (hname : IsPlain messageName)
    (hthrows : ∀ payload, Throws Exn.Plain (fromJson payload)) :
    LinesPlain (parseFromEnvelope lib fromJson expectedType messageName j).log ↔
      ShowsVersionPlainly expectedType j := by
  have hbegin : IsPlain (text "[Protocol] " ++ messageName) :=
    (isPlain_text rfl : IsPlain (text "[Protocol] ")).append hname
  have hparseError : IsPlain (text " Parse Error: ") := isPlain_text rfl
  unfold parseFromEnvelope ShowsVersionPlainly
  split
  · rename_i e hthrow
    have he := covers_plain.envelope trivial e hthrow
    refine iff_of_true ?_ fun version payload henvelope => ?_
    · exact linesPlain_singleton.mpr ((hbegin.append hparseError).append (he.what hlib))
    · rw [hthrow] at henvelope
      cases henvelope
  · rename_i envelope henvelope
    split
    · rename_i htype
      refine iff_of_true linesPlain_nil fun version payload henvelope' => ?_
      rw [henvelope] at henvelope'
      cases henvelope'
      exact absurd rfl htype
    · rename_i htype
      have hshows : (∀ version payload,
          MessageEnvelope.fromJson j = .ok ⟨expectedType, version, payload⟩ → IsPlain version) ↔
            IsPlain envelope.protocolVersion := by
        constructor
        · intro h
          push Not at htype
          exact h envelope.protocolVersion envelope.payload (by rw [henvelope, ← htype])
        · intro h version payload henvelope'
          rw [henvelope] at henvelope'
          cases henvelope'
          exact h
      rw [hshows]
      split
      · have hmismatch : IsPlain (text " version mismatch: expected ") := isPlain_text rfl
        have hours : IsPlain protocolVersion := isPlain_text rfl
        have hgot : IsPlain (text ", got ") := isPlain_text rfl
        rw [Logged.reject, linesPlain_singleton, isPlain_append_iff]
        exact and_iff_right (((hbegin.append hmismatch).append hours).append hgot)
      · rename_i hversion
        push Not at hversion
        have hplain : IsPlain envelope.protocolVersion := by
          rw [hversion]
          exact isPlain_text rfl
        refine iff_of_true ?_ hplain
        split
        · rename_i e hthrow
          have he := hthrows _ e hthrow
          exact linesPlain_singleton.mpr ((hbegin.append hparseError).append (he.what hlib))
        · exact linesPlain_nil

/-- The lines of a parser whose checks show nothing. -/
theorem linesPlain_validate {T : Type} {check : T → List Text} {result : Logged (Option T)}
    (hcheck : ∀ m, LinesPlain (check m)) :
    LinesPlain (validate check result).log ↔ LinesPlain result.log := by
  rw [log_validate]
  refine List.forall_mem_append.trans (and_iff_left ?_)
  cases result.value with
  | none => exact linesPlain_nil
  | some m => exact hcheck m

theorem linesPlain_parseReloadFromEnvelope (hlib : lib.DescribesPlainly) :
    LinesPlain (parseReloadFromEnvelope lib j).log ↔
      ShowsVersionPlainly MessageType.reloadRequest j := by
  rw [parseReloadFromEnvelope, validateReload, linesPlain_validate linesPlain_checkReload]
  exact linesPlain_parseFromEnvelope hlib (isPlain_text rfl) fun _ => covers_plain.reloadRequest trivial

theorem linesPlain_parseDisconnectFromEnvelope (hlib : lib.DescribesPlainly) :
    LinesPlain (parseDisconnectFromEnvelope lib j).log ↔
      ShowsVersionPlainly MessageType.disconnect j := by
  rw [parseDisconnectFromEnvelope, validateDisconnect,
    linesPlain_validate linesPlain_checkDisconnect]
  exact linesPlain_parseFromEnvelope hlib (isPlain_text rfl) fun _ => covers_plain.disconnect trivial

/-- The lines about an ACTION show its version, or its type. -/
theorem linesPlain_parseActionFromEnvelope (hlib : lib.DescribesPlainly) :
    LinesPlain (parseActionFromEnvelope lib j).log ↔
      ShowsVersionPlainly MessageType.action j ∧
        ∀ m, Carries ActionMessage.fromJson MessageType.action protocolVersion j m →
          m.ShowsPlainly := by
  rw [parseActionFromEnvelope, validateAction, log_validate]
  refine List.forall_mem_append.trans (and_congr ?_ ?_)
  · exact linesPlain_parseFromEnvelope hlib (isPlain_text rfl) fun _ => covers_plain.action trivial
  · have hcarries : ∀ m, Carries ActionMessage.fromJson MessageType.action protocolVersion j m ↔
        (parseFromEnvelope lib ActionMessage.fromJson MessageType.action
          (text "Action") j).value = some m := fun _ => parseFromEnvelope_eq_some.symm
    simp only [hcarries]
    cases (parseFromEnvelope lib ActionMessage.fromJson MessageType.action (text "Action") j).value with
    | none => simp
    | some m =>
        simp only [Option.elim_some, Option.some.injEq, forall_eq']
        exact linesPlain_checkAction

/-- The lines about a handshake show nothing of it. -/
theorem linesPlain_parseHandshake (hlib : lib.DescribesPlainly) :
    LinesPlain (parseHandshake lib message).log := by
  have hbegin : IsPlain (text "[Protocol] Handshake Parse Error: ") := isPlain_text rfl
  unfold parseHandshake
  split
  · rename_i what hparse
    exact linesPlain_singleton.mpr (hbegin.append (hlib.parse _ _ hparse))
  · split
    · rename_i e hthrow
      have he := covers_plain.envelope trivial e hthrow
      exact linesPlain_singleton.mpr (hbegin.append (he.what hlib))
    · split
      · exact linesPlain_nil
      · split
        · rename_i e hthrow
          have he := covers_plain.handshake trivial e hthrow
          exact linesPlain_singleton.mpr (hbegin.append (he.what hlib))
        · rename_i msg hmsg
          split
          · exact linesPlain_singleton.mpr (isPlain_text rfl)
          · split
            · rename_i line rest hname
              obtain ⟨name, hmem⟩ := mem_checkClientName_of_elim hname
              exact linesPlain_singleton.mpr (linesPlain_checkClientName name line hmem)
            · split
              · exact linesPlain_singleton.mpr (isPlain_text rfl)
              · exact linesPlain_nil

end Parsers

end Protocol

end CppSim
