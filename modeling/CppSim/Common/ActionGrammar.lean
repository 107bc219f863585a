import CppSim.Common.Acceptance
import CppSim.Common.Money

/-!
# The grammar of an ACTION

`InGrammar` is the documented form of an ACTION, field by field and without a word of
the decoder: what the envelope says, which session ids there are, how many cents a JSON
number denotes, and which action types take an amount.

The decoder reads the sequence number with the library's conversion to `int64_t`, and
that conversion takes a double too, whose fraction it drops.  `parseAction_eq_some_iff`
is the grammar the parser really has, and `acceptsGrammar_iff` compares the two.
-/

namespace CppSim.Protocol

/-! ## The documented form -/

/-- A session id: `sess_[a-z0-9_]{1,123}`. -/
def MatchesSessionId (sid : Text) : Prop :=
  ∃ rest, sid = text "sess_" ++ rest ∧ 1 ≤ rest.length ∧ rest.length ≤ 123 ∧
    ∀ c ∈ rest, 97 ≤ c ∧ c ≤ 122 ∨ 48 ≤ c ∧ c ≤ 57 ∨ c = 95

/-- The cents a JSON number denotes: an integer counts cents, a double dollars. -/
def moneyCents? : Json → Option ℤ
  | .integer i => some i.toInt
  | .unsigned n => some n.toNat
  | .float (.finite q) => some (roundAway (binary64.nearest (q * 100)))
  | _ => none

/-- The amount field of the payload is the one the action type takes. -/
inductive TakesAmount (payload : Json) : Text → Option Int64 → Prop
  | required {type : Text} {v : Json} {cents : Int64}
      (htype : type = ActionType.raise ∨ type = ActionType.allIn)
      (hfield : payload.field? (text "amount") = some v) (hcents : moneyCents? v = some cents.toInt)
      (hlow : 1 ≤ cents.toInt) (hhigh : cents.toInt ≤ maxAmount.toInt) :
      TakesAmount payload type (some cents)
  | forbidden {type : Text}
      (htype : type = ActionType.fold ∨ type = ActionType.check ∨ type = ActionType.call)
      (hfield : ∀ v, payload.field? (text "amount") = some v → v = .null) :
      TakesAmount payload type none

/-- The value is an ACTION with this payload, whose session id and type are those of the
message. -/
structure NamesAction (j payload : Json) (m : ActionMessage) : Prop where
  messageType : j.field? (text "message_type") = some (.string (text "ACTION"))
  envelopeVersion : j.field? (text "protocol_version") = some (.string (text "v1.0"))
  carried : j.field? (text "payload") = some payload
  sessionId : payload.field? (text "session_id") = some (.string m.sessionId)
  matches_sessionId : MatchesSessionId m.sessionId
  actionType : payload.field? (text "action_type") = some (.string m.actionType)

/-- The value is an ACTION that takes the amount of the message; nothing is said of the sequence
number. -/
structure IsAction (j payload : Json) (m : ActionMessage) : Prop
    extends NamesAction j payload m where
  takes_amount : TakesAmount payload m.actionType m.amount

/-- The sequence number of the payload is a JSON integer from zero to the largest `int64_t`. -/
def CountsSequence (payload : Json) (n : ℤ) : Prop :=
  ∃ v, payload.field? (text "sequence_number") = some v ∧ v.isNumberInteger = true ∧
    v.number? = some (n : ℚ) ∧ 0 ≤ n ∧ n ≤ 2 ^ 63 - 1

/-- The documented form of an ACTION that says `m`. -/
def InGrammar (j : Json) (m : ActionMessage) : Prop :=
  ∃ payload, IsAction j payload m ∧ CountsSequence payload m.sequenceNumber.toInt

/-- A double whose fraction is dropped to give the sequence number. -/
def TruncatesSequence (payload : Json) (n : ℤ) : Prop :=
  ∃ q, payload.field? (text "sequence_number") = some (.float (.finite q)) ∧ -1 < q ∧ q < 2 ^ 63 ∧
    n = max ⌊q⌋ 0

/-! ## Reading the fields -/

theorem validateSessionIdFormat_iff {sid : Text} :
    validateSessionIdFormat sid = true ↔ MatchesSessionId sid := by
  have hchar : ∀ c, isValidSessionIdChar c = true ↔
      97 ≤ c ∧ c ≤ 122 ∨ 48 ≤ c ∧ c ≤ 57 ∨ c = 95 := by
    intro c
    simp [isValidSessionIdChar, or_assoc]
  simp only [validateSessionIdFormat, Bool.and_eq_true, decide_eq_true_eq, beq_iff_eq,
    List.all_eq_true, hchar]
  have hmax : maxSessionIdLength = 128 := rfl
  constructor
  · rintro ⟨⟨⟨hlow, hhigh⟩, hbegin⟩, hall⟩
    refine ⟨sid.drop 5, ?_, ?_, ?_, hall⟩
    · rw [← hbegin, List.take_append_drop]
    · rw [List.length_drop]
      omega
    · rw [List.length_drop]
      omega
  · rintro ⟨rest, rfl, hlow, hhigh, hall⟩
    have hbegin : (text "sess_").length = 5 := rfl
    refine ⟨⟨⟨?_, ?_⟩, List.take_left' hbegin⟩, ?_⟩
    · rw [List.length_append]
      omega
    · rw [List.length_append]
      omega
    · rwa [List.drop_left' hbegin]

/-- The cast of an amount gives it back. -/
theorem toInt64_finite_toInt (cents : Int64) :
    (Double.finite ((cents.toInt : ℤ) : ℚ)).toInt64 = cents :=
  Int64.toInt_inj.mp (Double.toInt_toInt64_intCast cents.le_toInt cents.toInt_lt)

/-- Dollars that decode to an amount within bounds denote it. -/
theorem centsOfDollars_iff {field : Text} {q : ℚ} {cents : Int64} (hlow : 0 ≤ cents.toInt) :
    centsOfDollars field (.finite q) = .ok cents ↔
      roundAway (binary64.nearest (q * 100)) = cents.toInt := by
  simp only [centsOfDollars, bind, except_bind_eq_ok, roundedCents_eq_ok]
  constructor
  · rintro ⟨_, ⟨rfl, hlow', hhigh'⟩, hcast⟩
    rcases hhigh'.lt_or_eq with hlt | heq
    · rw [← Except.ok.inj hcast]
      exact (Double.toInt_toInt64_intCast hlow' hlt).symm
    · -- the cast of `2^63` gives the least word, which is no amount
      rw [heq] at hcast
      rw [← Except.ok.inj hcast] at hlow
      exact absurd hlow (by decide +kernel)
  · intro hcents
    have hbounds := And.intro cents.le_toInt cents.toInt_lt
    rw [hcents]
    exact ⟨_, ⟨rfl, by omega, by omega⟩, congrArg Except.ok (toInt64_finite_toInt cents)⟩

/-- An unsigned integer that is read as an amount is that amount: what wraps is negative. -/
theorem toInt64_eq_iff {n : UInt64} {cents : Int64} (hlow : 0 ≤ cents.toInt) :
    n.toInt64 = cents ↔ (n.toNat : ℤ) = cents.toInt := by
  have hhigh := cents.toInt_lt
  constructor
  · rintro rfl
    have hword := n.toInt64.toNat_toUInt64
    rw [UInt64.toUInt64_toInt64] at hword
    omega
  · intro h
    apply Int64.toInt_inj.mp
    rw [UInt64.toInt_toInt64_of_lt (by omega), h]

/-- A money field decodes to an amount within bounds exactly if it denotes it. -/
theorem centsFromJson_iff {field : Text} {v : Json} {cents : Int64} (hlow : 0 ≤ cents.toInt) :
    centsFromJson field v = .ok cents ↔ moneyCents? v = some cents.toInt := by
  cases v with
  | integer i => simp [centsFromJson, Json.isNumberInteger, Json.getInt64, moneyCents?,
      Int64.toInt_inj]
  | unsigned n =>
      simp only [centsFromJson, Json.isNumberInteger, if_true, Json.getInt64, moneyCents?,
        Except.ok.injEq, Option.some.injEq]
      exact toInt64_eq_iff hlow
  | float d =>
      simp only [centsFromJson, Json.isNumberInteger, Json.isNumberUnsigned, Bool.false_eq_true,
        if_false, Json.getDouble, bind, Except.bind]
      cases d with
      | finite q => rw [centsOfDollars_iff hlow, moneyCents?, Option.some.injEq]
      | infinite | nan => simp [moneyCents?, centsOfDollars, roundedCents, bind, Except.bind]
  | null | boolean | string | array | object =>
      simp [centsFromJson, Json.isNumberInteger, Json.isNumberUnsigned, Json.getDouble, moneyCents?,
        bind, Except.bind]

/-- The cast of a double is not negative for what lies above minus one and in range. -/
theorem toInt64_finite_eq_iff {q : ℚ} {n : Int64} (hlow : 0 ≤ n.toInt) :
    (Double.finite q).toInt64 = n ↔ -1 < q ∧ q < 2 ^ 63 ∧ n.toInt = max ⌊q⌋ 0 := by
  have hhigh := n.toInt_lt
  have hmin : Int64.minValue.toInt = -2 ^ 63 := rfl
  rw [← Int64.toInt_inj, Double.toInt64]
  rcases le_or_gt 0 q with hq | hq
  · have hfloor : 0 ≤ ⌊q⌋ := Int.floor_nonneg.mpr hq
    have hrange : ⌊q⌋ < 2 ^ 63 ↔ q < 2 ^ 63 := by
      rw [Int.floor_lt]
      norm_num
    simp only [hq, if_true, max_eq_left hfloor, ← hrange]
    split
    · rename_i hin
      rw [Int64.toInt_ofInt_of_le hin.1 hin.2]
      constructor
      · intro h
        exact ⟨by linarith, hin.2, h.symm⟩
      · rintro ⟨-, -, h⟩
        exact h.symm
    · rename_i hout
      rw [hmin]
      constructor
      · intro h
        omega
      · rintro ⟨-, h, -⟩
        omega
  · have hceil : ⌈q⌉ ≤ 0 := Int.ceil_le.mpr (by exact_mod_cast hq.le)
    have hfloor : ⌊q⌋ ≤ 0 := Int.floor_nonpos hq.le
    have hzero : -1 < q ↔ ⌈q⌉ = 0 := by
      rw [← Int.cast_one, ← Int.cast_neg, ← Int.lt_ceil]
      omega
    simp only [not_le.mpr hq, if_false, max_eq_right hfloor, hzero]
    split
    · rename_i hin
      rw [Int64.toInt_ofInt_of_le hin.1 hin.2]
      constructor
      · intro h
        exact ⟨by omega, hq.trans (by norm_num), by omega⟩
      · rintro ⟨h, -, h'⟩
        omega
    · rename_i hout
      rw [hmin]
      constructor
      · intro h
        omega
      · rintro ⟨h, -, -⟩
        omega

/-- What the conversion to `int64_t` makes of a value, if it is not negative. -/
theorem getInt64_iff {v : Json} {n : Int64} (hlow : 0 ≤ n.toInt) :
    v.getInt64 = .ok n ↔ v.isNumberInteger = true ∧ v.number? = some (n.toInt : ℚ) ∨
      ∃ q, v = .float (.finite q) ∧ -1 < q ∧ q < 2 ^ 63 ∧ n.toInt = max ⌊q⌋ 0 := by
  cases v with
  | integer i => simp [Json.getInt64, Json.isNumberInteger, Json.number?, Int64.toInt_inj]
  | unsigned k =>
      simp only [Json.getInt64, Except.ok.injEq, toInt64_eq_iff hlow, Json.isNumberInteger,
        Json.number?, Option.some.injEq, true_and, reduceCtorEq, false_and, exists_false, or_false]
      exact_mod_cast Iff.rfl
  | float d =>
      cases d with
      | finite q => simp [Json.getInt64, Json.isNumberInteger, toInt64_finite_eq_iff hlow]
      | infinite | nan =>
          have hcast : Int64.minValue ≠ n := by
            rintro rfl
            exact absurd hlow (by decide)
          simp [Json.getInt64, Json.isNumberInteger, Double.toInt64, hcast]
  | null | boolean | string | array | object => simp [Json.getInt64, Json.isNumberInteger]

/-- The sequence numbers the decoder takes. -/
theorem readsSequence_iff {payload : Json} {n : Int64} (hlow : 0 ≤ n.toInt) :
    (∃ v, payload.field? (text "sequence_number") = some v ∧ v.getInt64 = .ok n) ↔
      CountsSequence payload n.toInt ∨ TruncatesSequence payload n.toInt := by
  have hhigh := n.toInt_lt
  simp only [getInt64_iff hlow, CountsSequence, TruncatesSequence]
  constructor
  · rintro ⟨v, hfield, ⟨hinteger, hnumber⟩ | ⟨q, rfl, hq⟩⟩
    · exact .inl ⟨v, hfield, hinteger, hnumber, hlow, by omega⟩
    · exact .inr ⟨q, hfield, hq⟩
  · rintro (⟨v, hfield, hinteger, hnumber, -⟩ | ⟨q, hfield, hq⟩)
    · exact ⟨v, hfield, .inl ⟨hinteger, hnumber⟩⟩
    · exact ⟨_, hfield, .inr ⟨q, rfl, hq⟩⟩

/-! ## The grammar of the decoder -/

/-- The amount field is absent or null, or decodes to the amount. -/
def ReadsAmount (payload : Json) (amount : Option Int64) : Prop :=
  optionalField payload (text "amount") = none ∧ amount = none ∨
    ∃ v cents, optionalField payload (text "amount") = some v ∧
      centsFromJson (text "amount") v = .ok cents ∧ amount = some cents

theorem optionalField_eq_none {j : Json} {key : Text} :
    optionalField j key = none ↔ ∀ v, j.field? key = some v → v = .null := by
  unfold optionalField
  cases j.field? key with
  | none => simp
  | some v => cases v <;> simp [Json.isNull]

/-- A money field of null is not read as an amount. -/
theorem optionalField_eq_of_money {j v : Json} {key : Text} {cents : ℤ}
    (hcents : moneyCents? v = some cents) :
    optionalField j key = some v ↔ j.field? key = some v := by
  have hnull : v.isNull = false := by
    cases v with
    | null => cases hcents
    | _ => rfl
  constructor
  · exact optionalField_eq_some
  · intro h
    simp [optionalField, h, hnull]

/-- `from_json` reads the four fields. -/
theorem ActionMessage.fromJson_eq_ok {payload : Json} {m : ActionMessage} :
    ActionMessage.fromJson payload = .ok m ↔
      payload.field? (text "session_id") = some (.string m.sessionId) ∧
        payload.field? (text "action_type") = some (.string m.actionType) ∧
        (∃ v, payload.field? (text "sequence_number") = some v ∧
          v.getInt64 = .ok m.sequenceNumber) ∧ ReadsAmount payload m.amount := by
  simp only [fromJson, bind, except_bind_eq_ok]
  constructor
  · rintro ⟨id, hid, sid, hsid, type, htype, actionType, hactionType, v, hv, n, hn, hm⟩
    cases Json.eq_string_of_getString hsid
    cases Json.eq_string_of_getString hactionType
    have hread := Json.field?_of_atKey hv
    cases hfield : optionalField payload (text "amount") with
    | none =>
        rw [hfield] at hm
        cases Except.ok.inj hm
        exact ⟨Json.field?_of_atKey hid, Json.field?_of_atKey htype, ⟨v, hread, hn⟩,
          .inl ⟨hfield, rfl⟩⟩
    | some value =>
        simp only [hfield, except_bind_eq_ok] at hm
        obtain ⟨cents, hcents, amount, hamount, hm⟩ := hm
        cases Except.ok.inj hamount
        cases Except.ok.inj hm
        exact ⟨Json.field?_of_atKey hid, Json.field?_of_atKey htype, ⟨v, hread, hn⟩,
          .inr ⟨value, cents, hfield, hcents, rfl⟩⟩
  · rintro ⟨hid, htype, ⟨v, hv, hn⟩, hamount⟩
    refine ⟨_, Json.atKey_of_field? hid, _, rfl, _, Json.atKey_of_field? htype, _, rfl, _,
      Json.atKey_of_field? hv, _, hn, ?_⟩
    obtain ⟨sessionId, actionType, amount, sequenceNumber⟩ := m
    rcases hamount with ⟨hfield, rfl⟩ | ⟨value, cents, hfield, hcents, rfl⟩
    · rw [hfield]
      rfl
    · simp only [hfield, hcents, Except.bind]
      rfl

/-- The action types, with and without an amount. -/
theorem mem_amountRequiredTypes {type : Text} :
    type ∈ amountRequiredTypes ↔ type = ActionType.raise ∨ type = ActionType.allIn := by
  simp [amountRequiredTypes]

theorem mem_validActionTypes {type : Text} :
    type ∈ validActionTypes ↔
      (type = ActionType.fold ∨ type = ActionType.check ∨ type = ActionType.call) ∨
        type ∈ amountRequiredTypes := by
  simp [validActionTypes, amountRequiredTypes, or_assoc]

theorem not_mem_amountRequiredTypes {type : Text}
    (h : type = ActionType.fold ∨ type = ActionType.check ∨ type = ActionType.call) :
    type ∉ amountRequiredTypes := by
  have hvalid : type ∈ validActionTypes := mem_validActionTypes.mpr (.inl h)
  rw [← mem_amountForbiddenTypes hvalid]
  simpa [amountForbiddenTypes] using h

/-- An amount that is read and passes the checks is the one the type takes. -/
theorem takesAmount_iff {payload : Json} {type : Text} {amount : Option Int64} :
    TakesAmount payload type amount ↔
      ReadsAmount payload amount ∧ type ∈ validActionTypes ∧
        (∀ cents ∈ amount, 0 < cents ∧ cents ≤ maxAmount) ∧
        (amount.isSome = true ↔ type ∈ amountRequiredTypes) := by
  constructor
  · intro h
    cases h with
    | @required v cents htype hfield hcents hlow hhigh =>
        have hrequired := mem_amountRequiredTypes.mpr htype
        refine ⟨.inr ⟨v, cents, (optionalField_eq_of_money hcents).mpr hfield,
          (centsFromJson_iff (by omega)).mpr hcents, rfl⟩,
          mem_validActionTypes.mpr (.inr hrequired), ?_, by simpa using hrequired⟩
        intro c hc
        cases Option.some.inj hc
        exact ⟨Int64.lt_iff_toInt_lt.mpr hlow, Int64.le_iff_toInt_le.mpr hhigh⟩
    | forbidden htype hfield =>
        exact ⟨.inl ⟨optionalField_eq_none.mpr hfield, rfl⟩, mem_validActionTypes.mpr (.inl htype),
          by simp, by simpa using not_mem_amountRequiredTypes htype⟩
  · rintro ⟨hreads, htype, hbounds, hiff⟩
    rcases hreads with ⟨hfield, rfl⟩ | ⟨v, cents, hfield, hcents, rfl⟩
    · rcases mem_validActionTypes.mp htype with h | h
      · exact .forbidden h (optionalField_eq_none.mp hfield)
      · exact absurd (hiff.mpr h) (by simp)
    · obtain ⟨hlow, hhigh⟩ := hbounds cents rfl
      rw [Int64.lt_iff_toInt_lt] at hlow
      rw [Int64.le_iff_toInt_le] at hhigh
      have hzero : (0 : Int64).toInt = 0 := rfl
      have hmoney := (centsFromJson_iff (by omega)).mp hcents
      exact .required (mem_amountRequiredTypes.mp (hiff.mp rfl))
        ((optionalField_eq_of_money hmoney).mp hfield) hmoney (by omega) hhigh

section Parser

variable {lib : JsonLib} {j : Json} {m : ActionMessage}

/-- The grammar of `parse_action_from_envelope`. -/
theorem parseAction_eq_some_iff :
    (parseActionFromEnvelope lib j).value = some m ↔
      ∃ payload, IsAction j payload m ∧
        (CountsSequence payload m.sequenceNumber.toInt ∨
          TruncatesSequence payload m.sequenceNumber.toInt) := by
  rw [parseActionFromEnvelope_eq_some, Carries]
  constructor
  · rintro ⟨⟨payload, henvelope, hdecode⟩, hsid, hsequence, htype, hbounds, hiff⟩
    obtain ⟨hmessage, hversion, hcarried⟩ := MessageEnvelope.fromJson_eq_ok.mp henvelope
    obtain ⟨hsessionId, hactionType, hreads, hamount⟩ := ActionMessage.fromJson_eq_ok.mp hdecode
    have hlow : 0 ≤ m.sequenceNumber.toInt := Int64.le_iff_toInt_le.mp hsequence
    exact ⟨payload, ⟨⟨hmessage, hversion, hcarried, hsessionId,
      validateSessionIdFormat_iff.mp hsid, hactionType⟩,
      takesAmount_iff.mpr ⟨hamount, htype, hbounds, hiff⟩⟩, (readsSequence_iff hlow).mp hreads⟩
  · rintro ⟨payload, h, hsequence⟩
    have hlow : 0 ≤ m.sequenceNumber.toInt := by
      rcases hsequence with ⟨_, -, -, -, hlow, -⟩ | ⟨_, -, -, -, hn⟩
      · exact hlow
      · rw [hn]
        exact le_max_right _ _
    obtain ⟨hamount, htype, hbounds, hiff⟩ := takesAmount_iff.mp h.takes_amount
    refine ⟨⟨payload, MessageEnvelope.fromJson_eq_ok.mpr ⟨h.messageType, h.envelopeVersion,
      h.carried⟩, ?_⟩, validateSessionIdFormat_iff.mpr h.matches_sessionId, ?_, htype, hbounds, hiff⟩
    · exact ActionMessage.fromJson_eq_ok.mpr ⟨h.sessionId, h.actionType,
        (readsSequence_iff hlow).mpr hsequence, hamount⟩
    · exact Int64.le_iff_toInt_le.mpr hlow

/-- The parser accepts the documented form, with the values of its fields, exactly if the
value is not an ACTION whose sequence number is a double above minus one and in range. -/
theorem acceptsGrammar_iff :
    (∀ m, (parseActionFromEnvelope lib j).value = some m ↔ InGrammar j m) ↔
      ¬∃ payload m q, IsAction j payload m ∧
        payload.field? (text "sequence_number") = some (.float (.finite q)) ∧
        -1 < q ∧ q < 2 ^ 63 := by
  constructor
  · rintro haccepts ⟨payload, m, q, h, hfield, hlow, hhigh⟩
    -- the message with the truncated number is accepted
    have hfloor : ⌊q⌋ < 2 ^ 63 := Int.floor_lt.mpr (by exact_mod_cast hhigh)
    have hnumber : (Int64.ofInt (max ⌊q⌋ 0)).toInt = max ⌊q⌋ 0 :=
      Int64.toInt_ofInt_of_le (by omega) (by omega)
    have hparse : (parseActionFromEnvelope lib j).value =
        some { m with sequenceNumber := Int64.ofInt (max ⌊q⌋ 0) } :=
      parseAction_eq_some_iff.mpr ⟨payload, ⟨⟨h.messageType, h.envelopeVersion, h.carried,
        h.sessionId, h.matches_sessionId, h.actionType⟩, h.takes_amount⟩,
        .inr ⟨q, hfield, hlow, hhigh, hnumber⟩⟩
    obtain ⟨payload', h', v, hv, hinteger, -⟩ := (haccepts _).mp hparse
    cases h.carried.symm.trans h'.carried
    cases hfield.symm.trans hv
    cases hinteger
  · intro hinteger m
    rw [parseAction_eq_some_iff, InGrammar]
    constructor
    · rintro ⟨payload, h, hcounts | ⟨q, hfield, hlow, hhigh, -⟩⟩
      · exact ⟨payload, h, hcounts⟩
      · exact absurd ⟨payload, m, q, h, hfield, hlow, hhigh⟩ hinteger
    · rintro ⟨payload, h, hcounts⟩
      exact ⟨payload, h, .inl hcounts⟩

end Parser

theorem matchesSessionId_sess_a : MatchesSessionId (text "sess_a") :=
  ⟨[97], rfl, by simp, by simp, by simp⟩

/-- A FOLD with one and a half as its sequence number. -/
def fractionalAction : Json :=
  .object [(text "message_type", .string (text "ACTION")),
    (text "payload", .object [(text "action_type", .string (text "FOLD")),
      (text "sequence_number", .float (.finite (3 / 2))),
      (text "session_id", .string (text "sess_a"))]),
    (text "protocol_version", .string (text "v1.0"))]

/-- It is accepted, which the documented form does not allow. -/
theorem not_acceptsGrammar :
    ¬∀ lib j m, (parseActionFromEnvelope lib j).value = some m ↔ InGrammar j m := by
  intro haccepts
  have hgrammar : ∀ m, (parseActionFromEnvelope (.knowing []) fractionalAction).value = some m ↔
      InGrammar fractionalAction m := haccepts _ _
  refine acceptsGrammar_iff.mp hgrammar ⟨_, ⟨text "sess_a", text "FOLD", none, 0⟩, 3 / 2,
    ⟨⟨rfl, rfl, rfl, rfl, matchesSessionId_sess_a, rfl⟩, .forbidden (.inl rfl) ?_⟩, rfl,
    by norm_num, by norm_num⟩
  rintro v ⟨⟩

end CppSim.Protocol
