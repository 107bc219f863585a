import CppSim.Common.ActionGrammar

/-!
# Amounts written as integers

The library stores an integer token unsigned, signed or, beyond 64 bits, as a double,
and the money decoders treat the three differently: an unsigned integer is cast to
`int64_t` modulo `2^64`, a double is taken for dollars.  `StoresInteger` lists the ways
a token is stored, and `moneyCents_of_stored` says that within the bounds of an amount
none of this shows: what wraps is negative and what is too long for 64 bits is too much.

`integerAmounts_exact` is the consequence for the four parsers that read an amount.
-/

namespace CppSim.Protocol

/-- The ways the library stores the token of the integer `n`. -/
inductive StoresInteger (n : ℤ) : Json → Prop
  | unsigned (k : UInt64) (h : (k.toNat : ℤ) = n) : StoresInteger n (.unsigned k)
  -- zero is here as well, since it can be written with a sign
  | integer (i : Int64) (h : i.toInt = n) (hsign : n ≤ 0) : StoresInteger n (.integer i)
  | double (q : ℚ) (h : Double.ofRational n = .finite q) (hlong : n < -2 ^ 63 ∨ 2 ^ 64 ≤ n) :
      StoresInteger n (.float (.finite q))

/-- The text is parsed to a value of this kind whose amount is the token of `n`, or the token is
too long for a double and the text is not parsed. -/
inductive WritesInteger (lib : JsonLib) (Kind : Json → Json → Prop) (n : ℤ) (s : Text) : Prop
  | value (j v : Json) (hparse : lib.parse s = .ok j) (hkind : Kind j v) (h : StoresInteger n v)
  | overflow (what : Text) (hparse : lib.parse s = .error what)
      (hlong : n < -2 ^ 63 ∨ 2 ^ 64 ≤ n)

/-! ## What a stored integer denotes -/

/-- Dollars beyond 64 bits are no amount. -/
theorem not_amount_of_long {n : ℤ} {q : ℚ} (h : Double.ofRational n = .finite q)
    (hlong : n < -2 ^ 63 ∨ 2 ^ 64 ≤ n) :
    roundAway (binary64.nearest (q * 100)) < 1 ∨
      maxAmount.toInt < roundAway (binary64.nearest (q * 100)) := by
  have hmax : maxAmount.toInt = 10 ^ 15 := rfl
  have hmono : Monotone (binary64.nearest : ℚ → ℚ) := binary64.nearest_mono (by decide)
  have hfixed : ∀ e : ℤ, 0 ≤ e → binary64.nearest ((2 : ℚ) ^ e) = 2 ^ e := fun e he =>
    binary64.nearest_eq_self (binary64.isNumber_zpow (by decide)
      ((show binary64.minExponent ≤ 0 by decide).trans he))
  obtain rfl : q = binary64.nearest (n : ℚ) := by
    unfold Double.ofRational at h
    dsimp only at h
    split at h <;> cases h
    rfl
  rcases hlong with hlow | hhigh
  · left
    have hq : binary64.nearest (n : ℚ) ≤ -2 ^ (63 : ℤ) := by
      rw [← hfixed 63 (by decide), ← binary64.nearest_neg]
      exact hmono (by exact_mod_cast hlow.le)
    have hproduct : binary64.nearest (binary64.nearest (n : ℚ) * 100) ≤ -2 ^ (63 : ℤ) := by
      rw [← hfixed 63 (by decide), ← binary64.nearest_neg]
      refine hmono (le_trans ?_ hq)
      have : (0 : ℚ) < 2 ^ (63 : ℤ) := by positivity
      linarith
    have hneg : binary64.nearest (binary64.nearest (n : ℚ) * 100) < 0 :=
      hproduct.trans_lt (by norm_num)
    have := roundAway_nonpos hneg
    omega
  · right
    have hq : (2 : ℚ) ^ (64 : ℤ) ≤ binary64.nearest (n : ℚ) := by
      rw [← hfixed 64 (by decide)]
      exact hmono (by exact_mod_cast hhigh)
    have hproduct : (2 : ℚ) ^ (64 : ℤ) ≤ binary64.nearest (binary64.nearest (n : ℚ) * 100) := by
      conv_lhs => rw [← hfixed 64 (by decide)]
      refine hmono (hq.trans ?_)
      have : (0 : ℚ) < 2 ^ (64 : ℤ) := by positivity
      linarith
    have hcents := roundAway_mono hproduct
    have htwo : roundAway ((2 : ℚ) ^ (64 : ℤ)) = 2 ^ 64 := by
      have h := roundAway_intCast (K := ℚ) (2 ^ 64)
      push_cast at h
      exact h
    omega

/-- However the token is stored, the amounts it denotes are the integer itself, if that is
within bounds. -/
theorem moneyCents_of_stored {n cents : ℤ} {v : Json} (h : StoresInteger n v) :
    moneyCents? v = some cents ∧ 1 ≤ cents ∧ cents ≤ maxAmount.toInt ↔
      cents = n ∧ 1 ≤ n ∧ n ≤ maxAmount.toInt := by
  have hmax : maxAmount.toInt = 10 ^ 15 := rfl
  cases h with
  | unsigned k h | integer i h =>
      rw [moneyCents?, h, Option.some.injEq]
      constructor
      · rintro ⟨rfl, hbounds⟩
        exact ⟨rfl, hbounds⟩
      · rintro ⟨rfl, hbounds⟩
        exact ⟨rfl, hbounds⟩
  | double q h hlong =>
      rw [moneyCents?, Option.some.injEq]
      have hlarge := not_amount_of_long h hlong
      constructor
      · rintro ⟨rfl, hbounds⟩
        omega
      · rintro ⟨rfl, hbounds⟩
        omega

/-! ## The messages that hold an amount -/

/-- A RAISE or an ALL_IN, valid but for its amount field, which is `v`. -/
def ValuedAction (j v : Json) : Prop :=
  ∃ payload m, NamesAction j payload m ∧ CountsSequence payload m.sequenceNumber.toInt ∧
    (m.actionType = ActionType.raise ∨ m.actionType = ActionType.allIn) ∧
    payload.field? (text "amount") = some v

/-- A RELOAD_REQUEST, valid but for its amount, which is `v`. -/
structure ValuedReload (j v : Json) : Prop where
  messageType : j.field? (text "message_type") = some (.string (text "RELOAD_REQUEST"))
  envelopeVersion : j.field? (text "protocol_version") = some (.string (text "v1.0"))
  payload : ∃ payload sid, j.field? (text "payload") = some payload ∧
    payload.field? (text "session_id") = some (.string sid) ∧ MatchesSessionId sid ∧
    payload.field? (text "requested_amount") = some v

/-- The result accepts the integer as an amount exactly if it is within bounds, and as it is. -/
def ReadsExactly {M : Type} (amount : M → Option Int64) (n : ℤ) (result : Option M) : Prop :=
  (result.isSome = true ↔ 1 ≤ n ∧ n ≤ maxAmount.toInt) ∧
    ∀ m, result = some m → (amount m).map Int64.toInt = some n

/-- It is enough that the amounts of the messages that can be returned are those denoted by
the stored token. -/
theorem readsExactly_of_iff {M : Type} {amount : M → Option Int64} {n : ℤ} {v : Json}
    {result : Option M} (h : StoresInteger n v)
    (hsome : ∀ cents : Int64, (∃ m, result = some m ∧ amount m = some cents) ↔
      moneyCents? v = some cents.toInt ∧ 1 ≤ cents.toInt ∧ cents.toInt ≤ maxAmount.toInt)
    (hamount : ∀ m, result = some m → ∃ cents, amount m = some cents) :
    ReadsExactly amount n result := by
  simp only [moneyCents_of_stored h] at hsome
  refine ⟨⟨?_, ?_⟩, ?_⟩
  · intro hresult
    obtain ⟨m, hm⟩ := Option.isSome_iff_exists.mp hresult
    obtain ⟨cents, hcents⟩ := hamount m hm
    exact ((hsome cents).mp ⟨m, hm, hcents⟩).2
  · rintro ⟨hlow, hhigh⟩
    have hmax : maxAmount.toInt = 10 ^ 15 := rfl
    have hcents : (Int64.ofInt n).toInt = n := Int64.toInt_ofInt_of_le (by omega) (by omega)
    obtain ⟨m, hm, -⟩ := (hsome (Int64.ofInt n)).mpr ⟨hcents, hlow, hhigh⟩
    rw [hm]
    rfl
  · intro m hm
    obtain ⟨cents, hcents⟩ := hamount m hm
    rw [hcents, Option.map_some, ((hsome cents).mp ⟨m, hm, hcents⟩).1]

theorem readsExactly_none {M : Type} {amount : M → Option Int64} {n : ℤ}
    (hlong : n < -2 ^ 63 ∨ 2 ^ 64 ≤ n) : ReadsExactly amount n Option.none := by
  have hmax : maxAmount.toInt = 10 ^ 15 := rfl
  refine ⟨iff_of_false (by simp) (by omega), ?_⟩
  intro m hm
  cases hm

/-! ## The parsers -/

section Parsers

variable {lib : JsonLib} {j v : Json} {s : Text} {n : ℤ}

theorem NamesAction.actionType_eq {payload payload' : Json} {m m' : ActionMessage}
    (h : NamesAction j payload m) (h' : NamesAction j payload' m') :
    payload = payload' ∧ m.actionType = m'.actionType := by
  obtain rfl := Option.some.inj (h.carried.symm.trans h'.carried)
  have htype := Option.some.inj (h.actionType.symm.trans h'.actionType)
  exact ⟨rfl, Json.string.inj htype⟩

theorem parseActionFromEnvelope_readsExactly (hj : ValuedAction j v) (hv : StoresInteger n v) :
    ReadsExactly ActionMessage.amount n (parseActionFromEnvelope lib j).value := by
  obtain ⟨payload, m₀, hnames, hsequence, htype, hfield⟩ := hj
  have htakes : ∀ m, (parseActionFromEnvelope lib j).value = some m → ∃ cents,
      m.amount = some cents ∧ moneyCents? v = some cents.toInt ∧ 1 ≤ cents.toInt ∧
        cents.toInt ≤ maxAmount.toInt := by
    intro m hm
    obtain ⟨payload', h, -⟩ := parseAction_eq_some_iff.mp hm
    obtain ⟨rfl, hsame⟩ := hnames.actionType_eq h.toNamesAction
    rw [hsame] at htype
    have htakes := h.takes_amount
    generalize m.amount = amount at htakes ⊢
    cases htakes with
    | @required v' cents _ hfield' hcents hlow hhigh =>
        obtain rfl := Option.some.inj (hfield.symm.trans hfield')
        exact ⟨cents, rfl, hcents, hlow, hhigh⟩
    | forbidden hforbidden =>
        exact absurd (mem_amountRequiredTypes.mpr htype) (not_mem_amountRequiredTypes hforbidden)
  refine readsExactly_of_iff hv (fun cents => ⟨?_, ?_⟩) fun m hm => ?_
  · rintro ⟨m, hm, hamount⟩
    obtain ⟨cents', hamount', hcents⟩ := htakes m hm
    cases hamount.symm.trans hamount'
    exact hcents
  · rintro ⟨hcents, hlow, hhigh⟩
    refine ⟨{ m₀ with amount := some cents }, parseAction_eq_some_iff.mpr ⟨payload, ?_, .inl ?_⟩, rfl⟩
    · exact ⟨⟨hnames.messageType, hnames.envelopeVersion, hnames.carried, hnames.sessionId,
        hnames.matches_sessionId, hnames.actionType⟩, .required htype hfield hcents hlow hhigh⟩
    · exact hsequence
  · obtain ⟨cents, hamount, -⟩ := htakes m hm
    exact ⟨cents, hamount⟩

/-- `from_json` reads the two fields. -/
theorem ReloadRequestMessage.fromJson_eq_ok {payload : Json} {m : ReloadRequestMessage} :
    ReloadRequestMessage.fromJson payload = .ok m ↔
      payload.field? (text "session_id") = some (.string m.sessionId) ∧
        ∃ v, payload.field? (text "requested_amount") = some v ∧
          centsFromJson (text "requested_amount") v = .ok m.requestedAmount := by
  simp only [fromJson, bind, except_bind_eq_ok]
  constructor
  · rintro ⟨id, hid, sid, hsid, v, hv, cents, hcents, hm⟩
    cases Json.eq_string_of_getString hsid
    cases Except.ok.inj hm
    exact ⟨Json.field?_of_atKey hid, v, Json.field?_of_atKey hv, hcents⟩
  · rintro ⟨hid, v, hv, hcents⟩
    exact ⟨_, Json.atKey_of_field? hid, _, rfl, _, Json.atKey_of_field? hv, _, hcents, rfl⟩

theorem parseReloadFromEnvelope_readsExactly (hj : ValuedReload j v) (hv : StoresInteger n v) :
    ReadsExactly (fun m => some m.requestedAmount) n (parseReloadFromEnvelope lib j).value := by
  obtain ⟨payload, sid, hcarried, hsid, hmatches, hfield⟩ := hj.payload
  refine readsExactly_of_iff hv (fun cents => ⟨?_, ?_⟩) fun m _ => ⟨_, rfl⟩
  · rintro ⟨m, hm, hamount⟩
    cases hamount
    obtain ⟨⟨payload', henvelope, hdecode⟩, -, hlow, hhigh⟩ := parseReloadFromEnvelope_eq_some.mp hm
    obtain ⟨-, -, hcarried'⟩ := MessageEnvelope.fromJson_eq_ok.mp henvelope
    obtain rfl := Option.some.inj (hcarried.symm.trans hcarried')
    obtain ⟨-, v', hfield', hcents⟩ := ReloadRequestMessage.fromJson_eq_ok.mp hdecode
    obtain rfl := Option.some.inj (hfield.symm.trans hfield')
    rw [Int64.lt_iff_toInt_lt] at hlow
    rw [Int64.le_iff_toInt_le] at hhigh
    have hzero : (0 : Int64).toInt = 0 := rfl
    exact ⟨(centsFromJson_iff (by omega)).mp hcents, by omega, hhigh⟩
  · rintro ⟨hcents, hlow, hhigh⟩
    have hdecode : centsFromJson (text "requested_amount") v = .ok cents :=
      (centsFromJson_iff (by omega)).mpr hcents
    refine ⟨⟨sid, cents⟩, parseReloadFromEnvelope_eq_some.mpr ⟨⟨payload, ?_, ?_⟩,
      validateSessionIdFormat_iff.mpr hmatches, Int64.lt_iff_toInt_lt.mpr hlow,
      Int64.le_iff_toInt_le.mpr hhigh⟩, rfl⟩
    · exact MessageEnvelope.fromJson_eq_ok.mpr ⟨hj.messageType, hj.envelopeVersion, hcarried⟩
    · exact ReloadRequestMessage.fromJson_eq_ok.mpr ⟨hsid, v, hfield, hdecode⟩

/-- The parser of a text is the one of the envelope, on what the text is parsed to. -/
theorem parseAction_value (hparse : lib.parse s = .ok j) :
    (parseAction lib s).value = (parseActionFromEnvelope lib j).value := by
  apply Option.ext
  intro m
  simp [parseAction_eq_some, parseActionFromEnvelope_eq_some, hparse]

theorem parseReloadRequest_value (hparse : lib.parse s = .ok j) :
    (parseReloadRequest lib s).value = (parseReloadFromEnvelope lib j).value := by
  apply Option.ext
  intro m
  simp [parseReloadRequest_eq_some, parseReloadFromEnvelope_eq_some, hparse]

/-- An amount written as an integer token is accepted exactly if the integer is within bounds,
and then it is the amount: in an action and in a reload request, from a text and from an
envelope already parsed. -/
theorem integerAmounts_exact (lib : JsonLib) (n : ℤ) :
    (∀ s, WritesInteger lib ValuedAction n s →
        ReadsExactly ActionMessage.amount n (parseAction lib s).value) ∧
      (∀ s, WritesInteger lib ValuedReload n s →
        ReadsExactly (fun m => some m.requestedAmount) n (parseReloadRequest lib s).value) ∧
      (∀ j v, ValuedAction j v → StoresInteger n v →
        ReadsExactly ActionMessage.amount n (parseActionFromEnvelope lib j).value) ∧
      (∀ j v, ValuedReload j v → StoresInteger n v →
        ReadsExactly (fun m => some m.requestedAmount) n (parseReloadFromEnvelope lib j).value) := by
  refine ⟨?_, ?_, fun j v => parseActionFromEnvelope_readsExactly,
    fun j v => parseReloadFromEnvelope_readsExactly⟩
  · intro s h
    cases h with
    | value j v hparse hkind hstored =>
        rw [parseAction_value hparse]
        exact parseActionFromEnvelope_readsExactly hkind hstored
    | overflow what hparse hlong =>
        have hnone : (parseAction lib s).value = none := by
          rw [Option.eq_none_iff_forall_ne_some]
          intro m hm
          obtain ⟨j, hj, -⟩ := parseAction_eq_some.mp hm
          cases hparse.symm.trans hj
        rw [hnone]
        exact readsExactly_none hlong
  · intro s h
    cases h with
    | value j v hparse hkind hstored =>
        rw [parseReloadRequest_value hparse]
        exact parseReloadFromEnvelope_readsExactly hkind hstored
    | overflow what hparse hlong =>
        have hnone : (parseReloadRequest lib s).value = none := by
          rw [Option.eq_none_iff_forall_ne_some]
          intro m hm
          obtain ⟨j, hj, -⟩ := parseReloadRequest_eq_some.mp hm
          cases hparse.symm.trans hj
        rw [hnone]
        exact readsExactly_none hlong

end Parsers

/-- A RAISE of fifty cents. -/
def sampleRaise : Json :=
  .object [(text "message_type", .string (text "ACTION")),
    (text "payload", .object [(text "action_type", .string (text "RAISE")),
      (text "amount", .unsigned 50), (text "sequence_number", .unsigned 1),
      (text "session_id", .string (text "sess_a"))]),
    (text "protocol_version", .string (text "v1.0"))]

theorem valuedAction_sampleRaise : ValuedAction sampleRaise (.unsigned 50) := by
  refine ⟨_, ⟨text "sess_a", text "RAISE", none, 1⟩,
    ⟨rfl, rfl, rfl, rfl, matchesSessionId_sess_a, rfl⟩, ?_, .inl rfl, rfl⟩
  exact ⟨.unsigned 1, rfl, rfl, by decide, by decide, by decide⟩

/-- Fifty cents are accepted. -/
theorem integerAmounts_exact_sampleRaise :
    (parseAction (.knowing [sampleRaise]) (sampleRaise.print 4)).value.isSome = true :=
  (((integerAmounts_exact (.knowing [sampleRaise]) 50).1 (sampleRaise.print 4)
    (.value sampleRaise (.unsigned 50) (JsonLib.parse_knowing_cons_self _ _) valuedAction_sampleRaise
      (.unsigned 50 rfl))).1).mpr (by decide)

end CppSim.Protocol
