import CppSim.Common.Money

/-!
# The range of the cast to cents

The floating-point branch of the two money decoders ends in `static_cast<int64_t>`,
which C++ defines for the values of `int64_t` only.  The decoders check the rounded
product first, but against `static_cast<double>` of the largest `int64_t`, and that is
`2^63`: a product of exactly `2^63` passes.

`castsCents_iff` names the amounts that get there.  The product of doubles is rounded,
so they are an interval of rational numbers; the doubles themselves are 16 apart there,
and `eq_of_isNumber` says that one of them is in it.
-/

namespace CppSim.Protocol

/-! ## Reaching the cast -/

/-- Decoding the payload `j` gets to the floating-point branch of the field with these
dollars: the fields before it are read, and its own value is not an integer. -/
inductive DecodesDollars (j : Json) (dollars : Double) : Text → Prop
  | amount {sessionId actionType sequenceNumber v : Json} {sid type : Text} {seq : Int64}
      (hid : j.field? (text "session_id") = some sessionId) (hsid : sessionId.getString = .ok sid)
      (htype : j.field? (text "action_type") = some actionType)
      (hactionType : actionType.getString = .ok type)
      (hseq : j.field? (text "sequence_number") = some sequenceNumber)
      (hsequenceNumber : sequenceNumber.getInt64 = .ok seq)
      (hfield : optionalField j (text "amount") = some v)
      (hinteger : v.isNumberInteger = false) (hunsigned : v.isNumberUnsigned = false)
      (hdollars : v.getDouble = .ok dollars) : DecodesDollars j dollars (text "amount")
  | requestedAmount {sessionId v : Json} {sid : Text}
      (hid : j.field? (text "session_id") = some sessionId) (hsid : sessionId.getString = .ok sid)
      (hfield : j.field? (text "requested_amount") = some v)
      (hinteger : v.isNumberInteger = false) (hunsigned : v.isNumberUnsigned = false)
      (hdollars : v.getDouble = .ok dollars) : DecodesDollars j dollars (text "requested_amount")

/-- Decoding the payload `j` evaluates `static_cast<int64_t>(cents)`. -/
def CastsCents (j : Json) (cents : ℤ) : Prop :=
  ∃ field dollars, DecodesDollars j dollars field ∧ roundedCents field dollars = .ok cents

/-- A value that is not an integer is decoded by the floating-point branch. -/
theorem centsFromJson_of_dollars {field : Text} {v : Json} {dollars : Double}
    (hinteger : v.isNumberInteger = false) (hunsigned : v.isNumberUnsigned = false)
    (hdollars : v.getDouble = .ok dollars) :
    centsFromJson field v = centsOfDollars field dollars := by
  simp [centsFromJson, hinteger, hunsigned, hdollars, bind, Except.bind]

/-- The message then holds what the cast gives. -/
theorem DecodesDollars.decodesAsMoney {j : Json} {dollars : Double} {field : Text} {cents : ℤ}
    (h : DecodesDollars j dollars field) (hcents : roundedCents field dollars = .ok cents) :
    ∃ v, DecodesAsMoney v (Double.finite cents).toInt64 := by
  have hcast : ∀ v : Json, v.isNumberInteger = false → v.isNumberUnsigned = false →
      v.getDouble = .ok dollars → centsFromJson field v = .ok (Double.finite cents).toInt64 := by
    intro v hinteger hunsigned hdollars
    rw [centsFromJson_of_dollars hinteger hunsigned hdollars, centsOfDollars, hcents]
    rfl
  cases h with
  | @amount _ _ _ _ sid type seq hid hsid htype hactionType hseq hsequenceNumber hfield hinteger
      hunsigned hdollars =>
      refine ⟨_, .amount j ⟨sid, type, some _, seq⟩ hfield ?_ rfl⟩
      simp only [ActionMessage.fromJson, Json.atKey_of_field? hid, hsid, Json.atKey_of_field? htype,
        hactionType, Json.atKey_of_field? hseq, hsequenceNumber, hfield,
        hcast _ hinteger hunsigned hdollars, bind, Except.bind]
      rfl
  | @requestedAmount _ _ sid hid hsid hfield hinteger hunsigned hdollars =>
      refine ⟨_, .requestedAmount j ⟨sid, _⟩ hfield ?_ rfl⟩
      simp only [ReloadRequestMessage.fromJson, Json.atKey_of_field? hid, hsid,
        Json.atKey_of_field? hfield, hcast _ hinteger hunsigned hdollars, bind, Except.bind]
      rfl

/-! ## The boundary -/

/-- The product of these dollars by 100 comes to `2^63`. -/
def AtBoundary (q : ℚ) : Prop := 2 ^ 63 - 512 ≤ q * 100 ∧ q * 100 ≤ 2 ^ 63 + 1024

/-- `2^63` attracts what lies within half a unit: the unit is 1024 below it and 2048 above. -/
theorem nearest_eq_two_pow {x : ℚ} :
    binary64.nearest x = 2 ^ 63 ↔ 2 ^ 63 - 512 ≤ x ∧ x ≤ 2 ^ 63 + 1024 := by
  have h := binary64.nearest_eq_zpow (x := x) (m := 63) (by decide) (by decide)
  norm_num [binary64] at h ⊢
  exact h

theorem roundAway_two_pow : roundAway ((2 : ℚ) ^ 63) = 2 ^ 63 := by
  have h := roundAway_intCast (K := ℚ) (2 ^ 63)
  push_cast at h
  exact h

/-- A double that rounds to `2^63` is `2^63`. -/
theorem roundAway_eq_two_pow {x : ℚ} (hx : binary64.IsNumber x) :
    roundAway x = 2 ^ 63 ↔ x = 2 ^ 63 := by
  constructor
  · intro h
    have hnonneg : 0 ≤ x := by
      by_contra hneg
      have := roundAway_nonpos (not_le.mp hneg)
      omega
    rw [roundAway_of_nonneg hnonneg, Int.floor_eq_iff] at h
    push_cast at h
    rw [← binary64.nearest_eq_self hx, nearest_eq_two_pow]
    constructor <;> linarith [h.1, h.2]
  · rintro rfl
    exact roundAway_two_pow

theorem roundAway_nearest_eq_two_pow {q : ℚ} :
    roundAway (binary64.nearest (q * 100)) = 2 ^ 63 ↔ AtBoundary q := by
  rw [roundAway_eq_two_pow (binary64.isNumber_nearest (by decide) _), nearest_eq_two_pow,
    AtBoundary]

/-- At the boundary the check lets `2^63` through. -/
theorem roundedCents_of_atBoundary {field : Text} {q : ℚ} (h : AtBoundary q) :
    roundedCents field (.finite q) = .ok (2 ^ 63) := by
  rw [roundedCents_eq_ok, roundAway_nearest_eq_two_pow.mpr h]
  decide

/-- The cast stays in range exactly if the dollars are not at the boundary. -/
theorem castsCents_iff (j : Json) :
    (∀ cents, CastsCents j cents → -2 ^ 63 ≤ cents ∧ cents ≤ 2 ^ 63 - 1) ↔
      ∀ field q, DecodesDollars j (.finite q) field → ¬AtBoundary q := by
  constructor
  · intro hrange field q hdollars hboundary
    have hcast : CastsCents j (2 ^ 63) :=
      ⟨field, _, hdollars, roundedCents_of_atBoundary hboundary⟩
    exact absurd (hrange _ hcast).2 (by decide)
  · rintro hsafe cents ⟨field, dollars, hdollars, hcents⟩
    cases dollars with
    | finite q =>
        obtain ⟨rfl, hlow, hhigh⟩ := roundedCents_eq_ok.mp hcents
        have hne := mt roundAway_nearest_eq_two_pow.mp (hsafe field q hdollars)
        exact ⟨hlow, Int.le_sub_one_of_lt (lt_of_le_of_ne hhigh hne)⟩
    | infinite | nan => cases hcents

/-- One double is at the boundary. -/
theorem eq_of_isNumber {q : ℚ} (hq : binary64.IsNumber q) (h : AtBoundary q) :
    q = 92233720368547760 := by
  obtain ⟨k, e, rfl, hk, -⟩ := hq
  obtain ⟨hlow, hhigh⟩ := h
  -- the significand has 53 bits, so that the last of them counts 16 or more
  have he : 4 ≤ e := by
    by_contra hlt
    have hpower : (2 : ℚ) ^ e ≤ 2 ^ (3 : ℤ) := zpow_le_zpow_right₀ one_le_two (by omega)
    have hpos : (0 : ℚ) < 2 ^ e := by positivity
    have hk' : (k : ℚ) < 2 ^ 53 := by exact_mod_cast (abs_lt.mp hk).2
    have hproduct : (k : ℚ) * 2 ^ e ≤ 2 ^ 53 * 2 ^ (3 : ℤ) :=
      mul_le_mul hk'.le hpower hpos.le (by positivity)
    norm_num at hproduct hlow
    linarith
  obtain ⟨d, rfl⟩ := Int.le.dest he
  have hvalue : (k : ℚ) * 2 ^ (4 + (d : ℤ)) = ((16 * (k * 2 ^ d) : ℤ) : ℚ) := by
    rw [zpow_add₀ two_ne_zero, zpow_natCast]
    push_cast
    ring
  rw [hvalue] at hlow hhigh ⊢
  have hlow' : 2 ^ 63 - 512 ≤ 16 * (k * 2 ^ d) * 100 := by exact_mod_cast hlow
  have hhigh' : 16 * (k * 2 ^ d) * 100 ≤ 2 ^ 63 + 1024 := by exact_mod_cast hhigh
  have hunique : 16 * (k * 2 ^ d) = 92233720368547760 := by
    generalize k * 2 ^ d = n at hlow' hhigh' ⊢
    omega
  exact_mod_cast hunique

/-- The nearest double to 92233720368547758.08 dollars. -/
def boundaryDollars : Json := .float (.finite 92233720368547760)

/-- A RELOAD_REQUEST of that many dollars casts `2^63`. -/
theorem casts_out_of_range : ¬∀ j cents, CastsCents j cents → -2 ^ 63 ≤ cents ∧ cents ≤ 2 ^ 63 - 1 := by
  intro hrange
  have hdollars : DecodesDollars (sampleReload boundaryDollars) (.finite 92233720368547760)
      (text "requested_amount") := by
    have hid : (sampleReload boundaryDollars).field? (text "session_id") =
        some (.string (text "sess_a")) := rfl
    have hfield : (sampleReload boundaryDollars).field? (text "requested_amount") =
        some boundaryDollars := rfl
    exact .requestedAmount hid rfl hfield rfl rfl rfl
  have hboundary : AtBoundary 92233720368547760 := by
    unfold AtBoundary
    norm_num
  have hcast : CastsCents (sampleReload boundaryDollars) (2 ^ 63) :=
    ⟨_, _, hdollars, roundedCents_of_atBoundary hboundary⟩
  exact absurd (hrange _ _ hcast).2 (by decide)

end CppSim.Protocol
