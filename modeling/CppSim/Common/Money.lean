import CppSim.Common.Protocol
import CppSim.Library.Word

/-!
# What a money field decodes to

`centsFromJson` chooses its branch by the kind in which the library stored the
number, not by its value: an integer is an amount in cents, a double an amount in
dollars, which is multiplied by 100, a product of doubles, and rounded to cents.
Within one kind the decoder is monotone; across the kinds it is not, since the double
that denotes `10` is a hundred times the integer that does.

`Fits` says that the amount, counted in the unit of its kind, is an `int64_t`.  An
unsigned integer beyond it would wrap, and a double that comes to exactly `2^63`
cents passes the range check and is cast out of range.
-/

namespace CppSim.Protocol

/-- The field `v` of some decoded client message holds `cents`. -/
inductive DecodesAsMoney (v : Json) (cents : Int64) : Prop
  | amount (j : Json) (m : ActionMessage) (hfield : optionalField j (text "amount") = some v)
      (hdecode : ActionMessage.fromJson j = .ok m) (hvalue : m.amount = some cents)
  | requestedAmount (j : Json) (m : ReloadRequestMessage)
      (hfield : j.field? (text "requested_amount") = some v)
      (hdecode : ReloadRequestMessage.fromJson j = .ok m) (hvalue : m.requestedAmount = cents)

/-- The amount, in the unit of its kind, fits `int64_t`. -/
def Fits : Json → Prop
  | .unsigned n => n.toNat < 2 ^ 63
  | .float (.finite q) => roundAway (binary64.nearest (q * 100)) < 2 ^ 63
  | _ => True

/-! ## The two fields use one decoder -/

theorem ActionMessage.amount_of_fromJson {j v : Json} {m : ActionMessage} {cents : Int64}
    (hfield : optionalField j (text "amount") = some v) (hdecode : fromJson j = .ok m)
    (hvalue : m.amount = some cents) : centsFromJson (text "amount") v = .ok cents := by
  simp only [fromJson, hfield, bind, except_bind_eq_ok] at hdecode
  obtain ⟨_, _, _, _, _, _, _, _, _, _, _, _, c, hc, a, ha, hm⟩ := hdecode
  obtain rfl : some c = a := Except.ok.inj ha
  rw [← Except.ok.inj hm] at hvalue
  rw [hc, Option.some.inj hvalue]

theorem ReloadRequestMessage.requestedAmount_of_fromJson {j v : Json}
    {m : ReloadRequestMessage} (hfield : j.field? (text "requested_amount") = some v)
    (hdecode : fromJson j = .ok m) :
    centsFromJson (text "requested_amount") v = .ok m.requestedAmount := by
  simp only [fromJson, bind, except_bind_eq_ok, Json.atKey_of_field? hfield] at hdecode
  obtain ⟨_, _, _, _, w, hw, c, hc, hm⟩ := hdecode
  obtain rfl : v = w := Except.ok.inj hw
  rw [hc, ← Except.ok.inj hm]

/-- A decoded money field was decoded by `centsFromJson`. -/
theorem DecodesAsMoney.centsFromJson_eq {v : Json} {cents : Int64}
    (h : DecodesAsMoney v cents) : ∃ field, centsFromJson field v = .ok cents := by
  cases h with
  | amount j m hfield hdecode hvalue =>
      exact ⟨_, ActionMessage.amount_of_fromJson hfield hdecode hvalue⟩
  | requestedAmount j m hfield hdecode hvalue =>
      exact ⟨_, hvalue ▸ ReloadRequestMessage.requestedAmount_of_fromJson hfield hdecode⟩

/-! ## The value of each kind -/

/-- What rounds to a number in range is a finite double. -/
theorem Double.ofRational_of_roundAway {x : ℚ} (hlow : -2 ^ 63 ≤ roundAway (binary64.nearest x))
    (hhigh : roundAway (binary64.nearest x) ≤ 2 ^ 63) :
    Double.ofRational x = .finite (binary64.nearest x) := by
  have hsize : |(roundAway (binary64.nearest x) : ℚ)| ≤ 2 ^ 63 := by
    exact_mod_cast abs_le.mpr ⟨hlow, hhigh⟩
  have htriangle := abs_add_le (binary64.nearest x - roundAway (binary64.nearest x))
    (roundAway (binary64.nearest x) : ℚ)
  rw [sub_add_cancel] at htriangle
  have hfinite : |binary64.nearest x| < 2 ^ 1024 := by
    calc |binary64.nearest x| ≤ 1 / 2 + 2 ^ 63 :=
          htriangle.trans (add_le_add (abs_sub_roundAway_le _) hsize)
      _ < 2 ^ 64 := by norm_num
      _ ≤ 2 ^ 1024 := pow_le_pow_right₀ one_le_two (by decide)
  rw [Double.ofRational, if_pos hfinite]

/-- What passes the range check is the product, rounded. -/
theorem roundedCents_eq_ok {field : Text} {q : ℚ} {cents : ℤ} :
    roundedCents field (.finite q) = .ok cents ↔
      cents = roundAway (binary64.nearest (q * 100)) ∧ -2 ^ 63 ≤ cents ∧ cents ≤ 2 ^ 63 := by
  constructor
  · intro h
    unfold roundedCents Double.ofRational roundInRange at h
    dsimp only at h
    split at h
    · rename_i product hproduct
      split at hproduct
      · cases hproduct
        split at h
        · cases h
        · rename_i hrange
          push Not at hrange
          cases Except.ok.inj h
          exact ⟨rfl, hrange.2, hrange.1⟩
      · cases hproduct
    · cases h
  · rintro ⟨rfl, hlow, hhigh⟩
    rw [roundedCents, Double.ofRational_of_roundAway hlow hhigh, roundInRange, if_neg (by omega)]

/-- An integer token is an amount in cents. -/
theorem toInt_of_integer {v : Json} {q : ℚ} {cents : Int64} (hnumber : v.number? = some q)
    (hkind : v.isNumberInteger = true) (hfits : Fits v) (h : DecodesAsMoney v cents) :
    (cents.toInt : ℚ) = q := by
  obtain ⟨field, hcents⟩ := h.centsFromJson_eq
  simp only [centsFromJson, hkind, if_true] at hcents
  cases v with
  | integer i =>
      obtain rfl : i = cents := Except.ok.inj hcents
      exact Option.some.inj hnumber
  | unsigned n =>
      obtain rfl : n.toInt64 = cents := Except.ok.inj hcents
      rw [UInt64.toInt_toInt64_of_lt hfits]
      exact_mod_cast Option.some.inj hnumber
  | null | boolean | float | string | array | object => cases hkind

/-- A token with a fraction or an exponent is an amount in dollars, rounded to cents. -/
theorem toInt_of_float {v : Json} {q : ℚ} {cents : Int64} (hnumber : v.number? = some q)
    (hkind : v.isNumberInteger = false) (hfits : Fits v) (h : DecodesAsMoney v cents) :
    cents.toInt = roundAway (binary64.nearest (q * 100)) := by
  obtain ⟨field, hcents⟩ := h.centsFromJson_eq
  rcases v with _ | _ | _ | _ | (p | _ | _) | _ | _ | _ <;>
    simp only [Json.number?, reduceCtorEq, Option.some.injEq] at hnumber
  · cases hkind
  · cases hkind
  · subst hnumber
    simp only [centsFromJson, Json.isNumberInteger, Json.isNumberUnsigned, Bool.false_eq_true,
      if_false, Json.getDouble, centsOfDollars, bind, except_bind_eq_ok] at hcents
    obtain ⟨_, hdollars, rounded, hrounded, hcast⟩ := hcents
    cases Except.ok.inj hdollars
    obtain ⟨rfl, hlow, -⟩ := roundedCents_eq_ok.mp hrounded
    rw [← Except.ok.inj hcast]
    exact Double.toInt_toInt64_intCast hlow hfits

/-! ## Monotonicity -/

/-- More dollars are not fewer cents. -/
theorem roundAway_nearest_mono {p q : ℚ} (h : p ≤ q) :
    roundAway (binary64.nearest p) ≤ roundAway (binary64.nearest q) :=
  roundAway_mono (binary64.nearest_mono (by decide) h)

/-- The product of a double by 100 is not rounded below the double. -/
theorem le_nearest_of_le {n : ℤ} {q : ℚ} (hn : 0 ≤ n) (hq : (n : ℚ) * 100 ≤ q) :
    n ≤ roundAway (binary64.nearest q) := by
  rcases hn.lt_or_eq with hpos | rfl
  · -- a power of two lies between the two
    have hlow : (n : ℚ) ≤ 2 ^ (Int.log 2 (n : ℚ) + 1) := by
      exact_mod_cast (Int.lt_zpow_succ_log_self one_lt_two (n : ℚ)).le
    have hhigh : (2 : ℚ) ^ (Int.log 2 (n : ℚ) + 1) ≤ q := by
      have hn : (0 : ℚ) < n := Int.cast_pos.mpr hpos
      have hlog := Int.zpow_log_le_self one_lt_two hn
      push_cast at hlog
      rw [zpow_add_one₀ two_ne_zero]
      linarith
    have hexponent : binary64.minExponent ≤ Int.log 2 (n : ℚ) + 1 := by
      rw [Int.log_of_one_le_right 2 (by exact_mod_cast hpos)]
      simp only [binary64]
      omega
    have hmono := binary64.nearest_mono (by decide) hhigh
    rw [binary64.nearest_eq_self (binary64.isNumber_zpow (by decide) hexponent)] at hmono
    calc n = roundAway (n : ℚ) := (roundAway_intCast n).symm
      _ ≤ roundAway (binary64.nearest q) := roundAway_mono (hlow.trans hmono)
  · exact roundAway_nonneg (binary64.nearest_nonneg (by simpa using hq))

/-- Doubles count cents exactly up to `2^53`. -/
theorem roundAway_nearest_intCast {n : ℤ} (hn : |n| < 2 ^ 53) :
    roundAway (binary64.nearest (n : ℚ)) = n := by
  rw [nearest_intCast hn, roundAway_intCast]

/-- The decoder compared on two tokens that denote `p ≤ q`.  A token decodes to a
number of cents fixed by its value and its kind.  The decoder is monotone within each
kind and from a nonnegative integer up to a double; the double that denotes the value
of an integer token decodes to a hundred times the cents of that token, as long as doubles
count these exactly. -/
theorem decodesAsMoney_mono {x y : Json} {p q : ℚ} {cx cy : Int64} (hx : x.number? = some p)
    (hy : y.number? = some q) (hpq : p ≤ q) (dx : DecodesAsMoney x cx)
    (dy : DecodesAsMoney y cy) (fx : Fits x) (fy : Fits y) :
    (x.isNumberInteger = true → (cx.toInt : ℚ) = p) ∧
      (x.isNumberInteger = false → cx.toInt = roundAway (binary64.nearest (p * 100))) ∧
      (x.isNumberInteger = y.isNumberInteger → cx ≤ cy) ∧
      (x.isNumberInteger = true → y.isNumberInteger = false → 0 ≤ p → cx ≤ cy) ∧
      (x.isNumberInteger = true → y.isNumberInteger = false → p = q → |100 * p| < 2 ^ 53 →
        cy.toInt = 100 * cx.toInt) := by
  refine ⟨fun hkind => toInt_of_integer hx hkind fx dx,
    fun hkind => toInt_of_float hx hkind fx dx, ?_, ?_, ?_⟩
  · intro hkinds
    rw [Int64.le_iff_toInt_le]
    cases hkind : x.isNumberInteger
    · rw [toInt_of_float hx hkind fx dx, toInt_of_float hy (hkinds ▸ hkind) fy dy]
      exact roundAway_nearest_mono (by linarith)
    · have hcx := toInt_of_integer hx hkind fx dx
      have hcy := toInt_of_integer hy (hkinds ▸ hkind) fy dy
      exact_mod_cast hcx.trans_le (hpq.trans_eq hcy.symm)
  · intro hxkind hykind hp
    have hcx := toInt_of_integer hx hxkind fx dx
    rw [Int64.le_iff_toInt_le, toInt_of_float hy hykind fy dy]
    rw [← hcx] at hp hpq
    exact le_nearest_of_le (by exact_mod_cast hp) (by linarith)
  · rintro hxkind hykind rfl hexact
    have hcx := toInt_of_integer hx hxkind fx dx
    have hproduct : ((100 * cx.toInt : ℤ) : ℚ) = p * 100 := by
      push_cast
      rw [hcx]
      ring
    have hbound : |100 * cx.toInt| < 2 ^ 53 := by
      rw [← hcx] at hexact
      exact_mod_cast hexact
    rw [toInt_of_float hy hykind fy dy, ← hproduct]
    exact roundAway_nearest_intCast hbound

/-- A reload request whose money field is `v`. -/
def sampleReload (v : Json) : Json :=
  .ofFields [(text "session_id", .string (text "sess_a")), (text "requested_amount", v)]

theorem decodesAsMoney_sampleReload {v : Json} {cents : Int64}
    (h : centsFromJson (text "requested_amount") v = .ok cents) : DecodesAsMoney v cents := by
  refine .requestedAmount (sampleReload v) ⟨text "sess_a", cents⟩ rfl ?_ rfl
  have hid : (sampleReload v).atKey (text "session_id") = .ok (.string (text "sess_a")) := rfl
  have hamount : (sampleReload v).atKey (text "requested_amount") = .ok v := rfl
  simp [ReloadRequestMessage.fromJson, hid, hamount, Json.getString, h, bind, Except.bind, pure,
    Except.pure]

/-- A whole number of cents is decoded exactly. -/
theorem roundedCents_of_whole {field : Text} {q : ℚ} {n : ℤ} (hq : q * 100 = n)
    (hn : |n| < 2 ^ 53) : roundedCents field (.finite q) = .ok n := by
  rw [roundedCents_eq_ok, hq, roundAway_nearest_intCast hn]
  rw [abs_lt] at hn
  omega

theorem ten_dollars : (10 : ℚ) * 100 = ((1000 : ℤ) : ℚ) := by norm_num

/-- Ten as a double is a thousand cents. -/
theorem centsFromJson_float_ten (field : Text) :
    centsFromJson field (.float (.finite 10)) = .ok 1000 := by
  have hcents : roundedCents field (.finite 10) = .ok 1000 :=
    roundedCents_of_whole ten_dollars (by decide)
  simp only [centsFromJson, Json.isNumberInteger, Json.isNumberUnsigned, Bool.false_eq_true,
    if_false, Json.getDouble, bind, Except.bind, centsOfDollars, hcents]
  rfl

theorem fits_float_ten : Fits (.float (.finite 10)) := by
  change roundAway (binary64.nearest ((10 : ℚ) * 100)) < 2 ^ 63
  rw [ten_dollars, roundAway_nearest_intCast (by decide)]
  decide

/-- The two spellings of ten: `10` and `10.0`. -/
theorem decodesAsMoney_mono_ten : (1000 : Int64).toInt = 100 * (10 : Int64).toInt :=
  (decodesAsMoney_mono (x := .unsigned 10) (y := .float (.finite 10)) (p := 10) (q := 10) rfl rfl
    le_rfl (decodesAsMoney_sampleReload rfl)
    (decodesAsMoney_sampleReload (centsFromJson_float_ten _)) (show UInt64.toNat 10 < 2 ^ 63 by decide)
    fits_float_ten).2.2.2.2 rfl rfl rfl (by norm_num)

/-- Across the kinds the decoder is not monotone: `10.0` decodes to more cents than `11`. -/
theorem not_decodesAsMoney_mono :
    ¬ ∀ (x y : Json) (p q : ℚ) (cx cy : Int64), x.number? = some p → y.number? = some q →
      p ≤ q → DecodesAsMoney x cx → DecodesAsMoney y cy → cx ≤ cy := by
  intro hmono
  have hle := hmono (.float (.finite 10)) (.unsigned 11) 10 11 1000 11 rfl rfl (by norm_num)
    (decodesAsMoney_sampleReload (centsFromJson_float_ten _)) (decodesAsMoney_sampleReload rfl)
  exact absurd hle (by decide)

end CppSim.Protocol
