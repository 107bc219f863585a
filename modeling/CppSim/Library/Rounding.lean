import Mathlib.Algebra.Order.Field.Power
import Mathlib.Algebra.Order.Floor.Ring
import Mathlib.Algebra.Ring.Int.Parity
import Mathlib.Data.Int.ConditionallyCompleteOrder
import Mathlib.Data.Int.Log
import Mathlib.Tactic.Linarith
import Mathlib.Tactic.Positivity
import Mathlib.Tactic.Ring

/-!
# Rounding

Two ways to round to an integer, and rounding to a binary floating-point format.

`roundAway` and `roundEven` take a number to the nearest integer; a tie goes away from
zero in the one and to the even integer in the other.  Both are monotone and fix the
integers.

A binary format has a precision and a least exponent.  The unit of a number is the
place value of the last digit of the numbers of its size, and `FloatFormat.nearest`
takes a number to the nearest multiple of its unit, a tie going to the even multiple.
An upper end of the range is not part of the format here: whoever uses `nearest`
decides what overflows.

* `nearest_mono` says that rounding is monotone, also across a change of the unit.
* `nearest_eq_self` says that it fixes the numbers of the format.
* `nearest_eq_zpow` says which numbers it takes to a power of two.
-/

variable {K : Type*} [Field K] [LinearOrder K] [IsStrictOrderedRing K] [FloorRing K]

/-! ## Half away from zero -/

/-- The nearest integer, a tie going away from zero. -/
def roundAway (x : K) : ℤ := if 0 ≤ x then ⌊x + 1 / 2⌋ else ⌈x - 1 / 2⌉

omit [IsStrictOrderedRing K] in
theorem roundAway_of_nonneg {x : K} (h : 0 ≤ x) : roundAway x = ⌊x + 1 / 2⌋ := if_pos h

omit [IsStrictOrderedRing K] in
theorem roundAway_of_neg {x : K} (h : x < 0) : roundAway x = ⌈x - 1 / 2⌉ :=
  if_neg (not_le.mpr h)

theorem roundAway_nonneg {x : K} (h : 0 ≤ x) : 0 ≤ roundAway x := by
  rw [roundAway_of_nonneg h, Int.floor_nonneg]
  positivity

theorem roundAway_nonpos {x : K} (h : x < 0) : roundAway x ≤ 0 := by
  rw [roundAway_of_neg h, Int.ceil_le]
  push_cast
  linarith

/-- Rounding moves a number by a half at most. -/
theorem abs_sub_roundAway_le (x : K) : |x - roundAway x| ≤ 1 / 2 := by
  rw [abs_le]
  rcases le_or_gt 0 x with hx | hx
  · rw [roundAway_of_nonneg hx]
    constructor <;> linarith [Int.floor_le (x + 1 / 2), Int.lt_floor_add_one (x + 1 / 2)]
  · rw [roundAway_of_neg hx]
    constructor <;> linarith [Int.le_ceil (x - 1 / 2), Int.ceil_lt_add_one (x - 1 / 2)]

theorem roundAway_mono : Monotone (roundAway : K → ℤ) := by
  intro x y hxy
  rcases le_or_gt 0 x with hx | hx
  · rw [roundAway_of_nonneg hx, roundAway_of_nonneg (hx.trans hxy)]
    exact Int.floor_mono (by linarith)
  · rcases le_or_gt 0 y with hy | hy
    · exact (roundAway_nonpos hx).trans (roundAway_nonneg hy)
    · rw [roundAway_of_neg hx, roundAway_of_neg hy]
      exact Int.ceil_mono (by linarith)

@[simp] theorem roundAway_intCast (n : ℤ) : roundAway (n : K) = n := by
  rcases le_or_gt 0 (n : K) with h | h
  · rw [roundAway_of_nonneg h, Int.floor_intCast_add]
    have hhalf : ⌊(1 / 2 : K)⌋ = 0 := by
      rw [Int.floor_eq_iff]
      constructor <;> norm_num
    omega
  · rw [roundAway_of_neg h, sub_eq_add_neg, Int.ceil_intCast_add]
    have hhalf : ⌈-(1 / 2 : K)⌉ = 0 := by
      rw [Int.ceil_eq_iff]
      constructor <;> norm_num
    omega

/-! ## Half to even -/

/-- The nearest integer, a tie going to the even one. -/
def roundEven (x : K) : ℤ :=
  if x - ⌊x⌋ < 1 / 2 ∨ x - ⌊x⌋ = 1 / 2 ∧ Even ⌊x⌋ then ⌊x⌋ else ⌊x⌋ + 1

omit [IsStrictOrderedRing K] in
theorem floor_le_roundEven (x : K) : ⌊x⌋ ≤ roundEven x := by
  unfold roundEven
  split <;> omega

omit [IsStrictOrderedRing K] in
theorem roundEven_le_floor (x : K) : roundEven x ≤ ⌊x⌋ + 1 := by
  unfold roundEven
  split <;> omega

theorem roundEven_mono : Monotone (roundEven : K → ℤ) := by
  intro x y hxy
  rcases (Int.floor_mono hxy).lt_or_eq with hlt | heq
  · calc roundEven x ≤ ⌊x⌋ + 1 := roundEven_le_floor x
      _ ≤ ⌊y⌋ := hlt
      _ ≤ roundEven y := floor_le_roundEven y
  · unfold roundEven
    rw [heq]
    split
    · split <;> omega
    · rename_i hx
      rw [if_neg]
      rintro (hlt | ⟨htie, heven⟩)
      · exact hx (.inl (by linarith))
      · rcases hxy.lt_or_eq with h | rfl
        · exact hx (.inl (by linarith))
        · exact hx (.inr ⟨htie, heven⟩)

@[simp] theorem roundEven_intCast (n : ℤ) : roundEven (n : K) = n := by
  simp [roundEven]

theorem roundEven_neg (x : K) : roundEven (-x) = -roundEven x := by
  by_cases hint : x = ⌊x⌋
  · rw [hint, ← Int.cast_neg, roundEven_intCast, roundEven_intCast]
  · have hfloor : ⌊-x⌋ = -⌊x⌋ - 1 := by
      have hlow : (⌊x⌋ : K) < x := lt_of_le_of_ne (Int.floor_le x) (Ne.symm hint)
      rw [Int.floor_eq_iff]
      push_cast
      constructor <;> linarith [Int.lt_floor_add_one x]
    have hparity : Even (-⌊x⌋ - 1) ↔ ¬Even ⌊x⌋ := by
      rw [Int.even_sub_one, even_neg]
    simp only [roundEven, hfloor, hparity]
    push_cast
    rcases lt_trichotomy (x - ⌊x⌋) (1 / 2) with h | h | h
    · rw [if_neg, if_pos (.inl h)]
      · ring
      · rintro (h' | ⟨h', -⟩) <;> linarith
    · have htie : -x - (-(⌊x⌋ : K) - 1) = 1 / 2 := by linarith
      simp only [h, htie, lt_irrefl, true_and, false_or]
      by_cases heven : Even ⌊x⌋
      · rw [if_neg (not_not.mpr heven), if_pos heven]
        ring
      · rw [if_pos heven, if_neg heven]
        ring
    · rw [if_pos (.inl (by linarith)), if_neg]
      · ring
      · rintro (h' | ⟨h', -⟩) <;> linarith

/-- An even integer attracts both ties beside it. -/
theorem roundEven_eq_iff {x : K} {n : ℤ} (heven : Even n) :
    roundEven x = n ↔ (n : K) - 1 / 2 ≤ x ∧ x ≤ n + 1 / 2 := by
  have hhigh := Int.lt_floor_add_one x
  have hlow := Int.floor_le x
  constructor
  · intro h
    unfold roundEven at h
    split at h
    · rename_i hdown
      rw [h] at hlow hdown
      refine ⟨by linarith, ?_⟩
      rcases hdown with hdown | ⟨hdown, -⟩ <;> linarith
    · rename_i hup
      push Not at hup
      have hn : (n : K) = ⌊x⌋ + 1 := by exact_mod_cast h.symm
      exact ⟨by linarith [hup.1], by linarith⟩
  · rintro ⟨hbelow, habove⟩
    have hle : ⌊x⌋ ≤ n := by
      have : (⌊x⌋ : K) < n + 1 := by linarith
      exact_mod_cast Int.lt_add_one_iff.mp (by exact_mod_cast this)
    have hge : n ≤ ⌊x⌋ + 1 := by
      have : (n : K) < ⌊x⌋ + 1 + 1 := by linarith
      exact_mod_cast Int.lt_add_one_iff.mp (by exact_mod_cast this)
    rcases hle.lt_or_eq with hlt | heq
    · -- `x` lies below `n`, and the integer under it is odd
      have hn : n = ⌊x⌋ + 1 := by omega
      have hodd : ¬Even ⌊x⌋ := by
        rwa [hn, Int.even_add_one] at heven
      have hcast : (n : K) = ⌊x⌋ + 1 := by exact_mod_cast hn
      rw [roundEven, if_neg, hn]
      rintro (h | ⟨-, h⟩)
      · linarith
      · exact hodd h
    · rw [roundEven, if_pos, heq]
      rw [heq]
      rcases habove.lt_or_eq with h | h
      · exact .inl (by linarith)
      · exact .inr ⟨by linarith, heven⟩

/-! ## The nearest number of a format -/

/-- A binary floating-point format: the digits of a significand, and the exponent of the
smallest positive number. -/
structure FloatFormat where
  precision : ℕ
  minExponent : ℤ

namespace FloatFormat

variable (F : FloatFormat) {x y : K}

/-- The exponent of the unit of `x`. -/
def exponent (x : K) : ℤ := max (Int.log 2 |x| + 1 - F.precision) F.minExponent

/-- The nearest multiple of the unit of `x`. -/
def nearest (x : K) : K := roundEven (x / 2 ^ F.exponent x) * 2 ^ F.exponent x

/-- The numbers of the format. -/
def IsNumber (x : K) : Prop :=
  ∃ (k e : ℤ), x = k * 2 ^ e ∧ |k| < 2 ^ F.precision ∧ F.minExponent ≤ e

omit [IsStrictOrderedRing K] in
@[simp] theorem exponent_neg : F.exponent (-x) = F.exponent x := by
  rw [exponent, exponent, abs_neg]

theorem nearest_neg : F.nearest (-x) = -F.nearest x := by
  rw [nearest, nearest, exponent_neg, neg_div, roundEven_neg, Int.cast_neg, neg_mul]

theorem abs_lt_zpow_exponent (x : K) : |x| < 2 ^ (F.exponent x + F.precision) := by
  have hlog : |x| < 2 ^ (Int.log 2 |x| + 1) := by
    exact_mod_cast Int.lt_zpow_succ_log_self one_lt_two |x|
  refine hlog.trans_le (zpow_le_zpow_right₀ one_le_two ?_)
  have := le_max_left (Int.log 2 |x| + 1 - F.precision) F.minExponent
  unfold exponent
  omega

/-- A number with more than the least exponent has all digits of the precision. -/
theorem zpow_exponent_le_abs (hx : x ≠ 0) (h : F.minExponent < F.exponent x) :
    2 ^ (F.exponent x + F.precision - 1) ≤ |x| := by
  have hexponent : F.exponent x = Int.log 2 |x| + 1 - F.precision := by
    unfold exponent at h ⊢
    omega
  rw [hexponent, show Int.log 2 |x| + 1 - F.precision + F.precision - 1 = Int.log 2 |x| by ring]
  exact_mod_cast Int.zpow_log_le_self one_lt_two (abs_pos.mpr hx)

theorem exponent_mono (hx : 0 < x) (hxy : x ≤ y) : F.exponent x ≤ F.exponent y := by
  have hlog : Int.log 2 |x| ≤ Int.log 2 |y| := by
    rw [abs_of_pos hx, abs_of_pos (hx.trans_le hxy)]
    exact Int.log_mono_right hx hxy
  unfold exponent
  omega

/-- What lies below a multiple of the unit does not round beyond it. -/
theorem nearest_le {k : ℤ} (h : x ≤ k * 2 ^ F.exponent x) :
    F.nearest x ≤ k * 2 ^ F.exponent x := by
  have hpos : (0 : K) < 2 ^ F.exponent x := by positivity
  have hround : roundEven (x / 2 ^ F.exponent x) ≤ k := by
    calc roundEven (x / 2 ^ F.exponent x) ≤ roundEven (k : K) :=
          roundEven_mono ((div_le_iff₀ hpos).mpr h)
      _ = k := roundEven_intCast k
  exact mul_le_mul_of_nonneg_right (by exact_mod_cast hround) hpos.le

/-- What lies above a multiple of the unit does not round below it. -/
theorem le_nearest {k : ℤ} (h : k * 2 ^ F.exponent x ≤ x) :
    k * 2 ^ F.exponent x ≤ F.nearest x := by
  have hneg : -x ≤ ((-k : ℤ) : K) * 2 ^ F.exponent (-x) := by
    rw [exponent_neg]
    push_cast
    linarith
  have := F.nearest_le hneg
  rw [exponent_neg, nearest_neg] at this
  push_cast at this
  linarith

theorem nearest_nonneg (h : 0 ≤ x) : 0 ≤ F.nearest x := by
  have := F.le_nearest (x := x) (k := 0) (by simpa using h)
  simpa using this

omit [IsStrictOrderedRing K] in
/-- Powers of two from the unit on are multiples of it. -/
theorem exists_mul_zpow {e m : ℤ} (h : e ≤ m) : ∃ k : ℤ, (2 : K) ^ m = k * 2 ^ e := by
  refine ⟨2 ^ (m - e).toNat, ?_⟩
  push_cast
  rw [← zpow_natCast, ← zpow_add₀ two_ne_zero]
  congr 1
  omega

/-- The size of `x` bounds the number it rounds to. -/
theorem nearest_le_zpow (x : K) : F.nearest x ≤ 2 ^ (F.exponent x + F.precision) := by
  obtain ⟨k, hk⟩ := exists_mul_zpow (K := K) (show F.exponent x ≤ F.exponent x + F.precision by omega)
  rw [hk]
  refine F.nearest_le ?_
  rw [← hk]
  exact (le_abs_self x).trans (F.abs_lt_zpow_exponent x).le

theorem nearest_mono_pos (hprecision : 0 < F.precision) (hx : 0 < x) (hxy : x ≤ y) :
    F.nearest x ≤ F.nearest y := by
  rcases (F.exponent_mono hx hxy).lt_or_eq with hlt | heq
  · -- the power of two at which the unit grows lies between the two
    have hy : 0 < y := hx.trans_le hxy
    have hmin : F.minExponent < F.exponent y :=
      lt_of_le_of_lt (le_max_right _ _) hlt
    obtain ⟨k, hk⟩ := exists_mul_zpow (K := K)
      (show F.exponent y ≤ F.exponent y + F.precision - 1 by omega)
    calc F.nearest x ≤ 2 ^ (F.exponent x + F.precision) := F.nearest_le_zpow x
      _ ≤ 2 ^ (F.exponent y + F.precision - 1) := zpow_le_zpow_right₀ one_le_two (by omega)
      _ = k * 2 ^ F.exponent y := hk
      _ ≤ F.nearest y := F.le_nearest (by
          rw [← hk, ← abs_of_pos hy]
          simpa [abs_of_pos hy] using F.zpow_exponent_le_abs hy.ne' hmin)
  · unfold nearest
    rw [heq]
    have hdiv : x / 2 ^ F.exponent y ≤ y / 2 ^ F.exponent y :=
      div_le_div_of_nonneg_right hxy (by positivity)
    exact mul_le_mul_of_nonneg_right (by exact_mod_cast roundEven_mono hdiv) (by positivity)

/-- Rounding is monotone. -/
theorem nearest_mono (hprecision : 0 < F.precision) : Monotone (F.nearest : K → K) := by
  intro x y hxy
  rcases lt_or_ge 0 x with hx | hx
  · exact F.nearest_mono_pos hprecision hx hxy
  · have hxneg : F.nearest x ≤ 0 := by
      have := F.nearest_nonneg (x := -x) (by linarith)
      rw [nearest_neg] at this
      linarith
    rcases lt_or_ge y 0 with hy | hy
    · have := F.nearest_mono_pos hprecision (neg_pos.mpr hy) (neg_le_neg hxy)
      rw [nearest_neg, nearest_neg] at this
      linarith
    · exact hxneg.trans (F.nearest_nonneg hy)

/-- The unit of a number of the format divides it. -/
theorem IsNumber.exponent_le {k e : ℤ} (hx : x ≠ 0) (h : x = k * 2 ^ e)
    (hk : |k| < 2 ^ F.precision) (he : F.minExponent ≤ e) : F.exponent x ≤ e := by
  by_contra hlt
  push Not at hlt
  have hlow := F.zpow_exponent_le_abs hx (he.trans_lt hlt)
  have hhigh : |x| < 2 ^ (e + F.precision) := by
    rw [h, abs_mul, abs_of_pos (show (0 : K) < 2 ^ e by positivity), add_comm, zpow_add₀ two_ne_zero]
    refine mul_lt_mul_of_pos_right ?_ (by positivity)
    exact_mod_cast hk
  have : (2 : K) ^ (e + F.precision) ≤ 2 ^ (F.exponent x + F.precision - 1) :=
    zpow_le_zpow_right₀ one_le_two (by omega)
  linarith

/-- Rounding fixes the numbers of the format. -/
theorem nearest_eq_self (h : F.IsNumber x) : F.nearest x = x := by
  obtain ⟨k, e, hx, hk, he⟩ := h
  by_cases hzero : x = 0
  · have hround : roundEven (0 : K) = 0 := by simpa using roundEven_intCast (K := K) 0
    rw [hzero, nearest, zero_div, hround]
    simp
  · have hexponent := IsNumber.exponent_le F hzero hx hk he
    obtain ⟨j, hj⟩ := exists_mul_zpow (K := K) hexponent
    have hpos : (2 : K) ^ F.exponent x ≠ 0 := by positivity
    have hmultiple : x / 2 ^ F.exponent x = ((k * j : ℤ) : K) := by
      rw [div_eq_iff hpos]
      conv_lhs => rw [hx, hj]
      push_cast
      ring
    rw [nearest, hmultiple, roundEven_intCast, ← hmultiple, div_mul_cancel₀ _ hpos]

omit [LinearOrder K] [IsStrictOrderedRing K] [FloorRing K] in
theorem isNumber_intCast {n : ℤ} (hmin : F.minExponent ≤ 0) (hn : |n| < 2 ^ F.precision) :
    F.IsNumber (n : K) := ⟨n, 0, by simp, hn, hmin⟩

omit [LinearOrder K] [IsStrictOrderedRing K] [FloorRing K] in
theorem isNumber_zpow {e : ℤ} (hprecision : 0 < F.precision) (he : F.minExponent ≤ e) :
    F.IsNumber ((2 : K) ^ e) :=
  ⟨1, e, by simp, by simpa using one_lt_pow₀ one_lt_two hprecision.ne', he⟩

/-- What rounding gives is a number of the format. -/
theorem isNumber_nearest (hprecision : 0 < F.precision) (x : K) : F.IsNumber (F.nearest x) := by
  have hpos : (0 : K) < 2 ^ F.exponent x := by positivity
  have hsize : |roundEven (x / 2 ^ F.exponent x)| ≤ 2 ^ F.precision := by
    have hquotient : |x / 2 ^ F.exponent x| ≤ 2 ^ F.precision := by
      rw [abs_div, abs_of_pos hpos, div_le_iff₀ hpos, ← zpow_natCast, ← zpow_add₀ two_ne_zero,
        add_comm]
      exact (F.abs_lt_zpow_exponent x).le
    rw [abs_le] at hquotient ⊢
    have hlow := roundEven_mono hquotient.1
    have hhigh := roundEven_mono hquotient.2
    have hbound : roundEven ((2 : K) ^ F.precision) = 2 ^ F.precision := by
      exact_mod_cast roundEven_intCast (K := K) (2 ^ F.precision)
    rw [roundEven_neg, hbound] at hlow
    rw [hbound] at hhigh
    exact ⟨hlow, hhigh⟩
  have hmin : F.minExponent ≤ F.exponent x := le_max_right _ _
  rcases hsize.lt_or_eq with hlt | heq
  · exact ⟨_, _, rfl, hlt, hmin⟩
  · -- the significand overflows into the next unit
    obtain ⟨p, hp⟩ : ∃ p, F.precision = p + 1 := ⟨F.precision - 1, by omega⟩
    have hhalf : (2 : ℤ) ^ p < 2 ^ F.precision := by
      rw [hp]
      exact pow_lt_pow_right₀ one_lt_two (by omega)
    rw [nearest]
    rcases (abs_eq (by positivity)).mp heq with h | h
    · refine ⟨2 ^ p, F.exponent x + 1, ?_, by rwa [abs_of_pos (by positivity)], by omega⟩
      rw [h, hp, zpow_add_one₀ two_ne_zero]
      push_cast
      ring
    · refine ⟨-2 ^ p, F.exponent x + 1, ?_, by rwa [abs_neg, abs_of_pos (by positivity)], by omega⟩
      rw [h, hp, zpow_add_one₀ two_ne_zero]
      push_cast
      ring

theorem exponent_eq {l : ℤ} (hlow : 2 ^ l ≤ x) (hhigh : x < 2 ^ (l + 1))
    (hl : F.minExponent + F.precision ≤ l + 1) : F.exponent x = l + 1 - F.precision := by
  have hpos : 0 < x := lt_of_lt_of_le (by positivity) hlow
  have hbelow : l ≤ Int.log 2 x :=
    (Int.zpow_le_iff_le_log one_lt_two hpos).mp (by exact_mod_cast hlow)
  have habove : Int.log 2 x < l + 1 :=
    (Int.lt_zpow_iff_log_lt one_lt_two hpos).mp (by exact_mod_cast hhigh)
  rw [exponent, abs_of_pos hpos]
  omega

/-- An even multiple of the unit attracts both ties beside it. -/
theorem nearest_eq_iff {k : ℤ} (heven : Even k) :
    F.nearest x = k * 2 ^ F.exponent x ↔
      (k - 1 / 2) * 2 ^ F.exponent x ≤ x ∧ x ≤ (k + 1 / 2) * 2 ^ F.exponent x := by
  have hpos : (0 : K) < 2 ^ F.exponent x := by positivity
  rw [nearest, mul_left_inj' hpos.ne', Int.cast_inj, roundEven_eq_iff heven, le_div_iff₀ hpos,
    div_le_iff₀ hpos]

/-- A power of two within the format is what rounds to it from half a unit on either side, and
the unit below it is half the unit above it. -/
theorem nearest_eq_zpow {m : ℤ} (hprecision : 1 < F.precision)
    (hm : F.minExponent + F.precision ≤ m) :
    F.nearest x = 2 ^ m ↔ (2 : K) ^ m - 2 ^ (m - F.precision - 1) ≤ x ∧
      x ≤ 2 ^ m + 2 ^ (m - F.precision) := by
  -- all bounds in terms of the half unit below `2 ^ m`
  have hquarter : (2 : K) ^ (m - F.precision) = 2 * 2 ^ (m - F.precision - 1) := by
    rw [← zpow_one_add₀ two_ne_zero]
    congr 1
    ring
  have hunit : (2 : K) ^ (m + 1 - F.precision) = 4 * 2 ^ (m - F.precision - 1) := by
    rw [show m + 1 - (F.precision : ℤ) = 1 + (m - F.precision) by ring, zpow_one_add₀ two_ne_zero,
      hquarter]
    ring
  have hbelow : (2 : K) ^ m = 2 ^ F.precision * 2 ^ (m - F.precision) := by
    rw [← zpow_natCast, ← zpow_add₀ two_ne_zero]
    congr 1
    ring
  have habove : (2 : K) ^ m = 2 ^ (F.precision - 1) * 2 ^ (m + 1 - F.precision) := by
    rw [← zpow_natCast, ← zpow_add₀ two_ne_zero]
    congr 1
    omega
  have hhalf : (2 : K) ^ m = 2 * 2 ^ (m - 1) := by
    rw [← zpow_one_add₀ two_ne_zero]
    congr 1
    ring
  have hdouble : (2 : K) ^ (m + 1) = 2 * 2 ^ m := by
    rw [add_comm, zpow_one_add₀ two_ne_zero]
  have hsmall : (2 : K) ^ (m - F.precision) ≤ 2 ^ (m - 1) :=
    zpow_le_zpow_right₀ one_le_two (by omega)
  have hpos : (0 : K) < 2 ^ (m - F.precision - 1) := by positivity
  have hm1 : (0 : K) < 2 ^ (m - 1) := by positivity
  have hfixes : ∀ e, F.minExponent ≤ e → F.nearest ((2 : K) ^ e) = 2 ^ e := fun e he =>
    F.nearest_eq_self (F.isNumber_zpow (by omega) he)
  rcases lt_or_ge x (2 ^ (m - 1)) with hx | hx
  · have hle := F.nearest_mono (by omega) hx.le
    rw [hfixes _ (by omega)] at hle
    constructor
    · intro h
      linarith
    · rintro ⟨h, -⟩
      linarith
  rcases lt_or_ge x (2 ^ m) with hx' | hx'
  · have hexponent := F.exponent_eq (x := x) hx (by simpa using hx') (by omega)
    rw [show m - 1 + 1 - (F.precision : ℤ) = m - F.precision by ring] at hexponent
    have hiff := F.nearest_eq_iff (x := x) (k := 2 ^ F.precision)
      (even_two.pow_of_ne_zero (by omega))
    rw [hexponent] at hiff
    push_cast at hiff
    rw [hbelow, hiff]
    constructor
    · rintro ⟨h, -⟩
      constructor <;> linarith
    · rintro ⟨h, -⟩
      constructor <;> linarith
  rcases lt_or_ge x (2 ^ (m + 1)) with hx'' | hx''
  · have hexponent := F.exponent_eq (x := x) hx' hx'' (by omega)
    have hiff := F.nearest_eq_iff (x := x) (k := 2 ^ (F.precision - 1))
      (even_two.pow_of_ne_zero (by omega))
    rw [hexponent] at hiff
    push_cast at hiff
    rw [habove, hiff]
    constructor
    · rintro ⟨-, h⟩
      constructor <;> linarith
    · rintro ⟨-, h⟩
      constructor <;> linarith
  · have hle := F.nearest_mono (by omega) hx''
    rw [hfixes _ (by omega)] at hle
    constructor
    · intro h
      linarith
    · rintro ⟨-, h⟩
      linarith

end FloatFormat
