import Mathlib.Algebra.Order.Ring.Int
import Mathlib.Tactic.Common

/-!
# Machine words as integers

Casts and arithmetic of the fixed-width types, read as integers.  Inside the range
of the type every operation is the one of the integers; the unsigned difference of
two signed words is their difference whenever that is not negative.  A number below a
power of the base is determined by its digits.
-/

/-- Numbers that agree in their `n` lowest digits agree modulo the power of the base. -/
theorem Nat.mod_pow_eq_of_digit_eq {b x y n : ℕ}
    (h : ∀ k < n, x / b ^ k % b = y / b ^ k % b) : x % b ^ n = y % b ^ n := by
  induction n with
  | zero => simp [Nat.mod_one]
  | succ n ih =>
      rw [Nat.mod_pow_succ, Nat.mod_pow_succ, ih fun k hk => h k (by omega), h n (by omega)]

/-- A value that preserves and reflects the order takes the smaller of two words to the smaller
of their values. -/
theorem map_minOfLe {α : Type*} [LE α] [DecidableRel (LE.le : α → α → Prop)] {value : α → ℤ}
    (hvalue : ∀ {a b}, a ≤ b ↔ value a ≤ value b) (a b : α) :
    value (minOfLe.min a b) = min (value a) (value b) := by
  change value (if a ≤ b then a else b) = _
  by_cases hle : a ≤ b
  · rw [if_pos hle, min_eq_left (hvalue.mp hle)]
  · have hlt : value b < value a := not_le.mp fun h => hle (hvalue.mpr h)
    rw [if_neg hle, min_eq_right hlt.le]

theorem Int32.toInt_min (a b : Int32) : (min a b).toInt = min a.toInt b.toInt :=
  map_minOfLe Int32.le_iff_toInt_le a b

/-- The cast to the signed type is the balanced residue modulo `2^64`. -/
theorem UInt64.toInt_toInt64_eq_bmod (n : UInt64) :
    n.toInt64.toInt = (n.toNat : ℤ).bmod (2 ^ 64) := by
  have hword : n.toInt64 = Int64.ofNat n.toNat := by
    rw [← UInt64.toInt64_ofNat', UInt64.ofNat_toNat]
  rw [hword, Int64.toInt_ofNat']
  rfl

/-- A word in the signed range keeps its value under the cast to the signed type. -/
theorem UInt64.toInt_toInt64_of_lt {n : UInt64} (h : n.toNat < 2 ^ 63) :
    n.toInt64.toInt = n.toNat := by
  rw [UInt64.toInt_toInt64_eq_bmod, Int.bmod_eq_of_le (by omega) (by omega)]

namespace Int64

theorem toInt_min (a b : Int64) : (min a b).toInt = min a.toInt b.toInt :=
  map_minOfLe Int64.le_iff_toInt_le a b

/-- A sum that fits is the sum of the integers. -/
theorem toInt_add_of_lt {a b : Int64} (hlow : -2 ^ 63 ≤ a.toInt + b.toInt)
    (hhigh : a.toInt + b.toInt < 2 ^ 63) : (a + b).toInt = a.toInt + b.toInt := by
  rw [Int64.toInt_add, Int.bmod_eq_of_le (by simpa using hlow) (by simpa using hhigh)]

/-- The cast to the unsigned type is the residue modulo `2^64`. -/
theorem toNat_toUInt64 (a : Int64) : (a.toUInt64.toNat : Int) = a.toInt % 2 ^ 64 := by
  have hlt := a.toBitVec.isLt
  rw [← Int64.toNat_toBitVec, ← Int64.toInt_toBitVec, BitVec.toInt_eq_toNat_cond]
  split <;> omega

/-- The unsigned difference of two signed words is their difference when that is not
negative, whatever the signs of the two words. -/
theorem toNat_toUInt64_sub {a b : Int64} (h : b.toInt ≤ a.toInt) :
    ((a.toUInt64 - b.toUInt64).toNat : Int) = a.toInt - b.toInt := by
  have ha := a.toNat_toUInt64
  have hb := b.toNat_toUInt64
  have hbounds := And.intro a.le_toInt a.toInt_lt
  have hbounds' := And.intro b.le_toInt b.toInt_lt
  rw [UInt64.toNat_sub]
  omega

end Int64
