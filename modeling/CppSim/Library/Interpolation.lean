import Mathlib.Algebra.Order.Floor.Semiring
import Mathlib.Algebra.Order.Field.Basic
import Mathlib.Order.Monotone.Basic
import Mathlib.Tactic.Linarith
import Mathlib.Tactic.Ring

/-!
# Linear interpolation

Between two neighbouring indices a sequence is continued by the straight line through its
values.  The continuation of a monotone sequence lies between the values at the two indices
and is monotone: on one segment because its slope is not negative, and from one segment to
another through the value at an index in between.

The sequence need only be monotone up to the last index that is read.
-/

namespace Interpolation

variable {K : Type*} [Field K] [LinearOrder K] [IsStrictOrderedRing K] [FloorSemiring K]

/-- The value at `x` on the line through the values at the neighbouring indices. -/
def interpolate (f : ℕ → K) (x : K) : K :=
  f ⌊x⌋₊ * (1 - (x - ⌊x⌋₊)) + f ⌈x⌉₊ * (x - ⌊x⌋₊)

variable {f : ℕ → K} {n : ℕ} {x y : K}

omit [IsStrictOrderedRing K] in
theorem interpolate_eq : interpolate f x = f ⌊x⌋₊ + (f ⌈x⌉₊ - f ⌊x⌋₊) * (x - ⌊x⌋₊) := by
  unfold interpolate
  ring

omit [IsStrictOrderedRing K] in
/-- At an index it is the value of the sequence. -/
theorem interpolate_of_floor_eq_ceil (h : ⌊x⌋₊ = ⌈x⌉₊) :
    interpolate f x = f ⌊x⌋₊ := by
  rw [interpolate_eq, ← h, sub_self, zero_mul, add_zero]

section Monotone

variable (hf : MonotoneOn f (Set.Iic n))

include hf

theorem floor_le_interpolate (hx : 0 ≤ x) (hn : x ≤ n) : f ⌊x⌋₊ ≤ interpolate f x := by
  have hceil : ⌈x⌉₊ ≤ n := Nat.ceil_le.mpr hn
  have hle : f ⌊x⌋₊ ≤ f ⌈x⌉₊ :=
    hf ((Nat.floor_le_ceil x).trans hceil) hceil (Nat.floor_le_ceil x)
  rw [interpolate_eq, le_add_iff_nonneg_right]
  exact mul_nonneg (sub_nonneg.mpr hle) (sub_nonneg.mpr (Nat.floor_le hx))

theorem interpolate_le_ceil (hn : x ≤ n) : interpolate f x ≤ f ⌈x⌉₊ := by
  have hceil : ⌈x⌉₊ ≤ n := Nat.ceil_le.mpr hn
  have hle : f ⌊x⌋₊ ≤ f ⌈x⌉₊ :=
    hf ((Nat.floor_le_ceil x).trans hceil) hceil (Nat.floor_le_ceil x)
  have hweight : x - ⌊x⌋₊ ≤ 1 := by
    have hlt := Nat.lt_floor_add_one x
    linarith
  rw [interpolate_eq]
  calc f ⌊x⌋₊ + (f ⌈x⌉₊ - f ⌊x⌋₊) * (x - ⌊x⌋₊)
      ≤ f ⌊x⌋₊ + (f ⌈x⌉₊ - f ⌊x⌋₊) * 1 := by gcongr
    _ = f ⌈x⌉₊ := by ring

theorem interpolate_mono (hx : 0 ≤ x) (hxy : x ≤ y) (hn : y ≤ n) :
    interpolate f x ≤ interpolate f y := by
  have hy := hx.trans hxy
  have hceil : ⌈y⌉₊ ≤ n := Nat.ceil_le.mpr hn
  by_cases hsegment : ⌈x⌉₊ ≤ ⌊y⌋₊
  · -- an index lies in between
    calc interpolate f x ≤ f ⌈x⌉₊ := interpolate_le_ceil hf (hxy.trans hn)
      _ ≤ f ⌊y⌋₊ := hf (hsegment.trans ((Nat.floor_le_ceil y).trans hceil))
          ((Nat.floor_le_ceil y).trans hceil) hsegment
      _ ≤ interpolate f y := floor_le_interpolate hf hy hn
  · have hfloor : ⌊x⌋₊ = ⌊y⌋₊ := by
      have hle := Nat.floor_mono hxy
      have hx' := Nat.ceil_le_floor_add_one x
      omega
    have hceil' : ⌈x⌉₊ = ⌈y⌉₊ := by
      have hle := Nat.ceil_mono hxy
      have hy' := Nat.ceil_le_floor_add_one y
      omega
    have hle : f ⌊y⌋₊ ≤ f ⌈y⌉₊ :=
      hf ((Nat.floor_le_ceil y).trans hceil) hceil (Nat.floor_le_ceil y)
    rw [interpolate_eq, interpolate_eq, hfloor, hceil']
    gcongr

end Monotone

end Interpolation
