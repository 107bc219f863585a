import Mathlib.Order.Monotone.Basic
import Mathlib.Tactic.Common

/-!
# The calendar

A number is located in a sequence of periods of varying length by the index of its period and
its offset there (`locate`); a greater number is located later (`locate_lt`).  Two such
sequences, the years from 1970 on and the months of a year, make the Gregorian calendar:
`Date.ofDays` is the date of a day, and a later day has a later date (`Date.ofDays_lt`).
-/

namespace Calendar

/-! ## Periods of varying length -/

/-- The length of the first `k` periods. -/
def offset (len : ℕ → ℕ) : ℕ → ℕ
  | 0 => 0
  | k + 1 => offset len k + len k

/-- Leave periods behind, from the `k`-th on, until the rest fits into one. -/
def locateFrom (len : ℕ → ℕ) : ℕ → ℕ → ℕ → ℕ × ℕ
  | 0, k, n => (k, n)
  | fuel + 1, k, n => if n < len k then (k, n) else locateFrom len fuel (k + 1) (n - len k)

/-- The period of a number, and the offset in it. -/
def locate (len : ℕ → ℕ) (n : ℕ) : ℕ × ℕ := locateFrom len (n + 1) 0 n

section Periods

variable {len : ℕ → ℕ} {n n' : ℕ}

theorem offset_mono (len : ℕ → ℕ) : Monotone (offset len) := by
  refine monotone_nat_of_le_succ fun k => ?_
  exact Nat.le_add_right _ _

theorem locateFrom_spec (hpos : ∀ k, 0 < len k) (fuel k : ℕ) (hfuel : n < fuel) :
    (locateFrom len fuel k n).2 < len (locateFrom len fuel k n).1 ∧
      offset len (locateFrom len fuel k n).1 + (locateFrom len fuel k n).2 = offset len k + n := by
  induction fuel generalizing k n with
  | zero => omega
  | succ fuel ih =>
      rw [locateFrom]
      by_cases hfits : n < len k
      · rw [if_pos hfits]
        exact ⟨hfits, rfl⟩
      · rw [if_neg hfits]
        have hk := hpos k
        obtain ⟨hlt, heq⟩ := ih (n := n - len k) (k + 1) (by omega)
        refine ⟨hlt, heq.trans ?_⟩
        rw [offset]
        omega

theorem locate_lt_len (hpos : ∀ k, 0 < len k) (n : ℕ) :
    (locate len n).2 < len (locate len n).1 :=
  (locateFrom_spec hpos (n + 1) 0 (Nat.lt_succ_self n)).1

theorem offset_locate (hpos : ∀ k, 0 < len k) (n : ℕ) :
    offset len (locate len n).1 + (locate len n).2 = n :=
  (locateFrom_spec hpos (n + 1) 0 (Nat.lt_succ_self n)).2.trans (Nat.zero_add n)

/-- A number below the length of the first `k` periods is in one of them. -/
theorem locate_lt_of_lt_offset (hpos : ∀ k, 0 < len k) {k : ℕ} (h : n < offset len k) :
    (locate len n).1 < k := by
  by_contra hge
  have hle := offset_mono len (not_lt.mp hge)
  have heq := offset_locate hpos n
  omega

/-- A greater number is in a later period, or later in the same one. -/
theorem locate_lt (hpos : ∀ k, 0 < len k) (h : n < n') :
    (locate len n).1 < (locate len n').1 ∨
      (locate len n).1 = (locate len n').1 ∧ (locate len n).2 < (locate len n').2 := by
  have heq := offset_locate hpos n
  have heq' := offset_locate hpos n'
  rcases Nat.lt_trichotomy (locate len n).1 (locate len n').1 with hlt | hsame | hgt
  · exact .inl hlt
  · rw [hsame] at heq
    exact .inr ⟨hsame, by omega⟩
  · have hle := offset_mono len hgt
    have hlen := locate_lt_len hpos n'
    rw [Nat.succ_eq_add_one, offset] at hle
    omega

end Periods

/-! ## The Gregorian calendar -/

def isLeapYear (year : ℕ) : Bool := year % 4 == 0 && (year % 100 != 0 || year % 400 == 0)

/-- The length of a month, from January as 0 on. -/
def monthLength (year : ℕ) : ℕ → ℕ
  | 1 => if isLeapYear year then 29 else 28
  | 3 | 5 | 8 | 10 => 30
  | _ => 31

def yearLength (year : ℕ) : ℕ := offset (monthLength year) 12

/-- The years from 1970 on. -/
def yearLengthFrom1970 (k : ℕ) : ℕ := yearLength (1970 + k)

structure Date where
  year : ℕ
  month : ℕ
  day : ℕ
  deriving DecidableEq

/-- The date of a day counted from 1970-01-01. -/
def Date.ofDays (days : ℕ) : Date :=
  let (years, dayOfYear) := locate yearLengthFrom1970 days
  let (month, day) := locate (monthLength (1970 + years)) dayOfYear
  ⟨1970 + years, month + 1, day + 1⟩

section Dates

variable {days days' : ℕ}

theorem monthLength_pos (year k : ℕ) : 0 < monthLength year k := by
  unfold monthLength
  split
  · split <;> decide
  all_goals decide

theorem monthLength_le (year k : ℕ) : monthLength year k ≤ 31 := by
  unfold monthLength
  split
  · split <;> decide
  all_goals decide

theorem yearLengthFrom1970_pos (k : ℕ) : 0 < yearLengthFrom1970 k :=
  (monthLength_pos _ _).trans_le (Nat.le_add_left _ _)

theorem Date.month_le (days : ℕ) : (ofDays days).month ≤ 12 := by
  have hlt := locate_lt_of_lt_offset (monthLength_pos (1970 + (locate yearLengthFrom1970 days).1))
    (locate_lt_len yearLengthFrom1970_pos days)
  simp only [ofDays]
  omega

theorem Date.day_le (days : ℕ) : (ofDays days).day ≤ 31 := by
  have hlt := locate_lt_len (monthLength_pos (1970 + (locate yearLengthFrom1970 days).1))
    (locate yearLengthFrom1970 days).2
  have hle := monthLength_le (1970 + (locate yearLengthFrom1970 days).1)
    (locate (monthLength (1970 + (locate yearLengthFrom1970 days).1))
      (locate yearLengthFrom1970 days).2).1
  simp only [ofDays]
  omega

/-- The year of a day before the end of the `k`-th year. -/
theorem Date.year_lt {k : ℕ} (h : days < offset yearLengthFrom1970 k) :
    (ofDays days).year < 1970 + k := by
  have hlt := locate_lt_of_lt_offset yearLengthFrom1970_pos h
  simp only [ofDays]
  omega

/-- A later day has a later date. -/
theorem Date.ofDays_lt (h : days < days') :
    (ofDays days).year < (ofDays days').year ∨ (ofDays days).year = (ofDays days').year ∧
      ((ofDays days).month < (ofDays days').month ∨ (ofDays days).month = (ofDays days').month ∧
        (ofDays days).day < (ofDays days').day) := by
  simp only [ofDays]
  rcases locate_lt yearLengthFrom1970_pos h with hyear | ⟨hyear, hday⟩
  · exact .inl (by omega)
  · have hlater := locate_lt (monthLength_pos (1970 + (locate yearLengthFrom1970 days').1)) hday
    rw [hyear]
    refine .inr ⟨rfl, ?_⟩
    omega

end Dates

/-- A leap day. -/
example : Date.ofDays 19782 = ⟨2024, 2, 29⟩ := by decide

end Calendar
