import CppSim.Common.PlainLines
import CppSim.Library.Calendar
import CppSim.Library.FixedWidth

/-!
# Timestamps of the log

`get_timestamp` prints the time of the system clock in UTC, to the millisecond.  The clock counts
nanoseconds from 1970 on in 64 bits.  Its text has a fixed layout, so `strftime` never fails, and
the order of the texts is the order of the times (`timestamps_sort`).
-/

namespace CppSim.Server

open Calendar FixedWidth

/-- The fields of `"%Y-%m-%d %H:%M:%S"` and of the milliseconds after it. -/
def timestampLayout : List (ℕ × Text) :=
  [(4, text "-"), (2, text "-"), (2, text " "), (2, text ":"), (2, text ":"), (2, text "."), (3, [])]

/-- `gmtime_r`, and the milliseconds. -/
def timestampFields (now : ℕ) : List ℕ :=
  let nowTime := now / 1000000000
  let ms := now / 1000000 % 1000
  let date := Date.ofDays (nowTime / 86400)
  [date.year, date.month, date.day, nowTime / 3600 % 24, nowTime / 60 % 60, nowTime % 60, ms]

/-- `get_timestamp`, at `now` nanoseconds of the system clock. -/
def getTimestamp (now : ℕ) : Text := render timestampLayout (timestampFields now)

example : getTimestamp 1709210096789000000 = text "2024-02-29 12:34:56.789" := by decide +kernel

/-! ## Plain text -/

theorem isPlain_decimal (w n : ℕ) : IsPlain (decimal w n) := by
  intro c hc
  obtain ⟨hle, hlt⟩ := mem_decimal hc
  rw [← UInt8.ofNat_toNat (x := c), isControl_ofNat (UInt8.toNat_lt c)]
  omega

theorem isPlain_render {layout : List (ℕ × Text)} (h : ∀ field ∈ layout, IsPlain field.2)
    (vs : List ℕ) : IsPlain (render layout vs) := by
  induction layout generalizing vs with
  | nil => exact isPlain_nil
  | cons field layout ih =>
      cases vs with
      | nil => exact isPlain_nil
      | cons v vs =>
          have hrest := ih (fun field hfield => h field (List.mem_cons_of_mem _ hfield)) vs
          exact (isPlain_decimal _ _).append ((h field List.mem_cons_self).append hrest)

/-- A timestamp stays on its line. -/
theorem isPlain_getTimestamp (now : ℕ) : IsPlain (getTimestamp now) :=
  isPlain_render (by decide +kernel) _

/-! ## The order of the texts -/

section Order

variable {a b now : ℕ}

theorem year_lt_of_lt (h : now < 2 ^ 63) : (Date.ofDays (now / 1000000000 / 86400)).year < 10000 := by
  have hdays : now / 1000000000 / 86400 < offset yearLengthFrom1970 293 := by
    have hend : offset yearLengthFrom1970 293 = 107016 := by decide +kernel
    omega
  exact (Date.year_lt hdays).trans (by decide)

theorem fits_timestampFields (h : now < 2 ^ 63) : Fits timestampLayout (timestampFields now) := by
  have hyear := year_lt_of_lt h
  have hmonth := Date.month_le (now / 1000000000 / 86400)
  have hday := Date.day_le (now / 1000000000 / 86400)
  simp only [timestampLayout, timestampFields, Fits, and_true]
  omega

/-- The buffer of 32 bytes is large enough. -/
theorem length_getTimestamp (h : now < 2 ^ 63) : (getTimestamp now).length = 23 :=
  length_render (fits_timestampFields h)

/-- A later millisecond has later fields. -/
theorem timestampFields_lt (h : a / 1000000 < b / 1000000) :
    timestampFields a < timestampFields b := by
  simp only [timestampFields, List.cons_lt_cons_iff]
  rcases Nat.lt_or_ge (a / 1000000000 / 86400) (b / 1000000000 / 86400) with hday | hge
  · rcases Date.ofDays_lt hday with hyear | ⟨hyear, hmonth | ⟨hmonth, hlater⟩⟩
    · exact .inl hyear
    · exact .inr ⟨hyear, .inl hmonth⟩
    · exact .inr ⟨hyear, .inr ⟨hmonth, .inl hlater⟩⟩
  · have hsame : a / 1000000000 / 86400 = b / 1000000000 / 86400 := by omega
    rw [hsame]
    refine .inr ⟨rfl, .inr ⟨rfl, .inr ⟨rfl, ?_⟩⟩⟩
    omega

/-- The fields show the millisecond and nothing else. -/
theorem getTimestamp_congr (h : a / 1000000 = b / 1000000) : getTimestamp a = getTimestamp b := by
  have hseconds : a / 1000000000 = b / 1000000000 := by omega
  rw [getTimestamp, getTimestamp, timestampFields, timestampFields, hseconds, h]

/-- **Timestamps sort.**  For all times that the system clock can show, the timestamps are as
long as each other, and one comes before the other byte by byte exactly if its millisecond is
earlier. -/
theorem timestamps_sort (ha : a < 2 ^ 63) (hb : b < 2 ^ 63) :
    (getTimestamp a).length = (getTimestamp b).length ∧
      (getTimestamp a < getTimestamp b ↔ a / 1000000 < b / 1000000) ∧
      (getTimestamp a = getTimestamp b ↔ a / 1000000 = b / 1000000) := by
  have hlt : ∀ {a b : ℕ}, a < 2 ^ 63 → b < 2 ^ 63 → a / 1000000 < b / 1000000 →
      getTimestamp a < getTimestamp b := fun ha hb h =>
    render_lt (fits_timestampFields ha) (fits_timestampFields hb) (timestampFields_lt h)
  refine ⟨by rw [length_getTimestamp ha, length_getTimestamp hb], ?_, ?_⟩
  · refine ⟨fun h => ?_, hlt ha hb⟩
    by_contra hnot
    rcases Nat.lt_or_ge (b / 1000000) (a / 1000000) with hgt | hle
    · exact List.lt_irrefl _ (List.lt_trans h (hlt hb ha hgt))
    · rw [getTimestamp_congr (show a / 1000000 = b / 1000000 by omega)] at h
      exact List.lt_irrefl _ h
  · refine ⟨fun h => ?_, getTimestamp_congr⟩
    rcases Nat.lt_trichotomy (a / 1000000) (b / 1000000) with hless | hsame | hgt
    · exact absurd (h ▸ hlt ha hb hless) (List.lt_irrefl _)
    · exact hsame
    · exact absurd (h ▸ hlt hb ha hgt) (List.lt_irrefl _)

/-- The last millisecond of a year comes before the first of the next one. -/
theorem timestamps_sort_newYear :
    getTimestamp 1735689599999000000 < getTimestamp 1735689600000000000 :=
  (timestamps_sort (by decide) (by decide)).2.1.mpr (by decide)

end Order

end CppSim.Server
