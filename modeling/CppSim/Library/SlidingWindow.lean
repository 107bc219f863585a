import Mathlib.Algebra.Order.Group.Defs
import Mathlib.Data.List.Induction
import Mathlib.Tactic.Abel
import Mathlib.Tactic.Linarith

/-!
# A sliding-window limiter

A limiter of width `W` and limit `N` keeps the times it admitted within the last `W`
and admits an arrival when it keeps fewer than `N` of them.  Arrivals come in
nondecreasing order.

`recent_kept` is the invariant: within the window of a later arrival, what the
limiter keeps is exactly what it admitted, so forgetting an expired time loses
nothing that a later decision could need.  It follows that an arrival is admitted
exactly when fewer than `N` admitted times lie in its window.
-/

namespace SlidingWindow

variable {Time : Type*} [AddCommGroup Time] [LinearOrder Time] [IsOrderedAddMonoid Time]

/-- The times no older than `width` at time `now`. -/
def recent (width now : Time) (times : List Time) : List Time :=
  times.filter fun t => now - width ≤ t

/-- What the limiter keeps and whether it admits an arrival at `now`. -/
def arrive (width : Time) (limit : ℕ) (kept : List Time) (now : Time) : List Time × Bool :=
  if limit ≤ (recent width now kept).length then (recent width now kept, false)
  else (recent width now kept ++ [now], true)

/-- The times kept and the times admitted after a list of arrivals. -/
def scan (width : Time) (limit : ℕ) (arrivals : List Time) : List Time × List Time :=
  arrivals.foldl (fun s now =>
    ((arrive width limit s.1 now).1, if (arrive width limit s.1 now).2 then s.2 ++ [now] else s.2))
    ([], [])

/-- The times kept after a list of arrivals. -/
def kept (width : Time) (limit : ℕ) (arrivals : List Time) : List Time :=
  (scan width limit arrivals).1

/-- The times admitted of a list of arrivals. -/
def admitted (width : Time) (limit : ℕ) (arrivals : List Time) : List Time :=
  (scan width limit arrivals).2

/-- Whether the limiter admits an arrival at `now` after `before`. -/
def Admits (width : Time) (limit : ℕ) (before : List Time) (now : Time) : Prop :=
  (arrive width limit (kept width limit before) now).2 = true

variable {width : Time} {limit : ℕ} {before : List Time} {now later : Time}

omit [IsOrderedAddMonoid Time] in
theorem mem_recent {times : List Time} {t : Time} :
    t ∈ recent width now times ↔ t ∈ times ∧ now - width ≤ t := by
  simp [recent]

/-- Times forgotten in an earlier window are outside every later one. -/
theorem recent_recent (h : now ≤ later) (times : List Time) :
    recent width later (recent width now times) = recent width later times := by
  simp only [recent, List.filter_filter]
  apply List.filter_congr
  intro t _
  have hmono : later - width ≤ t → now - width ≤ t := (sub_le_sub_right h width).trans
  by_cases ht : later - width ≤ t
  · simp [ht, hmono ht]
  · simp [ht]

omit [IsOrderedAddMonoid Time] in
theorem kept_snoc : kept width limit (before ++ [now]) =
    (arrive width limit (kept width limit before) now).1 := by
  simp [kept, scan]

omit [IsOrderedAddMonoid Time] in
theorem admitted_snoc_of_admits (h : Admits width limit before now) :
    admitted width limit (before ++ [now]) = admitted width limit before ++ [now] := by
  unfold Admits kept at h
  simp [admitted, scan, List.foldl_append] at h ⊢
  simp [h]

omit [IsOrderedAddMonoid Time] in
theorem admitted_snoc_of_not_admits (h : ¬ Admits width limit before now) :
    admitted width limit (before ++ [now]) = admitted width limit before := by
  unfold Admits kept at h
  simp [admitted, scan, List.foldl_append] at h ⊢
  simp [h]

omit [IsOrderedAddMonoid Time] in
theorem admits_iff_length_lt :
    Admits width limit before now ↔
      (recent width now (kept width limit before)).length < limit := by
  unfold Admits arrive
  split <;> simp <;> omega

/-- The invariant: seen from a later time, the limiter keeps the admitted times. -/
theorem recent_kept (hsorted : (before ++ [later]).Pairwise (· ≤ ·)) :
    recent width later (kept width limit before) =
      recent width later (admitted width limit before) := by
  induction before using List.reverseRecOn generalizing later with
  | nil => rfl
  | append_singleton before now ih =>
      have hle : now ≤ later := by
        have := List.pairwise_append.mp hsorted
        exact this.2.2 now (by simp) later (by simp)
      have hinit : (before ++ [now]).Pairwise (· ≤ ·) := (List.pairwise_append.mp hsorted).1
      have hih := ih hinit
      rw [kept_snoc, arrive]
      by_cases hadmit : Admits width limit before now
      · rw [admitted_snoc_of_admits hadmit]
        rw [admits_iff_length_lt] at hadmit
        rw [if_neg (by omega), hih]
        simp only [recent, List.filter_append]
        rw [← recent, ← recent, recent_recent hle, recent]
      · rw [admitted_snoc_of_not_admits hadmit]
        rw [admits_iff_length_lt] at hadmit
        rw [if_pos (by omega), hih, recent_recent hle]

/-- An arrival is admitted exactly when fewer than `limit` admitted times lie in its
window. -/
theorem admits_iff (hsorted : (before ++ [now]).Pairwise (· ≤ ·)) :
    Admits width limit before now ↔
      (recent width now (admitted width limit before)).length < limit := by
  rw [admits_iff_length_lt, recent_kept hsorted]

omit [IsOrderedAddMonoid Time] in
/-- When every arrival is admitted, the admitted times are the arrivals. -/
theorem admitted_eq_self
    (h : ∀ pre t post, before = pre ++ t :: post → Admits width limit pre t) :
    admitted width limit before = before := by
  induction before using List.reverseRecOn with
  | nil => rfl
  | append_singleton before now ih =>
      rw [admitted_snoc_of_admits (h before now [] (by simp))]
      rw [ih fun pre t post hsplit => h pre t (post ++ [now]) (by simp [hsplit])]

/-- When every arrival is admitted, no window holds more than `limit` arrivals. -/
theorem length_recent_le (hsorted : (before ++ [now]).Pairwise (· ≤ ·))
    (h : ∀ pre t post, before ++ [now] = pre ++ t :: post → Admits width limit pre t) :
    (recent width now (before ++ [now])).length ≤ limit := by
  have hadmit := (admits_iff hsorted).mp (h before now [] (by simp))
  rw [admitted_eq_self fun pre t post hsplit => h pre t (post ++ [now]) (by simp [hsplit])]
    at hadmit
  simp only [recent, List.filter_append, List.length_append] at hadmit ⊢
  have hone : ([now].filter fun t => now - width ≤ t).length ≤ 1 :=
    (List.length_filter_le _ _).trans (by simp)
  omega

/-! ## What a window holds -/

omit [IsOrderedAddMonoid Time] in
/-- The limiter never keeps more than `limit` times. -/
theorem length_kept_le : (kept width limit before).length ≤ limit := by
  induction before using List.reverseRecOn with
  | nil => exact Nat.zero_le _
  | append_singleton before now ih =>
      have hrecent : (recent width now (kept width limit before)).length ≤ limit :=
        (List.length_filter_le _ _).trans ih
      rw [kept_snoc, arrive]
      split
      · exact hrecent
      · rename_i hroom
        rw [List.length_append, List.length_singleton]
        omega

/-- No closed interval as long as the window holds more than `limit` admitted times. -/
theorem countP_admitted_le (hsorted : before.Pairwise (· ≤ ·)) (start : Time) :
    (admitted width limit before).countP (fun t => start ≤ t ∧ t ≤ start + width) ≤ limit := by
  induction before using List.reverseRecOn with
  | nil => exact Nat.zero_le _
  | append_singleton before now ih =>
      have hbefore := ih (List.pairwise_append.mp hsorted).1
      by_cases hadmit : Admits width limit before now
      · rw [admitted_snoc_of_admits hadmit, List.countP_append]
        by_cases hin : start ≤ now ∧ now ≤ start + width
        · -- what the interval holds before the arrival is in the window of the arrival
          have hwindow : (admitted width limit before).countP
              (fun t => start ≤ t ∧ t ≤ start + width) ≤
                (recent width now (admitted width limit before)).length := by
            rw [recent, ← List.countP_eq_length_filter]
            apply List.countP_mono_left
            intro t _ ht
            simp only [decide_eq_true_eq] at ht ⊢
            exact (sub_le_iff_le_add.mpr hin.2).trans ht.1
          have hroom := (admits_iff hsorted).mp hadmit
          have hone : [now].countP (fun t => start ≤ t ∧ t ≤ start + width) ≤ 1 :=
            List.countP_le_length
          omega
        · have hnone : [now].countP (fun t => start ≤ t ∧ t ≤ start + width) = 0 := by
            simpa [List.countP_eq_zero] using hin
          omega
      · rw [admitted_snoc_of_not_admits hadmit]
        exact hbefore

/-! ## Counting from the start of a window -/

omit [IsOrderedAddMonoid Time] in
/-- An arrival that is admitted finds its window below the limit. -/
theorem length_arrive_le {times : List Time} (h : (arrive width limit times now).2 = true) :
    (arrive width limit times now).1.length ≤ limit := by
  unfold arrive at h ⊢
  split at h
  · cases h
  · rename_i hroom
    rw [if_neg hroom, List.length_append, List.length_singleton]
    omega

/-- Up to the end of a window the limiter forgets nothing that arrived in it. -/
theorem countP_recent {start : Time} (h : now ≤ start + width) (times : List Time) :
    (recent width now times).countP (fun t => start ≤ t) = times.countP (fun t => start ≤ t) := by
  rw [recent, List.countP_filter]
  apply List.countP_congr
  intro t _
  have hold : now - width ≤ start := sub_le_iff_le_add.mpr h
  have hkeep : start ≤ t → now - width ≤ t := hold.trans
  simpa using hkeep

/-- Up to the end of a window every admitted arrival counts. -/
theorem countP_arrive (limit : ℕ) {start : Time} (times : List Time) (hstart : start ≤ now)
    (h : now ≤ start + width) :
    (arrive width limit times now).1.countP (fun t => start ≤ t) =
      times.countP (fun t => start ≤ t) + (arrive width limit times now).2.toNat := by
  unfold arrive
  split
  · simp [countP_recent h]
  · simp [countP_recent h, hstart]

/-! ## Arrivals that keep to a limit -/

theorem length_recent_le_of_le {width' : Time} (h : width ≤ width') (times : List Time) :
    (recent width now times).length ≤ (recent width' now times).length := by
  rw [recent, recent, ← List.countP_eq_length_filter, ← List.countP_eq_length_filter]
  apply List.countP_mono_left
  intro t _ ht
  rw [decide_eq_true_eq] at ht ⊢
  exact (sub_le_sub_left h now).trans ht

/-- No closed interval as long as the window holds more than `limit` arrivals. -/
def Moderate (width : Time) (limit : ℕ) (arrivals : List Time) : Prop :=
  ∀ start, arrivals.countP (fun t => start ≤ t ∧ t ≤ start + width) ≤ limit

omit [IsOrderedAddMonoid Time] in
theorem Moderate.of_append {after : List Time} (h : Moderate width limit (before ++ after)) :
    Moderate width limit before := by
  intro start
  have hstart := h start
  rw [List.countP_append] at hstart
  omega

/-- Whatever is kept of the arrivals before, one that keeps to the limit finds its window below
it. -/
theorem Moderate.length_recent_lt {times : List Time} (h : Moderate width limit (before ++ [now]))
    (hwidth : 0 ≤ width) (hpast : ∀ t ∈ before, t ≤ now) (hkept : times.Sublist before) :
    (recent width now times).length < limit := by
  have hbefore : (recent width now times).length ≤
      before.countP (fun t => now - width ≤ t ∧ t ≤ now - width + width) := by
    rw [recent, ← List.countP_eq_length_filter]
    refine hkept.countP_le.trans (List.countP_mono_left fun t ht hrecent => ?_)
    rw [decide_eq_true_eq] at hrecent ⊢
    exact ⟨hrecent, (hpast t ht).trans_eq (sub_add_cancel now width).symm⟩
  have hself : now - width ≤ now ∧ now ≤ now - width + width :=
    ⟨sub_le_self now hwidth, (sub_add_cancel now width).ge⟩
  have hall := h (now - width)
  rw [List.countP_append, List.countP_cons_of_pos (by simpa using hself)] at hall
  omega

end SlidingWindow
