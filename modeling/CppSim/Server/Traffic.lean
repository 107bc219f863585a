import CppSim.Library.SlidingWindow
import Mathlib.Algebra.Order.Ring.Int
import Mathlib.Data.List.Basic

/-!
# Traffic checks of a session

Every message a session reads passes two checks.  The rate limiter keeps the times of
the messages it admitted within its window and refuses a message when the window is
full.  The burst detector keeps the time of the previous message and the number of
messages so far.

The limiter is the sliding-window limiter (`checkRateLimit_eq_arrive`).  The detector
is documented to look for more than a hundred messages within a second, but it
compares the number of all messages so far with a hundred, and looks at the distance
to the previous message only.  `flagsBurstsOnly_iff` says for which arrivals the two
agree.
-/

namespace CppSim.Server

/-- The nanoseconds of a number of seconds, in which the steady clock counts. -/
def seconds (n : ℤ) : ℤ := n * 1000000000

/-! ## The rate limiter -/

/-- The critical section of `check_rate_limit_or_close`: the timestamps kept, and
whether the session is to be closed. -/
def checkRateLimit (window : ℤ) (maxMessages : ℕ) (now : ℤ) (messageTimestamps : List ℤ) :
    List ℤ × Bool :=
  let windowStart := now - window
  let kept := messageTimestamps.filter fun timestamp => ¬ timestamp < windowStart
  if kept.length ≥ maxMessages then (kept, true) else (kept ++ [now], false)

theorem checkRateLimit_eq_arrive (window : ℤ) (maxMessages : ℕ) (now : ℤ)
    (messageTimestamps : List ℤ) :
    checkRateLimit window maxMessages now messageTimestamps =
      ((SlidingWindow.arrive window maxMessages messageTimestamps now).1,
        !(SlidingWindow.arrive window maxMessages messageTimestamps now).2) := by
  have hkept : (messageTimestamps.filter fun timestamp => ¬ timestamp < now - window) =
      SlidingWindow.recent window now messageTimestamps :=
    List.filter_congr fun timestamp _ => by simp
  unfold checkRateLimit SlidingWindow.arrive
  simp only [hkept, ge_iff_le]
  by_cases hfull : maxMessages ≤ (SlidingWindow.recent window now messageTimestamps).length
  · simp [hfull]
  · simp [hfull]

/-- The timestamps kept after a list of arrivals. -/
def timestampsAfter (window : ℤ) (maxMessages : ℕ) (arrivals : List ℤ) : List ℤ :=
  arrivals.foldl (fun kept now => (checkRateLimit window maxMessages now kept).1) []

/-- `check_rate_limit_or_close` lets the message at `now` pass after `before`. -/
def PassesRateLimit (window : ℤ) (maxMessages : ℕ) (before : List ℤ) (now : ℤ) : Prop :=
  (checkRateLimit window maxMessages now (timestampsAfter window maxMessages before)).2 = false

theorem timestampsAfter_eq_kept (window : ℤ) (maxMessages : ℕ) (arrivals : List ℤ) :
    timestampsAfter window maxMessages arrivals =
      SlidingWindow.kept window maxMessages arrivals := by
  induction arrivals using List.reverseRecOn with
  | nil => rfl
  | append_singleton before now ih =>
      rw [SlidingWindow.kept_snoc, ← ih]
      simp [timestampsAfter, checkRateLimit_eq_arrive]

theorem passesRateLimit_iff_admits {window : ℤ} {maxMessages : ℕ} {before : List ℤ} {now : ℤ} :
    PassesRateLimit window maxMessages before now ↔
      SlidingWindow.Admits window maxMessages before now := by
  rw [PassesRateLimit, SlidingWindow.Admits, checkRateLimit_eq_arrive, timestampsAfter_eq_kept]
  simp

/-! ## The burst detector -/

/-- What the burst detector keeps of a session. -/
structure Activity where
  lastActivity : ℤ
  messageCount : Int64
  deriving DecidableEq

/-- `check_suspicious_activity`. -/
def checkSuspiciousActivity (now : ℤ) (activity : Activity) : Activity × Bool :=
  let count := activity.messageCount + 1
  let elapsed := (now - activity.lastActivity).tdiv (seconds 1)
  (⟨now, count⟩, count > 100 && elapsed == 0)

/-- The detector's state after a list of arrivals on a session constructed at `birth`. -/
def activityAfter (birth : ℤ) (arrivals : List ℤ) : Activity :=
  arrivals.foldl (fun activity now => (checkSuspiciousActivity now activity).1) ⟨birth, 0⟩

/-- `check_suspicious_activity` returns true for the message at `now` after `before`. -/
def Flagged (birth : ℤ) (before : List ℤ) (now : ℤ) : Prop :=
  (checkSuspiciousActivity now (activityAfter birth before)).2 = true

instance (birth : ℤ) (before : List ℤ) (now : ℤ) : Decidable (Flagged birth before now) :=
  inferInstanceAs (Decidable (_ = true))

/-- More than a hundred messages, the one at `now` included, arrived less than a second
before `now`. -/
def Burst (before : List ℤ) (now : ℤ) : Prop :=
  100 < ((before ++ [now]).filter fun arrival => now - arrival < seconds 1).length

instance (before : List ℤ) (now : ℤ) : Decidable (Burst before now) :=
  inferInstanceAs (Decidable (_ < _))

theorem activityAfter_snoc (birth : ℤ) (before : List ℤ) (now : ℤ) :
    activityAfter birth (before ++ [now]) = ⟨now, Int64.ofNat (before.length + 1)⟩ := by
  induction before using List.reverseRecOn generalizing now with
  | nil => rfl
  | append_singleton before last ih =>
      have hstep : activityAfter birth (before ++ [last] ++ [now]) =
          (checkSuspiciousActivity now (activityAfter birth (before ++ [last]))).1 := by
        simp [activityAfter]
      rw [hstep, ih]
      simp [checkSuspiciousActivity]

/-- The detector counts all messages, in 64 bits, and looks at the distance to the last one. -/
theorem flagged_iff {birth last now : ℤ} {before : List ℤ} (hle : last ≤ now) :
    Flagged birth (before ++ [last]) now ↔
      100 < Int64.ofNat (before.length + 2) ∧ now - last < seconds 1 := by
  have hsmall : (now - last).tdiv (seconds 1) = 0 ↔ now - last < seconds 1 := by
    rw [Int.tdiv_eq_ediv_of_nonneg (by omega)]
    simp only [seconds]
    omega
  have hcount : Int64.ofNat (before.length + 1) + 1 = Int64.ofNat (before.length + 2) :=
    (Int64.ofNat_add (before.length + 1) 1).symm
  simp only [Flagged, activityAfter_snoc, checkSuspiciousActivity, Bool.and_eq_true,
    decide_eq_true_eq, beq_iff_eq, hsmall, hcount, gt_iff_lt]

/-- The first message is never flagged. -/
theorem not_flagged_nil (birth now : ℤ) : ¬ Flagged birth [] now := by
  simp [Flagged, activityAfter, checkSuspiciousActivity]

/-! ## Where the detector finds bursts only -/

/-- What the detector promises for the arrivals of a session: it flags a message only in
a burst, and so none of a session whose messages all pass a limiter that admits at most
a hundred messages in a window of at least a second. -/
def FlagsBurstsOnly (birth : ℤ) (arrivals : List ℤ) : Prop :=
  (∀ before now after, arrivals = before ++ now :: after →
    Flagged birth before now → Burst before now) ∧
  ∀ (window : ℤ) (maxMessages : ℕ), maxMessages ≤ 100 → seconds 1 ≤ window →
    (∀ before now after, arrivals = before ++ now :: after →
      PassesRateLimit window maxMessages before now) →
    ∀ before now after, arrivals = before ++ now :: after → ¬ Flagged birth before now

/-- A message that the counter numbers above a hundred comes a second or more after its
predecessor if it is outside a burst.  The counter has 64 bits; these are the messages from the
101st on until it overflows. -/
def SpacedOutsideBursts (arrivals : List ℤ) : Prop :=
  ∀ before last now after, arrivals = before ++ last :: now :: after →
    100 < Int64.ofNat (before.length + 2) → ¬ Burst (before ++ [last]) now →
      last + seconds 1 ≤ now

/-- A limiter that admits at most a hundred messages in a second lets no burst pass. -/
theorem not_burst_of_passes {window : ℤ} {maxMessages : ℕ} {before : List ℤ} {now : ℤ}
    (hmax : maxMessages ≤ 100) (hwindow : seconds 1 ≤ window)
    (hsorted : (before ++ [now]).Pairwise (· ≤ ·))
    (hpass : ∀ pre t post, before ++ [now] = pre ++ t :: post →
      PassesRateLimit window maxMessages pre t) : ¬ Burst before now := by
  have hlimit := SlidingWindow.length_recent_le hsorted
    fun pre t post hsplit => passesRateLimit_iff_admits.mp (hpass pre t post hsplit)
  have hsub : ((before ++ [now]).filter fun arrival => now - arrival < seconds 1).length ≤
      (SlidingWindow.recent window now (before ++ [now])).length := by
    refine (List.monotone_filter_right _ ?_).length_le
    intro arrival hnear
    simp only [decide_eq_true_eq] at hnear ⊢
    omega
  unfold Burst
  omega

/-- The detector flags bursts only exactly when the messages outside bursts are spaced. -/
theorem flagsBurstsOnly_iff {birth : ℤ} {arrivals : List ℤ}
    (hsorted : arrivals.Pairwise (· ≤ ·)) :
    FlagsBurstsOnly birth arrivals ↔ SpacedOutsideBursts arrivals := by
  constructor
  · rintro ⟨hbursts, _⟩ before last now after hsplit hlength hnot
    have hle : last ≤ now := by
      rw [hsplit, List.pairwise_append, List.pairwise_cons] at hsorted
      exact hsorted.2.1.1 now (by simp)
    by_contra hclose
    refine hnot (hbursts (before ++ [last]) now after (by simp [hsplit]) ?_)
    exact (flagged_iff hle).mpr ⟨hlength, by omega⟩
  · intro hspaced
    have hbursts : ∀ before now after, arrivals = before ++ now :: after →
        Flagged birth before now → Burst before now := by
      intro before now after hsplit hflag
      rcases before.eq_nil_or_concat' with rfl | ⟨before, last, rfl⟩
      · exact absurd hflag (not_flagged_nil birth now)
      · have hsplit' : arrivals = before ++ last :: now :: after := by simpa using hsplit
        have hle : last ≤ now := by
          rw [hsplit', List.pairwise_append, List.pairwise_cons] at hsorted
          exact hsorted.2.1.1 now (by simp)
        obtain ⟨hlength, hclose⟩ := (flagged_iff hle).mp hflag
        by_contra hnot
        have := hspaced before last now after hsplit' hlength hnot
        omega
    refine ⟨hbursts, ?_⟩
    intro window maxMessages hmax hwindow hpass before now after hsplit hflag
    refine not_burst_of_passes hmax hwindow ?_ ?_ (hbursts before now after hsplit hflag)
    · rw [hsplit, ← List.singleton_append, ← List.append_assoc] at hsorted
      exact (List.pairwise_append.mp hsorted).1
    · intro pre t post hpre
      refine hpass pre t (post ++ after) ?_
      rw [hsplit, ← List.singleton_append, ← List.append_assoc, hpre]
      simp

/-- A hundred and one messages, two a second, which the default limiter admits. -/
def halfSecondArrivals : List ℤ := (List.range 101).map fun i : ℕ => 500000000 * (i : ℤ)

theorem flagsBurstsOnly_iff_halfSecondArrivals :
    FlagsBurstsOnly 0 halfSecondArrivals ↔ SpacedOutsideBursts halfSecondArrivals :=
  flagsBurstsOnly_iff (by decide +kernel)

/-- The last of these messages is flagged, although two messages arrived within a second. -/
theorem not_flagsBurstsOnly :
    ¬ ∀ (birth : ℤ) (arrivals : List ℤ), arrivals.Pairwise (· ≤ ·) →
      FlagsBurstsOnly birth arrivals := by
  intro hall
  have hbursts := (hall 0 halfSecondArrivals (by decide +kernel)).1
  have hburst := hbursts (halfSecondArrivals.take 100) 50000000000 [] (by decide +kernel)
    (by decide +kernel)
  exact absurd hburst (by decide +kernel)

end CppSim.Server
