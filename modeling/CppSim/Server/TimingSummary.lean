import CppSim.Library.Interpolation
import CppSim.Server.MetricsHistory

/-!
# The summary of a timing

The minimum and the maximum of a timing are taken over all its recordings, the percentiles
over the samples that are left.  Every sample lies between the two (`TimingData.Covers`), and
a percentile lies between the first and the last of the sorted samples: it is a value of the
sequence of the samples, interpolated at an index between the first and the last.
-/

namespace CppSim.Server

/-! ## Percentiles -/

/-- The index of a percentile. -/
def percentileIndex (sortedSamples : List Int64) (percentile : ℕ) : ℚ :=
  percentile / 100 * (sortedSamples.length - 1 : ℕ)

/-- The sample at an index. -/
def sampleAt (sortedSamples : List Int64) (i : ℕ) : ℚ := (sortedSamples[i]?.getD 0).toInt

section Percentiles

variable {sortedSamples : List Int64} {percentile p q : ℕ}

theorem calculatePercentile_eq (h : sortedSamples ≠ []) :
    calculatePercentile sortedSamples percentile =
      Interpolation.interpolate (sampleAt sortedSamples)
        (percentileIndex sortedSamples percentile) := by
  unfold calculatePercentile
  rw [if_neg h]
  by_cases hindex : ⌊percentileIndex sortedSamples percentile⌋₊ =
      ⌈percentileIndex sortedSamples percentile⌉₊
  · rw [Interpolation.interpolate_of_floor_eq_ceil hindex]
    exact if_pos hindex
  · exact if_neg hindex

theorem percentileIndex_nonneg : 0 ≤ percentileIndex sortedSamples percentile := by
  unfold percentileIndex
  positivity

theorem percentileIndex_mono (hpq : p ≤ q) :
    percentileIndex sortedSamples p ≤ percentileIndex sortedSamples q := by
  unfold percentileIndex
  gcongr

theorem percentileIndex_le (sortedSamples : List Int64) (hp : percentile ≤ 100) :
    percentileIndex sortedSamples percentile ≤ (sortedSamples.length - 1 : ℕ) := by
  have hle : (percentile : ℚ) / 100 ≤ 1 := by
    rw [div_le_one (by norm_num)]
    exact_mod_cast hp
  unfold percentileIndex
  exact mul_le_of_le_one_left (Nat.cast_nonneg _) hle

/-- The samples are read within their bounds. -/
theorem ceil_percentileIndex_lt (h : sortedSamples ≠ []) (hp : percentile ≤ 100) :
    ⌈percentileIndex sortedSamples percentile⌉₊ < sortedSamples.length := by
  have hceil := Nat.ceil_le.mpr (percentileIndex_le sortedSamples hp)
  have hpos := List.length_pos_of_ne_nil h
  omega

theorem sampleAt_monotoneOn (hsorted : sortedSamples.Pairwise (· ≤ ·)) :
    MonotoneOn (sampleAt sortedSamples) (Set.Iic (sortedSamples.length - 1)) := by
  intro i hi j hj hij
  rcases hij.eq_or_lt with rfl | hlt
  · exact le_rfl
  · rw [Set.mem_Iic] at hj
    have hj' : j < sortedSamples.length := by omega
    have hle := List.pairwise_iff_getElem.mp hsorted i j (hlt.trans hj') hj' hlt
    unfold sampleAt
    rw [List.getElem?_eq_getElem (hlt.trans hj'), List.getElem?_eq_getElem hj', Option.getD_some,
      Option.getD_some]
    exact_mod_cast Int64.le_iff_toInt_le.mp hle

theorem sampleAt_zero (h : sortedSamples ≠ []) :
    sampleAt sortedSamples 0 = (sortedSamples.head h).toInt := by
  rw [sampleAt, ← List.head?_eq_getElem?, List.head?_eq_some_head h, Option.getD_some]

theorem sampleAt_last (h : sortedSamples ≠ []) :
    sampleAt sortedSamples (sortedSamples.length - 1) = (sortedSamples.getLast h).toInt := by
  rw [sampleAt, ← List.getLast?_eq_getElem?, List.getLast?_eq_some_getLast h, Option.getD_some]

theorem calculatePercentile_mono (h : sortedSamples ≠ [])
    (hsorted : sortedSamples.Pairwise (· ≤ ·)) (hpq : p ≤ q) (hq : q ≤ 100) :
    calculatePercentile sortedSamples p ≤ calculatePercentile sortedSamples q := by
  rw [calculatePercentile_eq h, calculatePercentile_eq h]
  exact Interpolation.interpolate_mono (sampleAt_monotoneOn hsorted) percentileIndex_nonneg
    (percentileIndex_mono hpq) (percentileIndex_le _ hq)

theorem head_le_calculatePercentile (h : sortedSamples ≠ [])
    (hsorted : sortedSamples.Pairwise (· ≤ ·)) (hp : percentile ≤ 100) :
    ((sortedSamples.head h).toInt : ℚ) ≤ calculatePercentile sortedSamples percentile := by
  have hmono := sampleAt_monotoneOn hsorted
  have hfloor : ⌊percentileIndex sortedSamples percentile⌋₊ ≤ sortedSamples.length - 1 :=
    (Nat.floor_le_ceil _).trans (Nat.ceil_le.mpr (percentileIndex_le _ hp))
  rw [calculatePercentile_eq h, ← sampleAt_zero h]
  calc sampleAt sortedSamples 0
      ≤ sampleAt sortedSamples ⌊percentileIndex sortedSamples percentile⌋₊ :=
        hmono (Nat.zero_le _) hfloor (Nat.zero_le _)
    _ ≤ _ := Interpolation.floor_le_interpolate hmono percentileIndex_nonneg
        (percentileIndex_le _ hp)

theorem calculatePercentile_le_getLast (h : sortedSamples ≠ [])
    (hsorted : sortedSamples.Pairwise (· ≤ ·)) (hp : percentile ≤ 100) :
    calculatePercentile sortedSamples percentile ≤ ((sortedSamples.getLast h).toInt : ℚ) := by
  have hmono := sampleAt_monotoneOn hsorted
  have hceil : ⌈percentileIndex sortedSamples percentile⌉₊ ≤ sortedSamples.length - 1 :=
    Nat.ceil_le.mpr (percentileIndex_le _ hp)
  rw [calculatePercentile_eq h, ← sampleAt_last h]
  calc Interpolation.interpolate (sampleAt sortedSamples)
        (percentileIndex sortedSamples percentile)
      ≤ sampleAt sortedSamples ⌈percentileIndex sortedSamples percentile⌉₊ :=
        Interpolation.interpolate_le_ceil hmono (percentileIndex_le _ hp)
    _ ≤ sampleAt sortedSamples (sortedSamples.length - 1) := hmono hceil Set.self_mem_Iic hceil

end Percentiles

/-! ## Minimum and maximum -/

/-- The minimum and the maximum are those of all samples that are kept, at least. -/
def TimingData.Covers (data : TimingData) : Prop :=
  ∀ sample ∈ data.samples, data.min ≤ sample ∧ sample ≤ data.max

theorem TimingData.Covers.record {data : TimingData} (h : data.Covers) (duration : Int64) :
    (data.record duration).Covers := by
  intro sample hsample
  have hmem : sample ∈ data.samples ∨ sample = duration := by
    rcases List.mem_append.mp hsample with hkept | hnew
    · split at hkept
      · exact Or.inl (List.mem_of_mem_tail hkept)
      · exact Or.inl hkept
    · exact Or.inr (List.mem_singleton.mp hnew)
  simp only [TimingData.record, Int64.le_iff_toInt_le, Int64.lt_iff_toInt_lt]
  rcases hmem with hkept | rfl
  · have hcovers := h sample hkept
    rw [Int64.le_iff_toInt_le, Int64.le_iff_toInt_le] at hcovers
    constructor <;> split <;> omega
  · constructor <;> split <;> omega

/-- Every timing of the collector covers its samples. -/
def TimingsCovered (m : MetricsCollector) : Prop :=
  ∀ name data, m.timings.lookup name = some data → data.Covers

theorem TimingsCovered.record {m : MetricsCollector} (h : TimingsCovered m) (r : Recording) :
    TimingsCovered (m.record r) := by
  cases r with
  | timing name duration =>
      intro other data hdata
      rw [MetricsCollector.record, MetricsCollector.recordTiming] at hdata
      by_cases hname : other = name
      · subst hname
        rw [AList.lookup_insert] at hdata
        cases hdata
        cases hbefore : m.timings.lookup other with
        | none => exact TimingData.Covers.record (by simp [TimingData.Covers, TimingData.initial]) _
        | some before => exact (h other before hbefore).record duration
      · rw [AList.lookup_insert_ne hname] at hdata
        exact h other data hdata
  | counter | gauge | event | error => exact h

theorem timingsCovered_recorded (m : MetricsCollector) (now : ℤ) (rs : List Recording) :
    TimingsCovered ((m.reset now).recorded rs) := by
  induction rs using List.reverseRecOn with
  | nil =>
      intro name data hdata
      cases hdata
  | append_singleton rs r ih =>
      rw [MetricsCollector.recorded_snoc]
      exact ih.record r

/-! ## The exported summary -/

/-- The minimum, the percentiles and the maximum of an exported timing, in this order. -/
structure HasSummary (timing : Json) (min max : Int64) (p50 p95 p99 : ℚ) : Prop where
  min : timing.field? (text "min_ms") = some (.integer min)
  p50 : timing.field? (text "p50_ms") = some (.float (.finite p50))
  p95 : timing.field? (text "p95_ms") = some (.float (.finite p95))
  p99 : timing.field? (text "p99_ms") = some (.float (.finite p99))
  max : timing.field? (text "max_ms") = some (.integer max)

/-- The samples in the order in which they are exported. -/
def TimingData.sortedSamples (data : TimingData) : List Int64 :=
  data.samples.mergeSort fun a b => decide (a ≤ b)

section Export

variable {data : TimingData}

theorem mem_sortedSamples {sample : Int64} :
    sample ∈ data.sortedSamples ↔ sample ∈ data.samples :=
  List.mem_mergeSort

theorem sortedSamples_ne_nil (h : data.samples ≠ []) : data.sortedSamples ≠ [] := by
  intro hnil
  obtain ⟨sample, hsample⟩ := List.exists_mem_of_ne_nil _ h
  rw [← mem_sortedSamples, hnil] at hsample
  cases hsample

theorem pairwise_sortedSamples : data.sortedSamples.Pairwise (· ≤ ·) := by
  have hsorted : data.sortedSamples.Pairwise fun a b => decide (a ≤ b) = true := by
    refine List.pairwise_mergeSort (fun a b c hab hbc => ?_) (fun a b => ?_) data.samples
    · rw [decide_eq_true_eq] at hab hbc ⊢
      exact Int64.le_trans hab hbc
    · simpa using Int64.le_total a b
  exact hsorted.imp of_decide_eq_true

theorem TimingData.hasSummary (h : data.samples ≠ []) :
    HasSummary data.toJson data.min data.max (calculatePercentile data.sortedSamples 50)
      (calculatePercentile data.sortedSamples 95) (calculatePercentile data.sortedSamples 99) := by
  have hkeys : [text "count", text "sum_ms", text "min_ms", text "max_ms", text "avg_ms",
      text "p50_ms", text "p95_ms", text "p99_ms"].Nodup := by decide
  simp only [TimingData.toJson, if_neg h]
  constructor <;>
    exact Json.field?_ofFields_of_mem hkeys (by simp [TimingData.sortedSamples])

theorem field?_exportSection_timings {m : MetricsCollector} {name : Text}
    (h : m.timings.lookup name = some data) (systemStart now systemNow : ℤ) :
    (m.exportSection systemStart now systemNow .timings).field? name = some data.toJson := by
  apply Json.field?_ofFields_of_mem
  · rw [List.map_map]
    exact m.timings.nodupKeys
  · exact List.mem_map_of_mem (f := fun entry => (entry.1, entry.2.toJson))
      (AList.mem_lookup_iff.mp h)

/-- A name with a recording has a timing with a sample. -/
theorem exists_timing (m : MetricsCollector) (now : ℤ) {rs : List Recording} {name : Text}
    (h : durations name rs ≠ []) :
    ∃ data, ((m.reset now).recorded rs).timings.lookup name = some data ∧ data.samples ≠ [] := by
  have hsamples := (historyInv_recorded m now rs).samples name
  have hlength := congrArg List.length hsamples
  rw [BoundedHistory.length_rtake] at hlength
  have hpos := List.length_pos_of_ne_nil h
  cases hlookup : ((m.reset now).recorded rs).timings.lookup name with
  | none =>
      rw [MetricsCollector.samples, hlookup, Option.elim_none, List.length_nil] at hlength
      omega
  | some data =>
      rw [MetricsCollector.samples, hlookup, Option.elim_some] at hlength
      refine ⟨data, rfl, List.ne_nil_of_length_pos ?_⟩
      omega

theorem min_le_head (hcovers : data.Covers) (h : data.sortedSamples ≠ []) :
    (data.min.toInt : ℚ) ≤ (data.sortedSamples.head h).toInt := by
  have hmem := mem_sortedSamples.mp (List.head_mem h)
  exact_mod_cast Int64.le_iff_toInt_le.mp (hcovers _ hmem).1

theorem getLast_le_max (hcovers : data.Covers) (h : data.sortedSamples ≠ []) :
    ((data.sortedSamples.getLast h).toInt : ℚ) ≤ data.max.toInt := by
  have hmem := mem_sortedSamples.mp (List.getLast_mem h)
  exact_mod_cast Int64.le_iff_toInt_le.mp (hcovers _ hmem).2

end Export

/-- The exported timings of every name that has some are ordered: the minimum, the percentiles,
the maximum.  In general a percentile of sorted samples is read at indices within the samples,
it lies between the first and the last, and it is monotone. -/
theorem timingSummary :
    (∀ (m : MetricsCollector) (now : ℤ) (rs : List Recording) (name : Text),
      durations name rs ≠ [] → ∀ systemStart now' systemNow : ℤ,
      ∃ timing min max p50 p95 p99,
        (((m.reset now).recorded rs).exportSection systemStart now' systemNow
          .timings).field? name = some timing ∧
        HasSummary timing min max p50 p95 p99 ∧
        (min.toInt : ℚ) ≤ p50 ∧ p50 ≤ p95 ∧ p95 ≤ p99 ∧ p99 ≤ max.toInt) ∧
    ∀ (sortedSamples : List Int64) (h : sortedSamples ≠ []), sortedSamples.Pairwise (· ≤ ·) →
      ∀ p q : ℕ, p ≤ q → q ≤ 100 →
        ⌊percentileIndex sortedSamples q⌋₊ < sortedSamples.length ∧
        ⌈percentileIndex sortedSamples q⌉₊ < sortedSamples.length ∧
        ((sortedSamples.head h).toInt : ℚ) ≤ calculatePercentile sortedSamples p ∧
        calculatePercentile sortedSamples p ≤ calculatePercentile sortedSamples q ∧
        calculatePercentile sortedSamples q ≤ (sortedSamples.getLast h).toInt := by
  constructor
  · intro m now rs name hdurations systemStart now' systemNow
    obtain ⟨data, hlookup, hsamples⟩ := exists_timing m now hdurations
    have hcovers := timingsCovered_recorded m now rs name data hlookup
    have h := sortedSamples_ne_nil hsamples
    have hsorted : data.sortedSamples.Pairwise (· ≤ ·) := pairwise_sortedSamples
    refine ⟨data.toJson, data.min, data.max, _, _, _,
      field?_exportSection_timings hlookup systemStart now' systemNow,
      TimingData.hasSummary hsamples, ?_, ?_, ?_, ?_⟩
    · exact (min_le_head hcovers h).trans (head_le_calculatePercentile h hsorted (by omega))
    · exact calculatePercentile_mono h hsorted (by omega) (by omega)
    · exact calculatePercentile_mono h hsorted (by omega) (by omega)
    · exact (calculatePercentile_le_getLast h hsorted (by omega)).trans
        (getLast_le_max hcovers h)
  · intro sortedSamples h hsorted p q hpq hq
    have hceil := ceil_percentileIndex_lt h hq
    exact ⟨(Nat.floor_le_ceil _).trans_lt hceil, hceil,
      head_le_calculatePercentile h hsorted (hpq.trans hq),
      calculatePercentile_mono h hsorted hpq hq, calculatePercentile_le_getLast h hsorted hq⟩

/-- Of three timings the 50th percentile is the second in order. -/
theorem timingSummary_sample :
    (∃ timing min max p50 p95 p99,
      (((MetricsCollector.construct 0).reset 0).recorded
        [.timing [] 7, .timing [] (-3), .timing [] 5] |>.exportSection 0 0 0 .timings).field? [] =
          some timing ∧
      HasSummary timing min max p50 p95 p99 ∧
      (min.toInt : ℚ) ≤ p50 ∧ p50 ≤ p95 ∧ p95 ≤ p99 ∧ p99 ≤ max.toInt) ∧
    calculatePercentile [-3, 5, 7] 50 ≤ calculatePercentile [-3, 5, 7] 95 :=
  ⟨timingSummary.1 (.construct 0) 0 [.timing [] 7, .timing [] (-3), .timing [] 5] [] (by decide)
      0 0 0,
    (timingSummary.2 [-3, 5, 7] (by decide) (by decide) 50 95 (by decide) (by decide)).2.2.2.1⟩

end CppSim.Server
