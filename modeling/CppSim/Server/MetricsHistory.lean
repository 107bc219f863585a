import Mathlib.Algebra.BigOperators.Ring.Finset
import CppSim.Library.BoundedHistory
import CppSim.Server.MetricsCollector

/-!
# What the collector keeps

The events and the errors are pushed before the size is checked, the samples of a timing
after it, and the bound is 1000 for events and samples alike: so 1000 events are kept, but
1001 samples.  `keepsNewest_iff` says when the samples are the newest 1000.

An error counts twice, under `errors.total` and under its type.  Both counters are found by
their names in one map, and an error of the type `total` counts twice under the same name
(`accountsForErrors_iff`).
-/

namespace CppSim.Server

/-! ## Recordings -/

/-- A call of a recording function, with the reading of its clock. -/
inductive Recording
  | counter (name : Text) (value : Int64)
  | gauge (name : Text) (value : Double)
  | timing (name : Text) (duration : Int64)
  | event (now : ℤ) (name : Text) (tags : List Text)
  | error (now : ℤ) (errorType details : Text)

def MetricsCollector.record (m : MetricsCollector) : Recording → MetricsCollector
  | .counter name value => m.incrementCounter name value
  | .gauge name value => m.setGauge name value
  | .timing name duration => m.recordTiming name duration
  | .event now name tags => m.recordEvent now name tags
  | .error now errorType details => m.recordError now errorType details

/-- The collector after a sequence of recordings. -/
def MetricsCollector.recorded (m : MetricsCollector) (rs : List Recording) : MetricsCollector :=
  rs.foldl record m

namespace Recording

def duration? (name : Text) : Recording → Option Int64
  | timing other duration => if other = name then some duration else none
  | _ => none

def event? : Recording → Option EventData
  | event now name tags => some ⟨now, name, tags⟩
  | _ => none

def error? : Recording → Option ErrorData
  | error now errorType details => some ⟨now, errorType, details⟩
  | _ => none

end Recording

/-- The durations recorded for a name. -/
def durations (name : Text) (rs : List Recording) : List Int64 :=
  rs.filterMap (Recording.duration? name)

/-- The samples kept for a name. -/
def MetricsCollector.samples (m : MetricsCollector) (name : Text) : List Int64 :=
  (m.timings.lookup name).elim [] TimingData.samples

/-! ## The newest entries -/

/-- The newest 1000 samples of each name, 1000 events and 500 errors are kept, in the order in
which they were recorded. -/
structure KeepsNewest (rs : List Recording) (m : MetricsCollector) : Prop where
  samples : ∀ name, m.samples name = (durations name rs).rtake 1000
  events : m.events = (rs.filterMap Recording.event?).rtake 1000
  errors : m.errors = (rs.filterMap Recording.error?).rtake 500

section History

variable {m : MetricsCollector} {rs : List Recording}

theorem MetricsCollector.recorded_snoc (m : MetricsCollector) (rs : List Recording)
    (r : Recording) : m.recorded (rs ++ [r]) = (m.recorded rs).record r := by
  simp [recorded]

theorem samples_record (m : MetricsCollector) (r : Recording) (name : Text) :
    (m.record r).samples name =
      (r.duration? name).elim (m.samples name)
        (BoundedHistory.evictThenPush 1000 (m.samples name)) := by
  cases r with
  | timing other duration =>
      unfold MetricsCollector.record MetricsCollector.recordTiming MetricsCollector.samples
      by_cases hname : other = name
      · subst hname
        simp only [AList.lookup_insert, Recording.duration?, if_true]
        cases m.timings.lookup other <;> rfl
      · simp only [AList.lookup_insert_ne (Ne.symm hname), Recording.duration?, hname, if_false]
        rfl
  | counter | gauge | event | error => rfl

theorem events_record (m : MetricsCollector) (r : Recording) :
    (m.record r).events = r.event?.elim m.events (BoundedHistory.pushThenEvict 1000 m.events) := by
  cases r <;> rfl

theorem errors_record (m : MetricsCollector) (r : Recording) :
    (m.record r).errors = r.error?.elim m.errors (BoundedHistory.pushThenEvict 500 m.errors) := by
  cases r <;> rfl

theorem filterMap_snoc {T : Type} (f : Recording → Option T) (rs : List Recording)
    (r : Recording) : (rs ++ [r]).filterMap f = rs.filterMap f ++ (f r).toList := by
  rw [List.filterMap_append]
  cases h : f r <;> simp [h]

/-- What is kept along a sequence of recordings. -/
structure HistoryInv (rs : List Recording) (m : MetricsCollector) : Prop where
  samples : ∀ name, m.samples name = (durations name rs).rtake 1001
  events : m.events = (rs.filterMap Recording.event?).rtake 1000
  errors : m.errors = (rs.filterMap Recording.error?).rtake 500

theorem HistoryInv.record (inv : HistoryInv rs m) (r : Recording) :
    HistoryInv (rs ++ [r]) (m.record r) := by
  constructor
  · intro name
    rw [samples_record, inv.samples, durations, durations, filterMap_snoc]
    exact BoundedHistory.elim_evictThenPush _
  · rw [events_record, inv.events, filterMap_snoc]
    exact BoundedHistory.elim_pushThenEvict _
  · rw [errors_record, inv.errors, filterMap_snoc]
    exact BoundedHistory.elim_pushThenEvict _

theorem historyInv_recorded (m : MetricsCollector) (now : ℤ) (rs : List Recording) :
    HistoryInv rs ((m.reset now).recorded rs) := by
  induction rs using List.reverseRecOn with
  | nil =>
      refine ⟨fun name => ?_, ?_, ?_⟩
      · rw [durations, List.filterMap_nil, List.rtake_nil]
        rfl
      · rw [List.filterMap_nil, List.rtake_nil]
        rfl
      · rw [List.filterMap_nil, List.rtake_nil]
        rfl
  | append_singleton rs r ih =>
      rw [MetricsCollector.recorded_snoc]
      exact ih.record r

end History

/-- After a reset exactly the newest entries are kept as long as no name has more than 1000
recordings of its timing; the events and the errors are always the newest. -/
theorem keepsNewest_iff (m : MetricsCollector) (now : ℤ) (rs : List Recording) :
    KeepsNewest rs ((m.reset now).recorded rs) ↔ ∀ name, (durations name rs).length ≤ 1000 := by
  have inv := historyInv_recorded m now rs
  constructor
  · intro hkeeps name
    rw [← BoundedHistory.rtake_succ_eq_iff, ← hkeeps.samples, inv.samples]
  · intro hshort
    refine ⟨fun name => ?_, inv.events, inv.errors⟩
    rw [inv.samples]
    exact BoundedHistory.rtake_succ_eq_iff.mpr (hshort name)

/-- Of 1001 timings of one name none is dropped. -/
theorem not_keepsNewest :
    ¬ ∀ (m : MetricsCollector) (now : ℤ) (rs : List Recording),
      KeepsNewest rs ((m.reset now).recorded rs) := by
  intro hall
  obtain ⟨rs, hlong⟩ : ∃ rs, 1000 < (durations [] rs).length := by
    refine ⟨List.replicate 1001 (.timing [] 0), ?_⟩
    have hduration : Recording.duration? [] (.timing [] 0) = some 0 := rfl
    rw [durations, List.filterMap_replicate_of_some hduration, List.length_replicate]
    exact Nat.lt_succ_self 1000
  have hsamples := (hall (.construct 0) 0 rs).samples []
  rw [(historyInv_recorded _ _ _).samples] at hsamples
  have hshort := BoundedHistory.rtake_succ_eq_iff.mp hsamples
  omega

/-! ## Counting errors -/

/-- The collector after a sequence of errors. -/
def MetricsCollector.recordErrors (m : MetricsCollector) (errors : List ErrorData) :
    MetricsCollector :=
  errors.foldl (fun m e => m.recordError e.timestamp e.errorType e.details) m

/-- The counters say how many errors there were, how many of each of the types, and that these
are all. -/
structure AccountsForErrors (ofType : Text → Prop) (types : List Text) (m : MetricsCollector) :
    Prop where
  total : (m.getCounter (text "errors.total")).toInt = types.length
  each : ∀ t, ofType t → (m.getCounter (text "errors." ++ t)).toInt = types.count t
  sum : (m.getCounter (text "errors.total")).toInt =
    (types.dedup.map fun t => (m.getCounter (text "errors." ++ t)).toInt).sum

section Errors

variable {m : MetricsCollector} {errors : List ErrorData} {types : List Text} {t : Text} {n c : ℕ}

theorem getCounter_incrementCounter (m : MetricsCollector) (name other : Text) (value : Int64) :
    (m.incrementCounter name value).getCounter other =
      m.getCounter other + if other = name then value else 0 := by
  unfold MetricsCollector.getCounter MetricsCollector.incrementCounter
  by_cases hname : other = name
  · subst hname
    rw [AList.lookup_insert, if_pos rfl, Option.getD_some]
  · rw [AList.lookup_insert_ne hname, if_neg hname, Int64.add_zero]

theorem text_errorsTotal : text "errors.total" = text "errors." ++ text "total" := rfl

/-- An error counts under its type, and once more under `total`. -/
theorem getCounter_recordError (m : MetricsCollector) (e : ErrorData) (t : Text) :
    (m.recordError e.timestamp e.errorType e.details).getCounter (text "errors." ++ t) =
      m.getCounter (text "errors." ++ t) + (if t = text "total" then 1 else 0) +
        if t = e.errorType then 1 else 0 := by
  rw [MetricsCollector.recordError, getCounter_incrementCounter, getCounter_incrementCounter,
    text_errorsTotal]
  simp only [List.append_cancel_left_eq]
  rfl

/-- The counter of a type along a sequence of errors. -/
theorem getCounter_recordErrors (m : MetricsCollector) (now : ℤ) (errors : List ErrorData)
    (t : Text) :
    ((m.reset now).recordErrors errors).getCounter (text "errors." ++ t) =
      Int64.ofNat ((if t = text "total" then errors.length else 0) +
        (errors.map ErrorData.errorType).count t) := by
  induction errors using List.reverseRecOn with
  | nil =>
      have hnone : ((m.reset now).recordErrors []).getCounter (text "errors." ++ t) = 0 := rfl
      rw [hnone]
      simp
  | append_singleton errors e ih =>
      have hstep : (m.reset now).recordErrors (errors ++ [e]) =
          ((m.reset now).recordErrors errors).recordError e.timestamp e.errorType e.details := by
        simp [MetricsCollector.recordErrors]
      rw [hstep, getCounter_recordError, ih, List.map_append, List.map_singleton, List.count_append,
        List.count_singleton, List.length_append, List.length_singleton]
      have hone : ∀ p : Prop, [Decidable p] → (if p then 1 else 0 : Int64) =
          Int64.ofNat (if p then 1 else 0) := by
        intro p _
        split <;> rfl
      rw [hone, hone, ← Int64.ofNat_add, ← Int64.ofNat_add]
      congr 1
      simp only [beq_iff_eq, eq_comm (a := e.errorType)]
      split <;> omega

theorem getCounter_total (m : MetricsCollector) (now : ℤ) (errors : List ErrorData) :
    ((m.reset now).recordErrors errors).getCounter (text "errors.total") =
      Int64.ofNat (errors.length + (errors.map ErrorData.errorType).count (text "total")) := by
  rw [text_errorsTotal, getCounter_recordErrors, if_pos rfl]

/-- The total is right exactly if no error has the type `total` and the counter can hold it. -/
theorem toInt_total_iff (hle : c ≤ n) :
    (Int64.ofNat (n + c)).toInt = n ↔ c = 0 ∧ n < 2 ^ 63 := by
  constructor
  · intro htotal
    have hlt := (Int64.ofNat (n + c)).toInt_lt
    rw [htotal] at hlt
    rw [Int64.toInt_ofNat', Int64.size, Int.bmod] at htotal
    push_cast at htotal
    omega
  · rintro ⟨rfl, hlt⟩
    exact Int64.toInt_ofNat_of_lt hlt

theorem accounts_of_notMem (m : MetricsCollector) (now : ℤ)
    (htypes : text "total" ∉ errors.map ErrorData.errorType) (hlt : errors.length < 2 ^ 63) :
    AccountsForErrors (fun t => t ≠ text "total" ∨ t ∈ errors.map ErrorData.errorType)
      (errors.map ErrorData.errorType) ((m.reset now).recordErrors errors) := by
  have hlength : (errors.map ErrorData.errorType).length = errors.length := List.length_map _
  have htotal : (((m.reset now).recordErrors errors).getCounter (text "errors.total")).toInt =
      (errors.map ErrorData.errorType).length := by
    rw [getCounter_total, List.count_eq_zero_of_not_mem htypes, hlength]
    exact Int64.toInt_ofNat_of_lt hlt
  have heach : ∀ t, t ≠ text "total" ∨ t ∈ errors.map ErrorData.errorType →
      (((m.reset now).recordErrors errors).getCounter (text "errors." ++ t)).toInt =
        (errors.map ErrorData.errorType).count t := by
    intro t ht
    have hne : t ≠ text "total" := by
      rintro rfl
      exact ht.elim (fun h => h rfl) htypes
    have hle := List.count_le_length (a := t) (l := errors.map ErrorData.errorType)
    rw [getCounter_recordErrors, if_neg hne, Nat.zero_add]
    exact Int64.toInt_ofNat_of_lt (by omega)
  refine ⟨htotal, heach, ?_⟩
  rw [htotal, List.map_congr_left fun t ht => heach t (Or.inr (List.mem_dedup.mp ht)),
    ← List.sum_map_count_dedup_eq_length, Nat.cast_list_sum, List.map_map]
  apply congrArg
  apply List.map_congr_left
  intro t _
  rw [Function.comp_apply]
  congr!

end Errors

/-- After a reset the counters account for the errors, for every type that occurs and every
other but `total`, exactly if no error has the type `total` and there are less than `2^63`; they
do so for every string at all only if there is no error. -/
theorem accountsForErrors_iff (m : MetricsCollector) (now : ℤ) (errors : List ErrorData) :
    (AccountsForErrors (fun t => t ≠ text "total" ∨ t ∈ errors.map ErrorData.errorType)
        (errors.map ErrorData.errorType) ((m.reset now).recordErrors errors) ↔
      text "total" ∉ errors.map ErrorData.errorType ∧ errors.length < 2 ^ 63) ∧
    (AccountsForErrors (fun _ => True) (errors.map ErrorData.errorType)
        ((m.reset now).recordErrors errors) ↔ errors = []) := by
  have hlength : (errors.map ErrorData.errorType).length = errors.length := List.length_map _
  have hle := List.count_le_length (a := text "total") (l := errors.map ErrorData.errorType)
  -- The total alone decides: it is too large by the number of errors of the type `total`.
  have htypes : ∀ ofType, AccountsForErrors ofType (errors.map ErrorData.errorType)
      ((m.reset now).recordErrors errors) →
      text "total" ∉ errors.map ErrorData.errorType ∧ errors.length < 2 ^ 63 := by
    intro ofType haccounts
    have htotal := haccounts.total
    rw [getCounter_total, ← hlength, toInt_total_iff hle] at htotal
    exact ⟨List.count_eq_zero.mp htotal.1, hlength ▸ htotal.2⟩
  refine ⟨⟨htypes _, fun h => accounts_of_notMem m now h.1 h.2⟩, ?_, ?_⟩
  · intro haccounts
    have htotal := haccounts.total
    have heach := haccounts.each (text "total") trivial
    rw [← text_errorsTotal, htotal, List.count_eq_zero_of_not_mem (htypes _ haccounts).1,
      hlength] at heach
    exact List.length_eq_zero_iff.mp (by exact_mod_cast heach)
  · rintro rfl
    exact ⟨rfl, fun t _ => rfl, rfl⟩

/-- An error of the type `total` counts twice in the total. -/
theorem not_accountsForErrors :
    ¬ ∀ (m : MetricsCollector) (now : ℤ) (errors : List ErrorData),
      AccountsForErrors (fun t => t ≠ text "total" ∨ t ∈ errors.map ErrorData.errorType)
        (errors.map ErrorData.errorType) ((m.reset now).recordErrors errors) := by
  intro hall
  have htotal := (hall (.construct 0) 0 [⟨0, text "total", []⟩]).total
  rw [getCounter_total] at htotal
  exact absurd htotal (by decide)

end CppSim.Server
