import Mathlib.Data.List.AList
import CppSim.Common.Reread
import CppSim.Server.Traffic

/-!
# The metrics collector

A `MetricsCollector` holds the members of `metrics_collector`: counters, gauges, timings, and
the newest events and errors.  Each recording is one critical section.

`export_metrics` visits them one after the other, under one lock at a time, and prints the
document it has put together; between two sections other threads may record.  An `Exporter`
is a call that is under way.  What a section adds to the document is valid UTF-8 if what the
collector holds is (`MetricsCollector.Utf8`), and every recording but that of a text that is
not keeps it so.
-/

namespace CppSim.Server

/-! ## Members -/

/-- `timing_data`. -/
structure TimingData where
  count : Int64
  sum : Int64
  min : Int64
  max : Int64
  samples : List Int64

def TimingData.initial : TimingData where
  count := 0
  sum := 0
  min := Int64.maxValue
  max := 0
  samples := []

/-- `record_timing`, for one name. -/
def TimingData.record (t : TimingData) (duration : Int64) : TimingData where
  count := t.count + 1
  sum := t.sum + duration
  min := if duration < t.min then duration else t.min
  max := if t.max < duration then duration else t.max
  samples := (if t.samples.length > 1000 then t.samples.tail else t.samples) ++ [duration]

/-- `event_data`. -/
structure EventData where
  timestamp : ℤ
  name : Text
  tags : List Text

/-- `error_data`. -/
structure ErrorData where
  timestamp : ℤ
  /-- `type`. -/
  errorType : Text
  details : Text

structure MetricsCollector where
  counters : AList fun _ : Text => Int64
  gauges : AList fun _ : Text => Double
  timings : AList fun _ : Text => TimingData
  events : List EventData
  errors : List ErrorData
  /-- In nanoseconds of the steady clock, as all timestamps are. -/
  startTime : ℤ

namespace MetricsCollector

/-- The constructor. -/
def construct (now : ℤ) : MetricsCollector where
  counters := ∅
  gauges := ∅
  timings := ∅
  events := []
  errors := []
  startTime := now

/-! ## Recording -/

/-- `increment_counter`. -/
def incrementCounter (m : MetricsCollector) (name : Text) (value : Int64) : MetricsCollector :=
  { m with counters := m.counters.insert name ((m.counters.lookup name).getD 0 + value) }

/-- `set_gauge`. -/
def setGauge (m : MetricsCollector) (name : Text) (value : Double) : MetricsCollector :=
  { m with gauges := m.gauges.insert name value }

/-- `record_timing`, with a duration in milliseconds. -/
def recordTiming (m : MetricsCollector) (name : Text) (duration : Int64) : MetricsCollector :=
  let data := (m.timings.lookup name).getD .initial
  { m with timings := m.timings.insert name (data.record duration) }

/-- `push_back`, then `pop_front` if there are more than `size` items. -/
def pushBounded {T : Type} (items : List T) (item : T) (size : ℕ) : List T :=
  let items := items ++ [item]
  if items.length > size then items.tail else items

/-- `record_event`. -/
def recordEvent (m : MetricsCollector) (now : ℤ) (name : Text) (tags : List Text) :
    MetricsCollector :=
  { m with events := pushBounded m.events ⟨now, name, tags⟩ 1000 }

/-- `record_error`. -/
def recordError (m : MetricsCollector) (now : ℤ) (errorType details : Text) : MetricsCollector :=
  let m := { m with errors := pushBounded m.errors ⟨now, errorType, details⟩ 500 }
  (m.incrementCounter (text "errors.total") 1).incrementCounter (text "errors." ++ errorType) 1

/-- `get_counter`. -/
def getCounter (m : MetricsCollector) (name : Text) : Int64 := (m.counters.lookup name).getD 0

/-- `reset`. -/
def reset (_ : MetricsCollector) (now : ℤ) : MetricsCollector := .construct now

end MetricsCollector

/-! ## Exporting -/

/-- `calculate_percentile`, of samples in ascending order, over exact rationals. -/
def calculatePercentile (sortedSamples : List Int64) (percentile : ℕ) : ℚ :=
  if sortedSamples = [] then 0
  else
    let index : ℚ := percentile / 100 * (sortedSamples.length - 1 : ℕ)
    let lowerIdx := ⌊index⌋₊
    let upperIdx := ⌈index⌉₊
    let sample (i : ℕ) : ℚ := (sortedSamples[i]?.getD 0).toInt
    if lowerIdx = upperIdx then sample lowerIdx
    else
      let weight := index - lowerIdx
      sample lowerIdx * (1 - weight) + sample upperIdx * weight

/-- The object exported for one timing. -/
def TimingData.toJson (data : TimingData) : Json :=
  let average : ℚ := if data.count > 0 then data.sum.toInt / data.count.toInt else 0
  let sortedSamples := data.samples.mergeSort fun a b => decide (a ≤ b)
  let percentile (p : ℕ) : Json := .float (.finite (calculatePercentile sortedSamples p))
  .ofFields
    ([(text "count", .integer data.count), (text "sum_ms", .integer data.sum),
      (text "min_ms", .integer data.min), (text "max_ms", .integer data.max),
      (text "avg_ms", .float (.finite average))] ++
    if data.samples = [] then []
    else [(text "p50_ms", percentile 50), (text "p95_ms", percentile 95),
      (text "p99_ms", percentile 99)])

/-- `to_time_t`. -/
def toTimeT (time : ℤ) : ℤ := time.tdiv (seconds 1)

/-- A timestamp of the steady clock as a text: whole milliseconds after the start, counted
from the start on the system clock. -/
def timestampText (startTime systemStart timestamp : ℤ) : Text :=
  let milliseconds := (timestamp - startTime).tdiv 1000000
  toText (toTimeT (systemStart + milliseconds * 1000000))

def EventData.toJson (startTime systemStart : ℤ) (event : EventData) : Json :=
  .ofFields [(text "timestamp", .string (timestampText startTime systemStart event.timestamp)),
    (text "name", .string event.name), (text "tags", .array (event.tags.map .string))]

def ErrorData.toJson (startTime systemStart : ℤ) (error : ErrorData) : Json :=
  .ofFields [(text "timestamp", .string (timestampText startTime systemStart error.timestamp)),
    (text "type", .string error.errorType), (text "details", .string error.details)]

/-- The sections of the exported document. -/
inductive ExportSection
  | counters
  | gauges
  | timings
  | events
  | errors
  | system
  deriving DecidableEq

namespace ExportSection

def key : ExportSection → Text
  | counters => text "counters"
  | gauges => text "gauges"
  | timings => text "timings"
  | events => text "events"
  | errors => text "errors"
  | system => text "system"

/-- All sections, in the order of the export. -/
def all : List ExportSection := [counters, gauges, timings, events, errors, system]

end ExportSection

/-- What a section holds, with the readings of the two clocks. -/
def MetricsCollector.exportSection (m : MetricsCollector) (systemStart now systemNow : ℤ) :
    ExportSection → Json
  | .counters => .ofFields (m.counters.entries.map fun entry => (entry.1, .integer entry.2))
  | .gauges => .ofFields (m.gauges.entries.map fun entry => (entry.1, .float entry.2))
  | .timings => .ofFields (m.timings.entries.map fun entry => (entry.1, entry.2.toJson))
  | .events => .array (m.events.map (EventData.toJson m.startTime systemStart))
  | .errors => .array (m.errors.map (ErrorData.toJson m.startTime systemStart))
  | .system => .ofFields
      [(text "export_timestamp", .integer (Int64.ofInt (toTimeT systemNow))),
        (text "uptime_seconds", .integer (Int64.ofInt ((now - m.startTime).tdiv (seconds 1))))]

/-- A call of `export_metrics`. -/
structure Exporter where
  pending : List ExportSection
  jsonResult : Json
  systemStart : ℤ

namespace Exporter

/-- The document is empty when the export begins; its first key makes it an object. -/
def begin : Exporter := ⟨ExportSection.all, .object [], 0⟩

/-- The next section; the start on the system clock is read before the events are. -/
def next (e : Exporter) (m : MetricsCollector) (now systemNow : ℤ) : Option Exporter :=
  match e.pending with
  | [] => none
  | sec :: rest =>
      let systemStart :=
        if sec = .events then systemNow - (now - m.startTime) else e.systemStart
      let value := m.exportSection systemStart now systemNow sec
      some { pending := rest, jsonResult := e.jsonResult.setField sec.key value, systemStart }

/-- What `export_metrics` returns when the document is complete, where `dump` is `dump(2)`. -/
def print (dump : Json → Except Text Text) (document : Json) : Text :=
  match dump document with
  | .ok result => result
  | .error _ => text "\x7b\x7d"

end Exporter

/-! ## Valid UTF-8 -/

/-- All strings the collector holds are valid UTF-8. -/
structure MetricsCollector.Utf8 (m : MetricsCollector) : Prop where
  counters : ∀ name ∈ m.counters, IsUtf8 name
  gauges : ∀ name ∈ m.gauges, IsUtf8 name
  timings : ∀ name ∈ m.timings, IsUtf8 name
  events : ∀ event ∈ m.events, IsUtf8 event.name ∧ ∀ tag ∈ event.tags, IsUtf8 tag
  errors : ∀ error ∈ m.errors, IsUtf8 error.errorType ∧ IsUtf8 error.details

namespace MetricsCollector

variable {m : MetricsCollector}

theorem utf8_construct (now : ℤ) : (construct now).Utf8 := by
  constructor <;> intro x hx <;> cases hx

theorem Utf8.incrementCounter (h : m.Utf8) {name : Text} (hname : IsUtf8 name) (value : Int64) :
    (m.incrementCounter name value).Utf8 := by
  refine { h with counters := fun other hother => ?_ }
  rcases (AList.mem_insert _).mp hother with rfl | hother
  · exact hname
  · exact h.counters other hother

theorem Utf8.setGauge (h : m.Utf8) {name : Text} (hname : IsUtf8 name) (value : Double) :
    (m.setGauge name value).Utf8 := by
  refine { h with gauges := fun other hother => ?_ }
  rcases (AList.mem_insert _).mp hother with rfl | hother
  · exact hname
  · exact h.gauges other hother

theorem mem_pushBounded {T : Type} {items : List T} {item x : T} {size : ℕ}
    (h : x ∈ pushBounded items item size) : x ∈ items ∨ x = item := by
  have hmem : x ∈ items ++ [item] := by
    simp only [pushBounded] at h
    split at h
    · exact List.mem_of_mem_tail h
    · exact h
  simpa using hmem

theorem Utf8.recordEvent (h : m.Utf8) {name : Text} {tags : List Text} (hname : IsUtf8 name)
    (htags : ∀ tag ∈ tags, IsUtf8 tag) (now : ℤ) : (m.recordEvent now name tags).Utf8 := by
  refine { h with events := fun event hevent => ?_ }
  rcases mem_pushBounded hevent with hevent | rfl
  · exact h.events event hevent
  · exact ⟨hname, htags⟩

/-- An error that is recorded is kept, and its details are the only text of the caller. -/
theorem Utf8.recordError (h : m.Utf8) {errorType details : Text} (htype : IsUtf8 errorType)
    (hdetails : IsUtf8 details) (now : ℤ) : (m.recordError now errorType details).Utf8 := by
  have hpushed : Utf8 { m with errors := pushBounded m.errors ⟨now, errorType, details⟩ 500 } := by
    refine { h with errors := fun error herror => ?_ }
    rcases mem_pushBounded herror with herror | rfl
    · exact h.errors error herror
    · exact ⟨htype, hdetails⟩
  exact (hpushed.incrementCounter (isUtf8_text _) 1).incrementCounter
    ((isUtf8_text _).append htype) 1

/-! ## The document -/

theorem stringsUtf8_timing (data : TimingData) : data.toJson.StringsUtf8 := by
  apply Json.stringsUtf8_ofFields
  intro entry hentry
  rcases List.mem_append.mp hentry with hentry | hentry
  · simp only [List.mem_cons, List.not_mem_nil, or_false] at hentry
    rcases hentry with rfl | rfl | rfl | rfl | rfl <;> exact ⟨isUtf8_text _, by constructor⟩
  · split at hentry
    · cases hentry
    · simp only [List.mem_cons, List.not_mem_nil, or_false] at hentry
      rcases hentry with rfl | rfl | rfl <;> exact ⟨isUtf8_text _, by constructor⟩

theorem Utf8.stringsUtf8_exportSection (h : m.Utf8) (systemStart now systemNow : ℤ)
    (sec : ExportSection) : (m.exportSection systemStart now systemNow sec).StringsUtf8 := by
  cases sec with
  | counters =>
      apply Json.stringsUtf8_ofFields
      intro _ hmem
      obtain ⟨entry, hentry, rfl⟩ := List.mem_map.mp hmem
      exact ⟨h.counters entry.1 (List.mem_map_of_mem hentry), .integer _⟩
  | gauges =>
      apply Json.stringsUtf8_ofFields
      intro _ hmem
      obtain ⟨entry, hentry, rfl⟩ := List.mem_map.mp hmem
      exact ⟨h.gauges entry.1 (List.mem_map_of_mem hentry), .float _⟩
  | timings =>
      apply Json.stringsUtf8_ofFields
      intro _ hmem
      obtain ⟨entry, hentry, rfl⟩ := List.mem_map.mp hmem
      exact ⟨h.timings entry.1 (List.mem_map_of_mem hentry), stringsUtf8_timing _⟩
  | events =>
      apply Json.StringsUtf8.array
      intro _ hmem
      obtain ⟨event, hevent, rfl⟩ := List.mem_map.mp hmem
      obtain ⟨hname, htags⟩ := h.events event hevent
      have htags' : (Json.array (event.tags.map .string)).StringsUtf8 := by
        apply Json.StringsUtf8.array
        intro _ hmem
        obtain ⟨tag, htag, rfl⟩ := List.mem_map.mp hmem
        exact .string (htags tag htag)
      apply Json.stringsUtf8_ofFields
      simp [isUtf8_text, Json.stringsUtf8_string, hname, htags', timestampText, toText]
  | errors =>
      apply Json.StringsUtf8.array
      intro _ hmem
      obtain ⟨error, herror, rfl⟩ := List.mem_map.mp hmem
      obtain ⟨htype, hdetails⟩ := h.errors error herror
      apply Json.stringsUtf8_ofFields
      simp [isUtf8_text, Json.stringsUtf8_string, htype, hdetails, timestampText, toText]
  | system =>
      apply Json.stringsUtf8_ofFields
      simp [isUtf8_text, Json.StringsUtf8.integer]

end MetricsCollector

/-- What an export has put together so far. -/
structure Exporter.Good (e : Exporter) : Prop where
  isObject : e.jsonResult.IsObject
  stringsUtf8 : e.jsonResult.StringsUtf8
  /-- Each section is in the document, or is yet to come. -/
  sections : ∀ sec, sec ∈ e.pending ∨ e.jsonResult.contains sec.key = true

namespace Exporter

theorem good_begin : begin.Good where
  isObject := ⟨[], rfl⟩
  stringsUtf8 := .object (by simp) (by simp)
  sections := by
    intro sec
    cases sec <;> exact .inl (by decide)

theorem contains_setField {j value : Json} {key k : Text} (h : j.IsObject)
    (hkey : key = k ∨ j.contains k = true) : (j.setField key value).contains k = true := by
  obtain ⟨fields, rfl⟩ := h
  by_cases hsame : key = k
  · simp [Json.contains, Json.setField, Json.field?, Json.find?_insertField, hsame]
  · rw [Json.contains, Json.field?_setField_of_ne hsame]
    exact hkey.resolve_left hsame

/-- A section of a collector that holds valid UTF-8 keeps the document good. -/
theorem Good.next {e e' : Exporter} {m : MetricsCollector} {now systemNow : ℤ} (h : e.Good)
    (hm : m.Utf8) (hnext : e.next m now systemNow = some e') : e'.Good := by
  unfold Exporter.next at hnext
  split at hnext
  · cases hnext
  · rename_i sec rest hpending
    cases hnext
    refine ⟨?_, ?_, fun other => ?_⟩
    · obtain ⟨fields, hfields⟩ := h.isObject
      exact ⟨_, by rw [hfields]; rfl⟩
    · have hkey : IsUtf8 sec.key := by cases sec <;> exact isUtf8_text _
      exact Json.stringsUtf8_setField h.stringsUtf8 hkey (hm.stringsUtf8_exportSection _ _ _ sec)
    · rcases h.sections other with hother | hother
      · rw [hpending] at hother
        rcases List.mem_cons.mp hother with rfl | hother
        · exact .inr (contains_setField h.isObject (.inl rfl))
        · exact .inl hother
      · exact .inr (contains_setField h.isObject (.inr hother))

end Exporter

end CppSim.Server
