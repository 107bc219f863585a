import Mathlib.Data.UInt
import Mathlib.Logic.Function.Basic
import CppSim.Library.AtomicCell
import CppSim.Library.Threads

/-!
# The metrics of a session

`session_metrics` is a dozen atomic counters in relaxed order that any thread may use.  Most of
them are only added to.  For each kind of duration there are three: `update_processing_time` and
`update_connection_duration` add to a total and to a count, and raise a maximum with a loop
around `compare_exchange_weak`, which may fail for no reason and may then return an old value.

`metrics_settle` says that nothing is lost for all that: when the calls have returned, each total
is the sum of what was added, each count is their number, and each maximum is the longest
duration.  `reset` is not among the calls.
-/

namespace CppSim.Server

/-- The counters that are only added to: `messages_sent_` and so on. -/
inductive MetricCounter
  | messagesSent
  | messagesReceived
  | errors
  | rateLimitExceeded
  | bytesSent
  | bytesReceived
  deriving DecidableEq

/-- What is measured: `processing_time`, in microseconds, and `connection_time`, in seconds. -/
inductive MeasuredTime
  | processing
  | connection
  deriving DecidableEq

/-- `total_processing_time_`, `processing_time_count_` and `max_processing_time_`, or those of
the connections. -/
structure TimeCells where
  total : AtomicCell UInt64
  count : AtomicCell UInt64
  max : AtomicCell UInt64

structure SessionMetrics where
  counter : MetricCounter → AtomicCell UInt64
  time : MeasuredTime → TimeCells

namespace SessionMetrics

def initial : SessionMetrics where
  counter _ := .fresh 0
  time _ := ⟨.fresh 0, .fresh 0, .fresh 0⟩

/-! ## Calls -/

inductive Call
  | increment (counter : MetricCounter) (count : UInt64)
  | update (kind : MeasuredTime) (time : UInt64)
  | get (counter : MetricCounter)
  | getMax (kind : MeasuredTime)

def incrementMessagesSent (count : UInt64) : Call := .increment .messagesSent count
def incrementMessagesReceived (count : UInt64) : Call := .increment .messagesReceived count
def incrementErrors (count : UInt64) : Call := .increment .errors count
def recordRateLimitExceeded : Call := .increment .rateLimitExceeded 1
def incrementBytesSent (bytes : UInt64) : Call := .increment .bytesSent bytes
def incrementBytesReceived (bytes : UInt64) : Call := .increment .bytesReceived bytes
def updateProcessingTime (time : Int64) : Call := .update .processing time.toUInt64
def updateConnectionDuration (duration : Int64) : Call := .update .connection duration.toUInt64
def getMessagesSent : Call := .get .messagesSent
def getMessagesReceived : Call := .get .messagesReceived
def getErrors : Call := .get .errors
def getRateLimitExceededCount : Call := .get .rateLimitExceeded
def getBytesSent : Call := .get .bytesSent
def getBytesReceived : Call := .get .bytesReceived
def getMaxProcessingTimeMs : Call := .getMax .processing
def getMaxConnectionDurationS : Call := .getMax .connection

/-- The next access of a call. -/
inductive Phase
  | increment (counter : MetricCounter) (count : UInt64)
  | addTotal (kind : MeasuredTime) (time : UInt64)
  | addCount (kind : MeasuredTime) (time : UInt64)
  | loadMax (kind : MeasuredTime) (time : UInt64)
  | compareExchange (kind : MeasuredTime) (time currentMax : UInt64)
  | get (counter : MetricCounter)
  | getMax (kind : MeasuredTime)
  | returned
  deriving DecidableEq

/-- What the memory does: a read-modify-write, or a load (also that of a compare-exchange which
fails) that returns the `k`-th value of the object. -/
inductive Access
  | modify
  | load (k : ℕ)

/-- What a getter returns. -/
inductive Reading
  | counter (counter : MetricCounter) (value : UInt64)
  | max (kind : MeasuredTime) (value : UInt64)

def enter : Call → Phase
  | .increment counter count => .increment counter count
  | .update kind time => .addTotal kind time
  | .get counter => .get counter
  | .getMax kind => .getMax kind

/-- The condition of the loop. -/
def loop (kind : MeasuredTime) (time currentMax : UInt64) : Phase :=
  if time > currentMax then .compareExchange kind time currentMax else .returned

def setCounter (m : SessionMetrics) (counter : MetricCounter) (cell : AtomicCell UInt64) :
    SessionMetrics :=
  { m with counter := Function.update m.counter counter cell }

def setTime (m : SessionMetrics) (kind : MeasuredTime) (cells : TimeCells) : SessionMetrics :=
  { m with time := Function.update m.time kind cells }

/-- The next access of a call, and what it leads to. -/
def access (m : SessionMetrics) :
    Phase → Access → Option (SessionMetrics × Phase × List Reading)
  | .increment counter count, .modify =>
      let cell := m.counter counter
      some (m.setCounter counter (cell.push (cell.last + count)), .returned, [])
  | .addTotal kind time, .modify =>
      let cells := m.time kind
      let total := cells.total.push (cells.total.last + time)
      some (m.setTime kind { cells with total }, .addCount kind time, [])
  | .addCount kind time, .modify =>
      let cells := m.time kind
      let count := cells.count.push (cells.count.last + 1)
      some (m.setTime kind { cells with count }, .loadMax kind time, [])
  | .loadMax kind time, .load k =>
      ((m.time kind).max.load k).map fun currentMax => (m, loop kind time currentMax, [])
  | .compareExchange kind time currentMax, .modify =>
      let cells := m.time kind
      if cells.max.last = currentMax then
        some (m.setTime kind { cells with max := cells.max.push time }, .returned, [])
      else none
  | .compareExchange kind time _, .load k =>
      ((m.time kind).max.load k).map fun currentMax => (m, loop kind time currentMax, [])
  | .get counter, .load k =>
      ((m.counter counter).load k).map fun value => (m, .returned, [.counter counter value])
  | .getMax kind, .load k =>
      ((m.time kind).max.load k).map fun value => (m, .returned, [.max kind value])
  | _, _ => none

end SessionMetrics

/-- The threads that use the metrics of a session. -/
def sessionMetrics :
    Threads SessionMetrics SessionMetrics.Phase SessionMetrics.Call SessionMetrics.Access
      SessionMetrics.Reading where
  enter c := (SessionMetrics.enter c, [])
  step _ m := m.access

namespace SessionMetrics

/-! ## What an access does -/

section Cells

variable {m : SessionMetrics} {counter other : MetricCounter} {kind kind' : MeasuredTime}
  {cell : AtomicCell UInt64} {cells : TimeCells}

@[simp] theorem time_setCounter : (m.setCounter counter cell).time = m.time := rfl
@[simp] theorem counter_setTime : (m.setTime kind cells).counter = m.counter := rfl

@[simp] theorem counter_setCounter :
    (m.setCounter counter cell).counter other = if other = counter then cell else m.counter other :=
  Function.update_apply ..

@[simp] theorem time_setTime :
    (m.setTime kind cells).time kind' = if kind' = kind then cells else m.time kind' :=
  Function.update_apply ..

end Cells

/-- The cases of an access. -/
inductive Accessed (m : SessionMetrics) : Phase → SessionMetrics → Phase → List Reading → Prop
  | incremented (counter : MetricCounter) (count : UInt64) :
      Accessed m (.increment counter count)
        (m.setCounter counter ((m.counter counter).push ((m.counter counter).last + count)))
        .returned []
  | totalAdded (kind : MeasuredTime) (time : UInt64) :
      Accessed m (.addTotal kind time)
        (m.setTime kind { m.time kind with
          total := (m.time kind).total.push ((m.time kind).total.last + time) })
        (.addCount kind time) []
  | countAdded (kind : MeasuredTime) (time : UInt64) :
      Accessed m (.addCount kind time)
        (m.setTime kind { m.time kind with
          count := (m.time kind).count.push ((m.time kind).count.last + 1) })
        (.loadMax kind time) []
  | looped {kind : MeasuredTime} {time currentMax : UInt64} {phase : Phase}
      (hphase : phase = .loadMax kind time ∨ ∃ old, phase = .compareExchange kind time old)
      (hload : currentMax ∈ (m.time kind).max.values) :
      Accessed m phase m (loop kind time currentMax) []
  | raised (kind : MeasuredTime) (time : UInt64) :
      Accessed m (.compareExchange kind time (m.time kind).max.last)
        (m.setTime kind { m.time kind with max := (m.time kind).max.push time }) .returned []
  | gotCounter (counter : MetricCounter) (value : UInt64) :
      Accessed m (.get counter) m .returned [.counter counter value]
  | gotMax {kind : MeasuredTime} {value : UInt64} (hload : value ∈ (m.time kind).max.values) :
      Accessed m (.getMax kind) m .returned [.max kind value]

theorem accessed_of_access {m m' : SessionMetrics} {phase phase' : Phase} {x : Access}
    {es : List Reading} (h : m.access phase x = some (m', phase', es)) :
    Accessed m phase m' phase' es := by
  cases x with
  | modify =>
      cases phase with
      | increment | addTotal | addCount =>
          cases h
          constructor
      | compareExchange kind time currentMax =>
          simp only [access, Option.ite_none_right_eq_some] at h
          obtain ⟨rfl, h⟩ := h
          cases h
          exact .raised kind time
      | _ => cases h
  | load k =>
      cases phase with
      | loadMax | compareExchange | get | getMax =>
          simp only [access, Option.map_eq_some_iff] at h
          obtain ⟨value, hload, h⟩ := h
          cases h
          first
            | exact .looped (by simp) (AtomicCell.mem_values_of_load hload)
            | exact .gotMax (AtomicCell.mem_values_of_load hload)
            | exact .gotCounter _ _
      | _ => cases h

/-! ## What came in, and what is owed -/

/-- What a call adds to a counter. -/
def Call.added? (counter : MetricCounter) : Call → Option UInt64
  | .increment other count => if other = counter then some count else none
  | _ => none

/-- The duration a call submits. -/
def Call.time? (kind : MeasuredTime) : Call → Option UInt64
  | .update other time => if other = kind then some time else none
  | _ => none

/-- What a call has yet to add to a counter. -/
def Phase.counter? (counter : MetricCounter) : Phase → Option UInt64
  | .increment other count => if other = counter then some count else none
  | _ => none

/-- What a call has yet to add to the total. -/
def Phase.total? (kind : MeasuredTime) : Phase → Option UInt64
  | .addTotal other time => if other = kind then some time else none
  | _ => none

/-- What a call has yet to count. -/
def Phase.count? (kind : MeasuredTime) : Phase → Option UInt64
  | .addTotal other time | .addCount other time => if other = kind then some time else none
  | _ => none

/-- What a call may still raise the maximum to. -/
def Phase.max? (kind : MeasuredTime) : Phase → Option UInt64
  | .addTotal other time | .addCount other time | .loadMax other time
  | .compareExchange other time _ => if other = kind then some time else none
  | _ => none

/-- Everything added to a counter. -/
def added (counter : MetricCounter) (as : List (PoolAction Call Access)) : List UInt64 :=
  (PoolAction.calls as).filterMap (Call.added? counter)

/-- All durations submitted. -/
def times (kind : MeasuredTime) (as : List (PoolAction Call Access)) : List UInt64 :=
  (PoolAction.calls as).filterMap (Call.time? kind)

/-- The longest one. -/
def longest (kind : MeasuredTime) (as : List (PoolAction Call Access)) : ℕ :=
  ((times kind as).map UInt64.toNat).foldr max 0

/-! ## The outline -/

/-- The maxima only grow, and nobody has read more than they are. -/
structure Raised (m : SessionMetrics) (es : List (ℕ × Reading)) : Prop where
  increasing : ∀ kind, (m.time kind).max.Increasing UInt64.toNat
  readings : ∀ i kind v, (i, Reading.max kind v) ∈ es → v.toNat ≤ (m.time kind).max.last.toNat

/-- A compare-exchange is tried only to raise the value that was read. -/
def Phase.Raises : Phase → Prop
  | .compareExchange _ time currentMax => currentMax.toNat < time.toNat
  | _ => True

theorem raises_loop (kind : MeasuredTime) (time currentMax : UInt64) :
    (loop kind time currentMax).Raises := by
  unfold loop
  split
  · rename_i hlt
    exact UInt64.lt_iff_toNat_lt.mp hlt
  · trivial

theorem raises_enter (c : Call) : (enter c).Raises := by cases c <;> trivial

section Steps

variable {m m' : SessionMetrics} {phase phase' : Phase} {fs : List Reading}
  {es : List (ℕ × Reading)} {i : ℕ}

theorem Accessed.raises (h : Accessed m phase m' phase' fs) : phase'.Raises := by
  cases h with
  | looped => exact raises_loop ..
  | _ => trivial

/-- The cells of the maxima are left alone, or one is raised. -/
theorem Accessed.max_cells (h : Accessed m phase m' phase' fs) (hraises : phase.Raises)
    (kind : MeasuredTime) :
    (m'.time kind).max = (m.time kind).max ∨
      ∃ time : UInt64, (m.time kind).max.last.toNat < time.toNat ∧
        (m'.time kind).max = (m.time kind).max.push time := by
  cases h with
  | incremented | looped | gotCounter | gotMax => exact .inl rfl
  | totalAdded other | countAdded other =>
      refine .inl ?_
      rw [time_setTime]
      split
      · rename_i hkind
        rw [hkind]
      · rfl
  | raised other time =>
      rw [time_setTime]
      split
      · rename_i hkind
        subst hkind
        exact .inr ⟨time, hraises, rfl⟩
      · exact .inl rfl

theorem Raised.accessed (inv : Raised m es) (hraises : phase.Raises)
    (h : Accessed m phase m' phase' fs) : Raised m' (es ++ fs.map (i, ·)) := by
  have hgrows : ∀ kind, (m.time kind).max.last.toNat ≤ (m'.time kind).max.last.toNat := by
    intro kind
    rcases h.max_cells hraises kind with hsame | ⟨time, hlt, hpush⟩
    · rw [hsame]
    · rw [hpush]
      exact hlt.le
  refine ⟨fun kind => ?_, fun j kind v hmem => ?_⟩
  · rcases h.max_cells hraises kind with hsame | ⟨time, hlt, hpush⟩
    · rw [hsame]
      exact inv.increasing kind
    · rw [hpush]
      exact (inv.increasing kind).push hlt
  · rcases List.mem_append.mp hmem with hbefore | hnow
    · exact (inv.readings j kind v hbefore).trans (hgrows kind)
    · obtain ⟨e, he, heq⟩ := List.mem_map.mp hnow
      cases heq
      cases h with
      | gotMax hload =>
          cases List.mem_singleton.mp he
          exact (inv.increasing kind).le_last hload
      | gotCounter => cases List.mem_singleton.mp he
      | _ => cases he

end Steps

theorem raised_initial : Raised initial [] where
  increasing _ := AtomicCell.increasing_fresh
  readings := by simp

/-! ## The four laws -/

section Laws

variable {m m' : SessionMetrics} {phase phase' : Phase} {fs : List Reading}
  {es : List (ℕ × Reading)}

theorem Accessed.pays_counter (h : Accessed m phase m' phase' fs) (counter : MetricCounter) :
    ((phase.counter? counter).elim 0 id) + (m.counter counter).last =
      ((phase'.counter? counter).elim 0 id) + (m'.counter counter).last := by
  cases h with
  | incremented other count =>
      by_cases hsame : other = counter
      · subst hsame
        simp [Phase.counter?, UInt64.add_comm]
      · simp [Phase.counter?, hsame, Ne.symm hsame]
  | @looped kind time currentMax phase hphase =>
      rcases hphase with rfl | ⟨old, rfl⟩ <;> unfold loop <;> split <;> rfl
  | _ => simp [Phase.counter?]

theorem Accessed.pays_total (h : Accessed m phase m' phase' fs) (kind : MeasuredTime) :
    ((phase.total? kind).elim 0 id) + (m.time kind).total.last =
      ((phase'.total? kind).elim 0 id) + (m'.time kind).total.last := by
  cases h with
  | totalAdded other time =>
      by_cases hsame : other = kind
      · subst hsame
        simp [Phase.total?, UInt64.add_comm]
      · simp [Phase.total?, hsame, Ne.symm hsame]
  | countAdded other time | raised other time =>
      by_cases hsame : other = kind
      · subst hsame
        simp [Phase.total?]
      · simp [Phase.total?, Ne.symm hsame]
  | @looped kind time currentMax phase hphase =>
      rcases hphase with rfl | ⟨old, rfl⟩ <;> unfold loop <;> split <;> rfl
  | _ => simp [Phase.total?]

theorem Accessed.pays_count (h : Accessed m phase m' phase' fs) (kind : MeasuredTime) :
    ((phase.count? kind).elim 0 fun _ => 1) + (m.time kind).count.last =
      ((phase'.count? kind).elim 0 fun _ => 1) + (m'.time kind).count.last := by
  cases h with
  | totalAdded other time | countAdded other time | raised other time =>
      by_cases hsame : other = kind
      · subst hsame
        simp [Phase.count?, UInt64.add_comm]
      · simp [Phase.count?, hsame, Ne.symm hsame]
  | @looped kind time currentMax phase hphase =>
      rcases hphase with rfl | ⟨old, rfl⟩ <;> unfold loop <;> split <;> rfl
  | _ => simp [Phase.count?]

/-- A duration that does not raise the maximum is not above it. -/
theorem Accessed.pays_max (inv : Raised m es) (hraises : phase.Raises)
    (h : Accessed m phase m' phase' fs) (kind : MeasuredTime) :
    max ((phase.max? kind).elim 0 UInt64.toNat) (m.time kind).max.last.toNat =
      max ((phase'.max? kind).elim 0 UInt64.toNat) (m'.time kind).max.last.toNat := by
  cases h with
  | totalAdded other time | countAdded other time =>
      by_cases hsame : other = kind
      · subst hsame
        simp [Phase.max?]
      · simp [Phase.max?, hsame, Ne.symm hsame]
  | raised other time =>
      by_cases hsame : other = kind
      · subst hsame
        have hlt : (m.time other).max.last.toNat < time.toNat := hraises
        simp [Phase.max?, hlt.le]
      · simp [Phase.max?, hsame, Ne.symm hsame]
  | @looped other time currentMax phase hphase hload =>
      have hle := (inv.increasing other).le_last hload
      have hmax : phase.max? kind = if other = kind then some time else none := by
        rcases hphase with rfl | ⟨old, rfl⟩ <;> rfl
      rw [hmax]
      by_cases hgt : time > currentMax
      · rw [loop, if_pos hgt]
        rfl
      · rw [loop, if_neg hgt]
        have htime : time.toNat ≤ currentMax.toNat := by
          rw [gt_iff_lt, UInt64.lt_iff_toNat_lt] at hgt
          omega
        by_cases hsame : other = kind
        · subst hsame
          simp [Phase.max?, htime.trans hle]
        · simp [Phase.max?, hsame]
  | _ => simp [Phase.max?]

end Laws

/-- Every access keeps the maxima growing. -/
theorem outline : sessionMetrics.Outline Raised fun _ _ phase _ => phase.Raises where
  enters i c inv _ := by
    rw [show (sessionMetrics.enter c).2 = [] from rfl, List.map_nil, List.append_nil]
    exact ⟨inv, raises_enter c⟩
  steps inv hraises h :=
    have haccess := accessed_of_access h
    ⟨inv.accessed hraises haccess, haccess.raises⟩
  stable _ _ hothers _ _ := hothers

/-- The threads of the metrics, as the outline describes them. -/
abbrev MetricsAccount (G : Type) : Type :=
  sessionMetrics.Account Raised (fun _ _ phase _ => phase.Raises) G

/-- A word that adds up what the calls come in with, `weight` each. -/
structure WordLaw where
  value : SessionMetrics → UInt64
  owed : Phase → Option UInt64
  worth : Call → Option UInt64
  weight : UInt64 → UInt64
  enters : ∀ c, (owed (enter c)).elim 0 weight = (worth c).elim 0 weight
  pays : ∀ {m m' : SessionMetrics} {phase phase' : Phase} {fs : List Reading},
    Accessed m phase m' phase' fs →
    (owed phase).elim 0 weight + value m = (owed phase').elim 0 weight + value m'
  returned : owed .returned = none
  initially : value initial = 0

def WordLaw.account (law : WordLaw) : MetricsAccount UInt64 where
  op := (· + ·)
  unit := 0
  assoc := UInt64.add_assoc
  comm := UInt64.add_comm
  unit_op := UInt64.zero_add
  value m _ := law.value m
  owed phase := (law.owed phase).elim 0 law.weight
  worth c := (law.worth c).elim 0 law.weight
  enters := law.enters
  value_enter _ _ _ _ := rfl
  pays _ _ h := law.pays (accessed_of_access h)

def counterLaw (counter : MetricCounter) : WordLaw where
  value m := (m.counter counter).last
  owed := Phase.counter? counter
  worth := Call.added? counter
  weight := id
  enters c := by cases c <;> rfl
  pays h := h.pays_counter counter
  returned := rfl
  initially := rfl

def totalLaw (kind : MeasuredTime) : WordLaw where
  value m := (m.time kind).total.last
  owed := Phase.total? kind
  worth := Call.time? kind
  weight := id
  enters c := by cases c <;> rfl
  pays h := h.pays_total kind
  returned := rfl
  initially := rfl

def countLaw (kind : MeasuredTime) : WordLaw where
  value m := (m.time kind).count.last
  owed := Phase.count? kind
  worth := Call.time? kind
  weight _ := 1
  enters c := by cases c <;> rfl
  pays h := h.pays_count kind
  returned := rfl
  initially := rfl

def maxAccount (kind : MeasuredTime) : MetricsAccount ℕ where
  op := max
  unit := 0
  assoc := max_assoc
  comm := max_comm
  unit_op := Nat.zero_max
  value m _ := (m.time kind).max.last.toNat
  owed phase := (phase.max? kind).elim 0 UInt64.toNat
  worth c := (c.time? kind).elim 0 UInt64.toNat
  enters c := by cases c <;> rfl
  value_enter _ _ _ _ := rfl
  pays inv hraises h := (accessed_of_access h).pays_max inv hraises kind

/-- As many ones as there are durations. -/
theorem sum_ones (ts : List UInt64) : (ts.map fun _ => (1 : UInt64)).sum = .ofNat ts.length := by
  induction ts with
  | nil => rfl
  | cons t ts ih =>
      calc 1 + (ts.map fun _ => (1 : UInt64)).sum
          = .ofNat ts.length + 1 := by rw [ih, UInt64.add_comm]
        _ = .ofNat (ts.length + 1) := by rw [UInt64.ofNat_add]; rfl

section Runs

variable {as : List (PoolAction Call Access)} {es : List (ℕ × Reading)}
  {p : Pool SessionMetrics Phase}

/-- No maximum is above the longest duration submitted. -/
theorem max_le_longest (run : sessionMetrics.machine.Run ⟨initial, []⟩ as es p)
    (kind : MeasuredTime) : (p.shared.time kind).max.last.toNat ≤ longest kind as := by
  have hlaw := outline.conserved (maxAccount kind) run raised_initial
  calc (p.shared.time kind).max.last.toNat
      ≤ max ((maxAccount kind).sum (p.locals.map (maxAccount kind).owed))
          (p.shared.time kind).max.last.toNat := Nat.le_max_right ..
    _ = max ((maxAccount kind).sum ((PoolAction.calls as).map (maxAccount kind).worth)) 0 := hlaw
    _ = (maxAccount kind).sum ((PoolAction.calls as).map (maxAccount kind).worth) := Nat.max_zero _
    _ = longest kind as := (maxAccount kind).sum_map_elim ..

/-- When all calls have returned, a word has everything that came in. -/
theorem WordLaw.settled (law : WordLaw) (run : sessionMetrics.machine.Run ⟨initial, []⟩ as es p)
    (hdone : ∀ phase ∈ p.locals, phase = .returned) :
    law.value p.shared = (((PoolAction.calls as).filterMap law.worth).map law.weight).sum := by
  have hsettled := outline.settled law.account run raised_initial fun phase hphase => by
    change (law.owed phase).elim 0 law.weight = 0
    rw [hdone phase hphase, law.returned, Option.elim_none]
  calc law.value p.shared
      = law.account.sum ((PoolAction.calls as).map law.account.worth) + law.value initial :=
        hsettled
    _ = law.account.sum ((PoolAction.calls as).map law.account.worth) := by
        rw [law.initially, UInt64.add_zero]
    _ = (((PoolAction.calls as).filterMap law.worth).map law.weight).sum :=
        law.account.sum_map_elim law.worth law.weight _

/-- **Nothing is lost.**  Any number of threads use the metrics of a session in relaxed order.
Nobody ever reads a maximum above the longest duration submitted; and when all calls have
returned, every counter is the sum of what was added to it, and of each kind of durations the
total is their sum, the count their number and the maximum the longest one. -/
theorem metrics_settle (run : sessionMetrics.machine.Run ⟨initial, []⟩ as es p) :
    (∀ i kind v, (i, Reading.max kind v) ∈ es → v.toNat ≤ longest kind as) ∧
      ((∀ phase ∈ p.locals, phase = .returned) →
        (∀ counter, (p.shared.counter counter).last = (added counter as).sum) ∧
          ∀ kind, (p.shared.time kind).total.last = (times kind as).sum ∧
            (p.shared.time kind).count.last = .ofNat (times kind as).length ∧
            (p.shared.time kind).max.last.toNat = longest kind as) := by
  have inv := outline.of_run run raised_initial
  refine ⟨fun i kind v hmem => (inv.shared.readings i kind v hmem).trans (max_le_longest run kind),
    fun hdone => ⟨fun counter => ?_, fun kind => ⟨?_, ?_, ?_⟩⟩⟩
  · calc (p.shared.counter counter).last
        = ((added counter as).map id).sum := (counterLaw counter).settled run hdone
      _ = (added counter as).sum := by rw [List.map_id]
  · calc (p.shared.time kind).total.last
        = ((times kind as).map id).sum := (totalLaw kind).settled run hdone
      _ = (times kind as).sum := by rw [List.map_id]
  · exact ((countLaw kind).settled run hdone).trans (sum_ones _)
  · have hsettled := outline.settled (maxAccount kind) run raised_initial
      fun phase hphase => by rw [hdone phase hphase]; rfl
    calc (p.shared.time kind).max.last.toNat
        = max ((maxAccount kind).sum ((PoolAction.calls as).map (maxAccount kind).worth)) 0 :=
          hsettled
      _ = (maxAccount kind).sum ((PoolAction.calls as).map (maxAccount kind).worth) :=
          Nat.max_zero _
      _ = longest kind as := (maxAccount kind).sum_map_elim ..

end Runs

/-- Two calls raise the maximum at the same time; the second one fails twice, once for no reason
and with an old value. -/
def raisingActions : List (PoolAction Call Access) :=
  [.call (updateProcessingTime 5), .call (updateProcessingTime 7), .call getMaxProcessingTimeMs,
    .thread 0 .modify, .thread 1 .modify, .thread 0 .modify, .thread 1 .modify,
    .thread 0 (.load 0), .thread 1 (.load 0), .thread 0 .modify, .thread 1 (.load 1),
    .thread 1 (.load 0), .thread 1 (.load 1), .thread 1 .modify, .thread 2 (.load 1)]

theorem isSome_raisingRun :
    (Machine.exec sessionMetrics.poolStep ⟨initial, []⟩ raisingActions).isSome = true := by
  decide

/-- What `raisingActions` lead to. -/
def raisingRun : Pool SessionMetrics Phase × List (ℕ × Reading) :=
  (Machine.exec sessionMetrics.poolStep ⟨initial, []⟩ raisingActions).get isSome_raisingRun

theorem metrics_settle_raising :
    (raisingRun.1.shared.time .processing).total.last = 12 ∧
      (raisingRun.1.shared.time .processing).count.last = 2 ∧
      (raisingRun.1.shared.time .processing).max.last.toNat = 7 := by
  have hdone : ∀ phase ∈ raisingRun.1.locals, phase = .returned := by decide
  obtain ⟨htotal, hcount, hmax⟩ :=
    ((metrics_settle (Machine.run_get isSome_raisingRun)).2 hdone).2 .processing
  exact ⟨htotal.trans (by decide), hcount.trans (by decide), hmax.trans (by decide)⟩

end SessionMetrics

end CppSim.Server
