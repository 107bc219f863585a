import CppSim.Library.Locks
import CppSim.Server.MetricsHistory

/-!
# The calls of the metrics collector

Any number of threads call the functions of `metrics_collector`, each under the mutexes that its
source takes: `record_error` goes through three critical sections, one after the other, and
`export_metrics` and `reset` hold `export_mutex_` while they go through one for each container.
Between two sections others may do theirs.

* `collector_accounts`: no count is lost or made twice.  What the counters hold, what resets took
  away and what the calls under way have yet to add is all that was counted.
* `export_excludes_reset`: while a call holds `export_mutex_` no other one reads or clears the
  collector for an export or a reset, and all calls that were made can return.
-/

namespace CppSim.Server

/-! ## The calls -/

inductive CollectorMutex
  | counters
  | gauges
  | timings
  | events
  | errors
  | export
  deriving DecidableEq

/-- The bodies of the critical sections. -/
inductive CollectorWork
  | incrementCounter (name : Text) (value : Int64)
  | setGauge (name : Text) (value : Double)
  | recordTiming (name : Text) (duration : Int64)
  | recordEvent (name : Text) (tags : List Text)
  | pushError (errorType details : Text)
  | getCounter (name : Text)
  | getGauge (name : Text)
  | exportSection (sec : ExportSection)
  /-- `export_metrics` returns the document. -/
  | dump
  | clear (sec : ExportSection)
  /-- `reset`: the new start time. -/
  | restart
  | getStartTime

inductive CollectorCall
  | incrementCounter (name : Text) (value : Int64)
  | setGauge (name : Text) (value : Double)
  | recordTiming (name : Text) (duration : Int64)
  | recordEvent (name : Text) (tags : List Text)
  | recordError (errorType details : Text)
  | exportMetrics
  | getCounter (name : Text)
  | getGauge (name : Text)
  | reset
  | getStartTime

/-- The readings of the clocks that a section may make. -/
structure Clocks where
  now : ℤ
  systemNow : ℤ

instance : Inhabited Clocks := ⟨⟨0, 0⟩⟩

/-- What is seen of a section. -/
inductive CollectorEvent
  | recorded
  | gotCounter (name : Text) (value : Int64)
  | gotGauge (name : Text) (value : Double)
  | exported (sec : ExportSection)
  | dumped (result : Text)
  /-- A container is cleared, which held this before. -/
  | cleared (sec : ExportSection) (before : MetricsCollector)
  | restarted
  | gotStartTime (startTime : ℤ)

namespace MetricsCollector

/-- `record_error`: its first critical section. -/
def pushError (m : MetricsCollector) (now : ℤ) (errorType details : Text) : MetricsCollector :=
  { m with errors := pushBounded m.errors ⟨now, errorType, details⟩ 500 }

/-- The three sections of `record_error` with nothing between them. -/
theorem recordError_eq (m : MetricsCollector) (now : ℤ) (errorType details : Text) :
    m.recordError now errorType details =
      ((m.pushError now errorType details).incrementCounter (text "errors.total") 1).incrementCounter
        (text "errors." ++ errorType) 1 := rfl

/-- `get_gauge`. -/
def getGauge (m : MetricsCollector) (name : Text) : Double :=
  (m.gauges.lookup name).getD (.finite 0)

/-- `reset`: one of its sections. -/
def clear (m : MetricsCollector) : ExportSection → MetricsCollector
  | .counters => { m with counters := ∅ }
  | .gauges => { m with gauges := ∅ }
  | .timings => { m with timings := ∅ }
  | .events => { m with events := [] }
  | .errors => { m with errors := [] }
  | .system => m

/-- The sections of `reset` with nothing between them. -/
theorem reset_eq (m : MetricsCollector) (now : ℤ) :
    m.reset now =
      { ([.counters, .gauges, .timings, .events, .errors] : List ExportSection).foldl clear m with
        startTime := now } := rfl

end MetricsCollector

/-- What a section does to the collector and to the document of the call. -/
def CollectorWork.run (dump : Json → Except Text Text) (m : MetricsCollector) (e : Exporter) :
    CollectorWork → Clocks → MetricsCollector × Exporter × List CollectorEvent
  | .incrementCounter name value, _ => (m.incrementCounter name value, e, [.recorded])
  | .setGauge name value, _ => (m.setGauge name value, e, [.recorded])
  | .recordTiming name duration, _ => (m.recordTiming name duration, e, [.recorded])
  | .recordEvent name tags, clocks => (m.recordEvent clocks.now name tags, e, [.recorded])
  | .pushError errorType details, clocks => (m.pushError clocks.now errorType details, e, [.recorded])
  | .getCounter name, _ => (m, e, [.gotCounter name (m.getCounter name)])
  | .getGauge name, _ => (m, e, [.gotGauge name (m.getGauge name)])
  | .exportSection sec, clocks =>
      (m, (e.next m clocks.now clocks.systemNow).getD e, [.exported sec])
  | .dump, _ => (m, e, [.dumped (Exporter.print dump e.jsonResult)])
  | .clear sec, _ => (m.clear sec, e, [.cleared sec m])
  | .restart, clocks => ({ m with startTime := clocks.now }, e, [.restarted])
  | .getStartTime, _ => (m, e, [.gotStartTime m.startTime])

/-- A scope of a `lock_guard`. -/
def lockGuard (m : CollectorMutex) (w : CollectorWork) : List (LockOp CollectorMutex CollectorWork) :=
  [.lock m, .work w, .unlock m]

/-- The functions of `metrics_collector`. -/
def CollectorCall.ops : CollectorCall → List (LockOp CollectorMutex CollectorWork)
  | .incrementCounter name value => lockGuard .counters (.incrementCounter name value)
  | .setGauge name value => lockGuard .gauges (.setGauge name value)
  | .recordTiming name duration => lockGuard .timings (.recordTiming name duration)
  | .recordEvent name tags => lockGuard .events (.recordEvent name tags)
  | .recordError errorType details =>
      lockGuard .errors (.pushError errorType details) ++
        lockGuard .counters (.incrementCounter (text "errors.total") 1) ++
        lockGuard .counters (.incrementCounter (text "errors." ++ errorType) 1)
  | .exportMetrics =>
      .lock .export ::
        (lockGuard .counters (.exportSection .counters) ++
          lockGuard .gauges (.exportSection .gauges) ++
          lockGuard .timings (.exportSection .timings) ++
          lockGuard .events (.exportSection .events) ++
          lockGuard .errors (.exportSection .errors) ++
          [.work (.exportSection .system), .work .dump, .unlock .export])
  | .getCounter name => lockGuard .counters (.getCounter name)
  | .getGauge name => lockGuard .gauges (.getGauge name)
  | .reset =>
      .lock .export ::
        (lockGuard .counters (.clear .counters) ++ lockGuard .gauges (.clear .gauges) ++
          lockGuard .timings (.clear .timings) ++ lockGuard .events (.clear .events) ++
          lockGuard .errors (.clear .errors) ++ [.work .restart, .unlock .export])
  | .getStartTime => lockGuard .export .getStartTime

/-- The threads that use the collector, where `dump` is `dump(2)`. -/
def collectorCalls (dump : Json → Except Text Text) :
    LockProgram CollectorMutex CollectorWork MetricsCollector Exporter CollectorCall Clocks
      CollectorEvent where
  ops := CollectorCall.ops
  vars _ := .begin
  run := CollectorWork.run dump

/-! ## The order of the mutexes -/

/-- `export_mutex_` is taken before any other. -/
def CollectorMutex.rank : CollectorMutex → ℕ
  | .export => 0
  | _ => 1

/-- The mutex of a container. -/
def ExportSection.mutex? : ExportSection → Option CollectorMutex
  | .counters => some .counters
  | .gauges => some .gauges
  | .timings => some .timings
  | .events => some .events
  | .errors => some .errors
  | .system => none

/-- The mutexes under which a section has to run. -/
def CollectorWork.needs : CollectorWork → List CollectorMutex
  | .incrementCounter _ _ | .getCounter _ => [.counters]
  | .setGauge _ _ | .getGauge _ => [.gauges]
  | .recordTiming _ _ => [.timings]
  | .recordEvent _ _ => [.events]
  | .pushError _ _ => [.errors]
  | .exportSection sec | .clear sec => .export :: sec.mutex?.toList
  | .dump | .restart | .getStartTime => [.export]

/-- Every function keeps to the order, and touches each member under its mutex. -/
def collectorDiscipline (dump : Json → Except Text Text) : LockDiscipline (collectorCalls dump) where
  rank := CollectorMutex.rank
  bound := 1
  rank_le m := by cases m <;> decide
  needs := CollectorWork.needs
  disciplined c := by
    cases c <;>
      simp [collectorCalls, CollectorCall.ops, lockGuard, LockProgram.Disciplined,
        CollectorWork.needs, ExportSection.mutex?, CollectorMutex.rank]

/-! ## Counts -/

/-- What a section adds to a counter. -/
def CollectorWork.adds (counter : Text) : CollectorWork → Int64
  | .incrementCounter name value => if counter = name then value else 0
  | _ => 0

/-- What an operation adds to a counter. -/
def addsTo (counter : Text) : LockOp CollectorMutex CollectorWork → Int64
  | .work w => w.adds counter
  | _ => 0

/-- What a call counts under a name: an error once under its type, and once in all. -/
def CollectorCall.counts (counter : Text) : CollectorCall → Int64
  | .incrementCounter name value => if counter = name then value else 0
  | .recordError errorType _ =>
      (if counter = text "errors.total" then 1 else 0) +
        if counter = text "errors." ++ errorType then 1 else 0
  | _ => 0

/-- What an event takes away from a counter. -/
def lostBy (counter : Text) : LockEvent CollectorMutex CollectorEvent → Int64
  | .did (.cleared .counters before) => before.getCounter counter
  | _ => 0

/-- What resets took away from a counter. -/
def lostCounts (counter : Text) (es : List (ℕ × LockEvent CollectorMutex CollectorEvent)) : Int64 :=
  (es.map fun e => lostBy counter e.2).sum

section Counts

variable {dump : Json → Except Text Text} {counter : Text} {i : ℕ}
  {s s' : LockState CollectorMutex MetricsCollector}
  {l l' : LockCall CollectorMutex CollectorWork Exporter}
  {fs : List (LockEvent CollectorMutex CollectorEvent)}
  {es : List (ℕ × LockEvent CollectorMutex CollectorEvent)}

@[simp] theorem addsTo_lock (m : CollectorMutex) : addsTo counter (.lock m) = 0 := rfl
@[simp] theorem addsTo_unlock (m : CollectorMutex) : addsTo counter (.unlock m) = 0 := rfl
@[simp] theorem addsTo_work (w : CollectorWork) : addsTo counter (.work w) = w.adds counter := rfl
@[simp] theorem lostBy_locked (m : CollectorMutex) : lostBy counter (.locked m) = 0 := rfl
@[simp] theorem lostBy_unlocked (m : CollectorMutex) : lostBy counter (.unlocked m) = 0 := rfl

theorem sum_addsTo_ops (c : CollectorCall) : (c.ops.map (addsTo counter)).sum = c.counts counter := by
  cases c <;> simp [CollectorCall.ops, lockGuard, CollectorWork.adds, CollectorCall.counts]

theorem lostCounts_concat (e : LockEvent CollectorMutex CollectorEvent) :
    lostCounts counter (es ++ [(i, e)]) = lostCounts counter es + lostBy counter e := by
  simp [lostCounts]

theorem getCounter_clear (m : MetricsCollector) (sec : ExportSection) :
    (m.clear sec).getCounter counter + lostBy counter (.did (.cleared sec m)) =
      m.getCounter counter := by
  cases sec with
  | counters => exact Int64.zero_add _
  | _ => exact Int64.add_zero _

/-- What a section adds to a counter, or takes away from it, is what is seen. -/
theorem counter_run (dump : Json → Except Text Text) (counter : Text) (m : MetricsCollector)
    (e : Exporter) (w : CollectorWork) (clocks : Clocks) :
    ∃ event, ((collectorCalls dump).run m e w clocks).2.2 = [event] ∧
      ((collectorCalls dump).run m e w clocks).1.getCounter counter + lostBy counter (.did event) =
        m.getCounter counter + w.adds counter := by
  cases w with
  | incrementCounter name value =>
      refine ⟨.recorded, rfl, ?_⟩
      calc (m.incrementCounter name value).getCounter counter + 0
          = (m.incrementCounter name value).getCounter counter := Int64.add_zero _
        _ = m.getCounter counter + if counter = name then value else 0 :=
          getCounter_incrementCounter ..
  | clear sec => exact ⟨_, rfl, (getCounter_clear m sec).trans (Int64.add_zero _).symm⟩
  | _ => exact ⟨_, rfl, rfl⟩

/-- A step pays to the counter what it takes off what the call has yet to add. -/
theorem pays_counter (h : (collectorCalls dump).Step i s l s' l' fs) :
    (l.todo.map (addsTo counter)).sum + (s.data.getCounter counter + lostCounts counter es) =
      (l'.todo.map (addsTo counter)).sum +
        (s'.data.getCounter counter + lostCounts counter (es ++ fs.map (i, ·))) := by
  cases h with
  | locked | unlocked => simp [lostCounts_concat]
  | @worked w todo vars clocks =>
      obtain ⟨event, hevent, hcounter⟩ := counter_run dump counter s.data vars w clocks
      rw [hevent, List.map_cons, List.sum_cons, addsTo_work, List.map_singleton,
        List.map_singleton, lostCounts_concat]
      generalize (todo.map (addsTo counter)).sum = rest
      calc w.adds counter + rest + (s.data.getCounter counter + lostCounts counter es)
          = rest + (s.data.getCounter counter + w.adds counter + lostCounts counter es) := by
            ac_rfl
        _ = rest + (((collectorCalls dump).run s.data vars w clocks).1.getCounter counter +
              lostBy counter (.did event) + lostCounts counter es) := by rw [hcounter]
        _ = rest + (((collectorCalls dump).run s.data vars w clocks).1.getCounter counter +
              (lostCounts counter es + lostBy counter (.did event))) := by ac_rfl

/-- The account of a counter. -/
def collectorAccount (dump : Json → Except Text Text) (counter : Text) :
    (collectorCalls dump).threads.Account LockDiscipline.Taken
      (fun i s l _ => ∃ held, (collectorDiscipline dump).Holding i s l held) Int64 where
  op := (· + ·)
  unit := 0
  assoc := Int64.add_assoc
  comm := Int64.add_comm
  unit_op := Int64.zero_add
  value s es := s.data.getCounter counter + lostCounts counter es
  owed l := (l.todo.map (addsTo counter)).sum
  worth c := c.counts counter
  enters c := sum_addsTo_ops c
  value_enter _ es _ _ := congrArg _ (congrArg _ (List.append_nil es))
  pays _ _ h := pays_counter (LockProgram.step_of_threads h)

end Counts

/-! ## Runs -/

/-- The collector before the first call. -/
def collectorStart (now : ℤ) : Pool (LockState CollectorMutex MetricsCollector)
    (LockCall CollectorMutex CollectorWork Exporter) :=
  ⟨LockDiscipline.start (.construct now), []⟩

/-- What the calls under way have yet to add to a counter. -/
def pendingCounts (counter : Text) (p : Pool (LockState CollectorMutex MetricsCollector)
    (LockCall CollectorMutex CollectorWork Exporter)) : Int64 :=
  (p.locals.map fun l => (l.todo.map (addsTo counter)).sum).sum

section Runs

variable {dump : Json → Except Text Text} {now : ℤ} {as : List (PoolAction CollectorCall Clocks)}
  {es : List (ℕ × LockEvent CollectorMutex CollectorEvent)}
  {p : Pool (LockState CollectorMutex MetricsCollector)
    (LockCall CollectorMutex CollectorWork Exporter)}

/-- **No count is lost or made twice.**  However the sections of the calls are interleaved, what a
counter holds, what resets took away from it and what the calls under way have yet to add make up
all that the calls count; once all have returned, nothing is left to add.  (Counters wrap.) -/
theorem collector_accounts (run : (collectorCalls dump).threads.machine.Run (collectorStart now) as
    es p) (counter : Text) :
    pendingCounts counter p + (p.shared.data.getCounter counter + lostCounts counter es) =
        ((PoolAction.calls as).map (CollectorCall.counts counter)).sum ∧
      ((∀ l ∈ p.locals, l.todo = []) → pendingCounts counter p = 0) := by
  refine ⟨?_, fun hdone => ?_⟩
  · have hstart : (MetricsCollector.construct now).getCounter counter + lostCounts counter [] = 0 :=
      rfl
    have hlaw := (collectorDiscipline dump).outline.conserved (collectorAccount dump counter) run
      fun _ _ howner => by cases howner
    have hsum : ∀ xs : List Int64, (collectorAccount dump counter).sum xs = xs.sum := fun _ => rfl
    rw [hsum, hsum] at hlaw
    calc pendingCounts counter p + (p.shared.data.getCounter counter + lostCounts counter es)
        = ((PoolAction.calls as).map (CollectorCall.counts counter)).sum +
            ((MetricsCollector.construct now).getCounter counter + lostCounts counter []) := hlaw
      _ = ((PoolAction.calls as).map (CollectorCall.counts counter)).sum := by
        rw [hstart, Int64.add_zero]
  · refine (collectorAccount dump counter).sum_eq_unit fun x hx => ?_
    obtain ⟨l, hl, rfl⟩ := List.mem_map.mp hx
    rw [hdone l hl]
    rfl

/-- What only the holder of `export_mutex_` does. -/
def CollectorEvent.NeedsExport : CollectorEvent → Prop
  | .exported _ | .dumped _ | .cleared _ _ | .restarted | .gotStartTime _ => True
  | _ => False

/-- **Exports and resets exclude each other, and the calls come to an end.**  From the step in
which a call takes `export_mutex_` to the one in which it gives it back, all that is exported,
cleared, or read of the start time is of this call.  A run has no more steps of calls than they
have operations, and in every state some schedule of the calls that were made brings all of them
to their end. -/
theorem export_excludes_reset (run : (collectorCalls dump).threads.machine.Run (collectorStart now)
    as es p) :
    (∀ before i after, es = before ++ (i, .locked .export) :: after →
      (i, .unlocked .export) ∉ after →
      ∀ j e, (j, .did e) ∈ after → e.NeedsExport → j = i) ∧
    as.countP LockDiscipline.isThread ≤ (as.map (LockDiscipline.added (collectorCalls dump))).sum ∧
    ∃ bs fs q, ((collectorCalls dump).threads.machine.restrict
        fun _ a => LockDiscipline.isThread a = true).Run p bs fs q ∧
      ∀ l ∈ q.locals, l.todo = [] := by
  have sound : (collectorDiscipline dump).Sound p :=
    ⟨es, (collectorDiscipline dump).outlined_of_run run⟩
  refine ⟨fun before i after hsplit hkept => ?_, ?_, sound.exists_returned⟩
  · have hneeds : ∀ d vars w x e, e ∈ ((collectorCalls dump).run d vars w x).2.2 →
        e.NeedsExport → CollectorMutex.export ∈ (collectorDiscipline dump).needs w := by
      intro d vars w x e he hexport
      cases w with
      | exportSection | clear => exact List.mem_cons_self
      | dump | restart | getStartTime => exact List.mem_singleton_self _
      | _ =>
          cases List.mem_singleton.mp he
          exact hexport.elim
    exact ((collectorDiscipline dump).exclusive_of_run run hneeds before i after hsplit hkept).2
  · have hstart : (collectorDiscipline dump).Sound (collectorStart now) :=
      ⟨[], (collectorDiscipline dump).outlined_of_run (.refl _)⟩
    have hdrained := (collectorDiscipline dump).drains.countP_le run hstart
    have hnothing : LockDiscipline.load (collectorStart now) = 0 := rfl
    omega

end Runs

/-- An error is recorded while another thread resets the collector: the reset clears the counters
after the total was counted and before the type is. -/
def resettingActions : List (PoolAction CollectorCall Clocks) :=
  let step (i : ℕ) : PoolAction CollectorCall Clocks := .thread i default
  .call (.recordError (text "io") (text "closed")) :: .call .reset ::
    (List.replicate 6 (step 0) ++ List.replicate 4 (step 1) ++ List.replicate 3 (step 0))

/-- A printer for which no text matters. -/
def dumpNothing (_ : Json) : Except Text Text := .ok []

theorem isSome_resettingRun :
    (Machine.exec (collectorCalls dumpNothing).threads.poolStep (collectorStart 0)
      resettingActions).isSome = true := by
  decide +kernel

/-- What `resettingActions` lead to: the error was recorded, and the reset holds its mutex. -/
def resettingRun : Pool (LockState CollectorMutex MetricsCollector)
    (LockCall CollectorMutex CollectorWork Exporter) ×
      List (ℕ × LockEvent CollectorMutex CollectorEvent) :=
  (Machine.exec (collectorCalls dumpNothing).threads.poolStep (collectorStart 0)
    resettingActions).get isSome_resettingRun

theorem collector_accounts_resetting :
    resettingRun.1.shared.data.getCounter (text "errors.total") = 0 ∧
      pendingCounts (text "errors.total") resettingRun.1 +
        (resettingRun.1.shared.data.getCounter (text "errors.total") +
          lostCounts (text "errors.total") resettingRun.2) = 1 := by
  have haccount :=
    (collector_accounts (Machine.run_get isSome_resettingRun) (text "errors.total")).1
  exact ⟨by decide +kernel, haccount.trans (by decide +kernel)⟩

theorem export_excludes_reset_resetting :
    ∃ bs fs q, ((collectorCalls dumpNothing).threads.machine.restrict
        fun _ a => LockDiscipline.isThread a = true).Run resettingRun.1 bs fs q ∧
      ∀ l ∈ q.locals, l.todo = [] :=
  (export_excludes_reset (Machine.run_get isSome_resettingRun)).2.2

end CppSim.Server
