import CppSim.Library.Drain

/-!
# The process

`main` creates the server, starts the thread that exports the metrics if they are enabled, and
runs the event loop until SIGINT or SIGTERM comes or a handler throws.  The handler of the signal
tells the thread to stop and stops the loop; then `main` joins the thread and returns.

An exception may be thrown anywhere in the `try` block of `main`, the handler of the signal, the
join and the last line of the log included; it may be thrown by an export, by a `catch` clause,
which puts a line together, or in a function declared `noexcept`.

`shutdown_completes` says that from the signal on the process needs no more than a few steps: the
thread ends one more sleep or export at most, and unless something is thrown `main` returns
`EXIT_SUCCESS` after it.  `unwinding_terminates` says what an exception leads to instead.  If it
leaves the event loop while the thread runs, the destructor of the `std::thread` calls
`std::terminate`, and the `catch` clauses of `main` are never reached.
-/

namespace CppSim.Server

/-- Where `main` is. -/
inductive MainPhase
  /-- The configuration, and the constructor of the server. -/
  | starting
  /-- The signals, and the metrics thread. -/
  | constructed
  /-- `ioc.run()`. -/
  | serving
  /-- The handler of the signal, after `running = false`. -/
  | signalled
  /-- `ioc.run()` has returned. -/
  | stopped
  | joined
  | returned (success : Bool)
  | terminated
  deriving DecidableEq

/-- Where the metrics thread is. -/
inductive MetricsThread
  | notStarted
  /-- `while (running)`. -/
  | whileTest
  /-- `i < 30 && running`. -/
  | forTest (i : ℕ)
  | sleeping (i : ℕ)
  /-- `if (!running) break`. -/
  | ifTest
  | exporting
  | finished
  deriving DecidableEq

structure Process where
  main : MainPhase
  thread : MetricsThread
  running : Bool
  deriving DecidableEq

inductive ProcessAction
  | construct
  /-- The metrics are enabled or not. -/
  | startThread (enabled : Bool)
  | signal
  | stopLoop
  | join
  | finish
  /-- The metrics thread goes on; an export may throw, which the `catch` clause logs. -/
  | thread (exportThrows : Bool)
  /-- An exception in the `try` block of `main`; `caught` says that the `catch` clause, if it
  comes to one, runs to its end. -/
  | throw (caught : Bool)
  /-- An exception leaves the metrics thread: the `catch` clause does not apply to it, or is where
  it comes from. -/
  | escape
  /-- An exception comes to the end of a function declared `noexcept`. -/
  | abort
  deriving DecidableEq

inductive ProcessEvent
  | signalled
  | slept
  | exported
  | exportFailed
  | joined
  | serverStopped
  | threw
  /-- The `catch` clause of `main` threw. -/
  | uncaught
  | escaped
  | aborted
  deriving DecidableEq

/-- An exception that is not one of those the metrics thread logs. -/
def ProcessEvent.fails : ProcessEvent → Bool
  | .threw | .uncaught | .escaped | .aborted => true
  | _ => false

namespace Process

def initial : Process := ⟨.starting, .notStarted, true⟩

/-- The metrics thread. -/
def threadStep (running exportThrows : Bool) :
    MetricsThread → Option (MetricsThread × List ProcessEvent)
  | .notStarted | .finished => none
  | .whileTest => some (if running then .forTest 0 else .finished, [])
  | .forTest i => some (if i < 30 ∧ running = true then .sleeping i else .ifTest, [])
  | .sleeping i => some (.forTest (i + 1), [.slept])
  | .ifTest => some (if running then .exporting else .finished, [])
  | .exporting => some (.whileTest, [if exportThrows then .exportFailed else .exported])

/-- `main` has returned, or `std::terminate` was called. -/
def ended (p : Process) : Bool :=
  p.main == .terminated || p.main == .returned true || p.main == .returned false

/-- `metrics_thread.joinable()`. -/
def joinable (p : Process) : Bool := p.thread != .notStarted && p.main != .joined

/-- An exception on its way to the `catch` clauses: `metrics_thread` is destroyed. -/
def unwind (p : Process) (caught : Bool) : MainPhase × List ProcessEvent :=
  if p.joinable then (.terminated, [.threw])
  else if caught then (.returned false, [.threw])
  else (.terminated, [.threw, .uncaught])

/-- One step of the process. -/
def step (p : Process) : ProcessAction → Option (Process × List ProcessEvent)
  | .construct =>
      if p.main = .starting then some ({ p with main := .constructed }, []) else none
  | .startThread enabled =>
      if p.main = .constructed then
        some (if enabled then { p with main := .serving, thread := .whileTest }
          else { p with main := .serving }, [])
      else none
  | .signal =>
      if p.main = .serving then
        some ({ p with main := .signalled, running := false }, [.signalled])
      else none
  | .stopLoop => if p.main = .signalled then some ({ p with main := .stopped }, []) else none
  | .join =>
      if p.main = .stopped ∧ (p.thread = .notStarted ∨ p.thread = .finished) then
        some ({ p with main := .joined }, [.joined])
      else none
  | .finish =>
      if p.main = .joined then some ({ p with main := .returned true }, [.serverStopped]) else none
  | .thread exportThrows =>
      if p.ended then none
      else (threadStep p.running exportThrows p.thread).map fun next =>
        ({ p with thread := next.1 }, next.2)
  | .throw caught =>
      if p.ended then none
      else some ({ p with main := (p.unwind caught).1 }, (p.unwind caught).2)
  | .escape =>
      if p.thread = .exporting then
        if p.ended then none
        else some ({ p with main := .terminated, thread := .finished }, [.escaped])
      else none
  | .abort => if p.ended then none else some ({ p with main := .terminated }, [.aborted])

end Process

/-- The machine of the process. -/
def process : Machine Process ProcessAction ProcessEvent := Machine.ofStep Process.step

namespace Process

/-- The cases of a step of the metrics thread. -/
inductive ThreadStep (running : Bool) : MetricsThread → MetricsThread → List ProcessEvent → Prop
  | enter (hrunning : running = true) : ThreadStep running .whileTest (.forTest 0) []
  | leave (hstopped : running = false) : ThreadStep running .whileTest .finished []
  | sleep {i : ℕ} (hrunning : running = true) : ThreadStep running (.forTest i) (.sleeping i) []
  | wake (i : ℕ) : ThreadStep running (.sleeping i) (.forTest (i + 1)) [.slept]
  | ended (i : ℕ) : ThreadStep running (.forTest i) .ifTest []
  | proceed (hrunning : running = true) : ThreadStep running .ifTest .exporting []
  | quit (hstopped : running = false) : ThreadStep running .ifTest .finished []
  | export (e : ProcessEvent) (he : e = .exported ∨ e = .exportFailed) :
      ThreadStep running .exporting .whileTest [e]

/-- The cases of a step. -/
inductive Step (p : Process) : Process → List ProcessEvent → Prop
  | constructed (hmain : p.main = .starting) : Step p { p with main := .constructed } []
  | serving (hmain : p.main = .constructed) : Step p { p with main := .serving } []
  | started (hmain : p.main = .constructed) :
      Step p { p with main := .serving, thread := .whileTest } []
  | signalled (hmain : p.main = .serving) :
      Step p { p with main := .signalled, running := false } [.signalled]
  | stopped (hmain : p.main = .signalled) : Step p { p with main := .stopped } []
  | joined (hmain : p.main = .stopped) (hthread : p.thread = .notStarted ∨ p.thread = .finished) :
      Step p { p with main := .joined } [.joined]
  | finished (hmain : p.main = .joined) :
      Step p { p with main := .returned true } [.serverStopped]
  | thread {next : MetricsThread} {es : List ProcessEvent} (hlive : p.ended = false)
      (hstep : ThreadStep p.running p.thread next es) : Step p { p with thread := next } es
  | unwound (hlive : p.ended = false) (hjoinable : p.joinable = true) :
      Step p { p with main := .terminated } [.threw]
  | caught (hlive : p.ended = false) (hjoinable : p.joinable = false) :
      Step p { p with main := .returned false } [.threw]
  | uncaught (hlive : p.ended = false) (hjoinable : p.joinable = false) :
      Step p { p with main := .terminated } [.threw, .uncaught]
  | escaped (hlive : p.ended = false) (hthread : p.thread = .exporting) :
      Step p { p with main := .terminated, thread := .finished } [.escaped]
  | aborted (hlive : p.ended = false) : Step p { p with main := .terminated } [.aborted]

theorem threadStep_cases {running exportThrows : Bool} {thread next : MetricsThread}
    {es : List ProcessEvent} (h : threadStep running exportThrows thread = some (next, es)) :
    ThreadStep running thread next es := by
  cases thread with
  | notStarted | finished => cases h
  | whileTest =>
      cases h
      cases running with
      | true => exact .enter rfl
      | false => exact .leave rfl
  | forTest i =>
      cases h
      split
      · rename_i htest
        exact .sleep htest.2
      · exact .ended i
  | sleeping i =>
      cases h
      exact .wake i
  | ifTest =>
      cases h
      cases running with
      | true => exact .proceed rfl
      | false => exact .quit rfl
  | exporting =>
      cases h
      cases exportThrows with
      | true => exact .export _ (.inr rfl)
      | false => exact .export _ (.inl rfl)

theorem step_cases {p q : Process} {a : ProcessAction} {es : List ProcessEvent}
    (h : process.step p a es q) : p.Step q es := by
  replace h : p.step a = some (q, es) := h
  cases a with
  | construct =>
      obtain ⟨hmain, h⟩ := Option.ite_none_right_eq_some.mp h
      cases h
      exact .constructed hmain
  | startThread enabled =>
      obtain ⟨hmain, h⟩ := Option.ite_none_right_eq_some.mp h
      cases enabled <;> cases h
      · exact .serving hmain
      · exact .started hmain
  | signal =>
      obtain ⟨hmain, h⟩ := Option.ite_none_right_eq_some.mp h
      cases h
      exact .signalled hmain
  | stopLoop =>
      obtain ⟨hmain, h⟩ := Option.ite_none_right_eq_some.mp h
      cases h
      exact .stopped hmain
  | join =>
      obtain ⟨⟨hmain, hthread⟩, h⟩ := Option.ite_none_right_eq_some.mp h
      cases h
      exact .joined hmain hthread
  | finish =>
      obtain ⟨hmain, h⟩ := Option.ite_none_right_eq_some.mp h
      cases h
      exact .finished hmain
  | thread exportThrows =>
      obtain ⟨hlive, h⟩ := Option.ite_none_left_eq_some.mp h
      obtain ⟨⟨next, fs⟩, hnext, h⟩ := Option.map_eq_some_iff.mp h
      cases h
      exact .thread (by simpa using hlive) (threadStep_cases hnext)
  | throw caught =>
      obtain ⟨hlive, h⟩ := Option.ite_none_left_eq_some.mp h
      rw [Bool.not_eq_true] at hlive
      unfold unwind at h
      cases hjoinable : p.joinable with
      | true =>
          rw [if_pos hjoinable] at h
          cases h
          exact .unwound hlive hjoinable
      | false =>
          rw [if_neg (by simp [hjoinable])] at h
          cases caught <;> cases h
          · exact .uncaught hlive hjoinable
          · exact .caught hlive hjoinable
  | escape =>
      obtain ⟨hthread, h⟩ := Option.ite_none_right_eq_some.mp h
      obtain ⟨hlive, h⟩ := Option.ite_none_left_eq_some.mp h
      cases h
      exact .escaped (by simpa using hlive) hthread
  | abort =>
      obtain ⟨hlive, h⟩ := Option.ite_none_left_eq_some.mp h
      cases h
      exact .aborted (by simpa using hlive)

end Process

/-! ## Shutdown -/

/-- The thread was never started or has returned. -/
def MetricsThread.Over (thread : MetricsThread) : Prop :=
  thread = .notStarted ∨ thread = .finished

/-- From the signal on, the steps the thread still takes. -/
def MetricsThread.load : MetricsThread → ℕ
  | .sleeping _ => 3
  | .forTest _ | .exporting => 2
  | .whileTest | .ifTest => 1
  | .notStarted | .finished => 0

theorem MetricsThread.load_le (thread : MetricsThread) : thread.load ≤ 3 := by
  cases thread <;> simp [MetricsThread.load]

/-- The sleep or the export the thread is in. -/
def MetricsThread.pending : MetricsThread → ℕ
  | .sleeping _ | .exporting => 1
  | .forTest _ | .whileTest | .ifTest | .notStarted | .finished => 0

theorem MetricsThread.pending_le (thread : MetricsThread) : thread.pending ≤ 1 := by
  cases thread <;> simp [MetricsThread.pending]

/-- From the signal on, the steps `main` still takes. -/
def MainPhase.load : MainPhase → ℕ
  | .starting | .constructed | .serving => 4
  | .signalled => 3
  | .stopped => 2
  | .joined => 1
  | .returned _ | .terminated => 0

/-- The end of a sleep or of an export. -/
def ProcessEvent.late : ProcessEvent → Bool
  | .slept | .exported | .exportFailed | .escaped => true
  | _ => false

namespace Process

def load (p : Process) : ℕ := p.main.load + p.thread.load

/-- The process has been signalled. -/
structure ShuttingDown (p : Process) : Prop where
  running : p.running = false
  main : p.ended = true ∨ p.main = .signalled ∨ p.main = .stopped ∨
    p.main = .joined ∧ p.thread.Over
  threadOver : p.main = .returned true → p.thread.Over

/-- `main` has returned `EXIT_SUCCESS`, and the thread before it. -/
def Over (p : Process) : Prop :=
  p.main = .returned true ∧ p.thread.Over

variable {p q r : Process} {a : ProcessAction} {as bs : List ProcessAction}
  {es fs gs : List ProcessEvent}

theorem ThreadStep.not_over {running : Bool} {thread next : MetricsThread}
    (h : ThreadStep running thread next es) : ¬ thread.Over := by
  cases h <;> simp [MetricsThread.Over]

/-- Once `running` is false, each step of the thread brings it nearer to its end. -/
theorem ThreadStep.load_lt {thread next : MetricsThread} (h : ThreadStep false thread next es) :
    next.load < thread.load := by
  cases h with
  | enter hrunning | sleep hrunning | proceed hrunning => cases hrunning
  | leave | wake | ended | quit | «export» => simp [MetricsThread.load]

/-- Once `running` is false, the thread neither begins a sleep nor an export. -/
theorem ThreadStep.pending_le {thread next : MetricsThread}
    (h : ThreadStep false thread next es) :
    es.countP ProcessEvent.late + next.pending ≤ thread.pending := by
  cases h with
  | enter hrunning | sleep hrunning | proceed hrunning => cases hrunning
  | leave | wake | ended | quit => simp [MetricsThread.pending, ProcessEvent.late]
  | «export» e he => obtain rfl | rfl := he <;> simp [MetricsThread.pending, ProcessEvent.late]

theorem main_load_pos (hlive : p.ended = false) : 0 < p.main.load := by
  unfold ended at hlive
  cases hmain : p.main with
  | returned success => cases success <;> simp [hmain] at hlive
  | terminated => simp [hmain] at hlive
  | _ => simp [MainPhase.load]

/-- What a step does from the signal on: it keeps the shutdown going, takes one step off what
remains, and ends a sleep or an export only if the thread is in it. -/
theorem ShuttingDown.step (down : p.ShuttingDown) (h : p.Step q es) :
    q.ShuttingDown ∧ q.load < p.load ∧
      es.countP ProcessEvent.late + q.thread.pending ≤ p.thread.pending := by
  obtain ⟨hrunning, hmain, hover⟩ := down
  cases h with
  | constructed hphase | serving hphase | started hphase | signalled hphase =>
      simp [hphase, ended] at hmain
  | stopped hphase =>
      exact ⟨⟨hrunning, .inr (.inr (.inl rfl)), by simp⟩, by simp [load, hphase, MainPhase.load],
        by simp⟩
  | joined hphase hthread =>
      exact ⟨⟨hrunning, .inr (.inr (.inr ⟨rfl, hthread⟩)), by simp⟩,
        by simp [load, hphase, MainPhase.load], by simp [ProcessEvent.late]⟩
  | finished hphase =>
      have hthread : p.thread.Over := by simpa [hphase, ended] using hmain
      exact ⟨⟨hrunning, .inl rfl, fun _ => hthread⟩, by simp [load, hphase, MainPhase.load],
        by simp [ProcessEvent.late]⟩
  | thread hlive hstep =>
      rw [hrunning] at hstep
      -- `main` has not joined the thread yet
      have hmain : p.main = .signalled ∨ p.main = .stopped := by
        obtain hended | hmain | hmain | ⟨-, hover⟩ := hmain
        · exact absurd hended (by simp [hlive])
        · exact .inl hmain
        · exact .inr hmain
        · exact absurd hover hstep.not_over
      have hlt := hstep.load_lt
      refine ⟨⟨hrunning, .inr (hmain.imp_right .inl), fun hreturned => ?_⟩, by simpa [load] using hlt,
        hstep.pending_le⟩
      rw [show p.main = .returned true from hreturned] at hmain
      simp at hmain
  | unwound hlive | caught hlive | uncaught hlive | aborted hlive =>
      have hpos := main_load_pos hlive
      exact ⟨⟨hrunning, .inl rfl, by simp⟩, by simpa [load, MainPhase.load] using hpos,
        by simp [ProcessEvent.late]⟩
  | escaped hlive hthread =>
      have hpos := main_load_pos hlive
      exact ⟨⟨hrunning, .inl rfl, by simp⟩, Nat.add_pos_left hpos _,
        by simp [hthread, ProcessEvent.late, MetricsThread.pending]⟩

theorem drains_shuttingDown :
    process.Drains ShuttingDown (fun _ => true) load (fun _ => 0) where
  keeps down h := (down.step (step_cases h)).1
  works down h _ := (down.step (step_cases h)).2.1
  adds _ _ hwork := by simp at hwork

/-- The metrics thread is stopped only by its own end. -/
theorem exists_threadStep (running : Bool) {thread : MetricsThread} (hthread : ¬ thread.Over) :
    ∃ next, threadStep running false thread = some next := by
  cases thread with
  | notStarted => exact absurd (.inl rfl) hthread
  | finished => exact absurd (.inr rfl) hthread
  | whileTest | forTest | sleeping | ifTest | exporting => exact ⟨_, rfl⟩

/-- Until the process has ended, some step of it is possible, and one in which nothing is
thrown. -/
theorem ShuttingDown.exists_step (down : p.ShuttingDown) (hlive : p.ended = false) :
    ∃ a es q, process.step p a es q ∧ q.main ≠ .terminated ∧ q.main ≠ .returned false := by
  obtain hended | hmain | hmain | ⟨hmain, hthread⟩ := down.main
  · exact absurd hended (by simp [hlive])
  · exact ⟨.stopLoop, _, _, if_pos hmain, by simp, by simp⟩
  · by_cases hthread : p.thread.Over
    · exact ⟨.join, _, _, if_pos ⟨hmain, hthread⟩, by simp, by simp⟩
    · obtain ⟨next, hnext⟩ := exists_threadStep p.running hthread
      refine ⟨.thread false, next.2, { p with thread := next.1 }, ?_, by simp [hmain],
        by simp [hmain]⟩
      change Process.step p (.thread false) = _
      simp [Process.step, hlive, hnext]
  · exact ⟨.finish, _, _, if_pos hmain, by simp, by simp⟩

/-- A process that has ended takes no step. -/
theorem Step.live (h : p.Step q es) : p.ended = false := by
  cases h with
  | constructed hmain | serving hmain | started hmain | signalled hmain | stopped hmain
  | joined hmain | finished hmain => simp [ended, hmain]
  | thread hlive | unwound hlive | caught hlive | uncaught hlive | escaped hlive | aborted hlive =>
      exact hlive

/-- Only what is thrown keeps `main` from returning `EXIT_SUCCESS`. -/
theorem Step.main_of_quiet (h : p.Step q es) (hquiet : ∀ e ∈ es, e.fails = false)
    (hmain : p.main ≠ .terminated ∧ p.main ≠ .returned false) :
    q.main ≠ .terminated ∧ q.main ≠ .returned false := by
  cases h with
  | unwound | caught | uncaught | escaped | aborted => simp [ProcessEvent.fails] at hquiet
  | thread => exact hmain
  | _ => simp

/-- What remains of a shutdown that has begun. -/
theorem ShuttingDown.run (down : p.ShuttingDown) (run : process.Run p as es q) :
    q.ShuttingDown ∧ as.length + q.load ≤ p.load ∧
      es.countP ProcessEvent.late + q.thread.pending ≤ p.thread.pending := by
  refine ⟨drains_shuttingDown.inv run down, ?_, ?_⟩
  · simpa [List.countP_true] using drains_shuttingDown.countP_le run down
  · induction run with
    | refl => simp
    | @tail t u as a es es' before h ih =>
        have hmid := drains_shuttingDown.inv before down
        have hlast := (hmid.step (step_cases h)).2.2
        rw [List.countP_append]
        omega

theorem main_of_quiet_run (run : process.Run p as es q) (hquiet : ∀ e ∈ es, e.fails = false)
    (hmain : p.main ≠ .terminated ∧ p.main ≠ .returned false) :
    q.main ≠ .terminated ∧ q.main ≠ .returned false := by
  induction run with
  | refl => exact hmain
  | tail before h ih =>
      rw [List.forall_mem_append] at hquiet
      exact (step_cases h).main_of_quiet hquiet.2 (ih hquiet.1)

/-- A process that has ended without an exception is over. -/
theorem ShuttingDown.over_of_ended (down : p.ShuttingDown)
    (hmain : p.main ≠ .terminated ∧ p.main ≠ .returned false) (hended : p.ended = true) :
    p.Over := by
  have hreturned : p.main = .returned true := by simpa [ended, hmain] using hended
  exact ⟨hreturned, down.threadOver hreturned⟩

/-- A shutdown in which nothing has been thrown can be carried to its end. -/
theorem ShuttingDown.exists_over (down : p.ShuttingDown)
    (hmain : p.main ≠ .terminated ∧ p.main ≠ .returned false) :
    ∃ as es q, process.Run p as es q ∧ q.Over := by
  induction hload : p.load using Nat.strongRecOn generalizing p with
  | ind n ih =>
      cases hended : p.ended with
      | true => exact ⟨[], [], p, .refl p, down.over_of_ended hmain hended⟩
      | false =>
          obtain ⟨a, es, q, h, hquiet⟩ := down.exists_step hended
          obtain ⟨down', hlt, -⟩ := down.step (step_cases h)
          obtain ⟨bs, fs, r, rest, hover⟩ := ih q.load (hload ▸ hlt) down' hquiet rfl
          exact ⟨_, _, r, (Machine.Run.single h).trans rest, hover⟩

/-- What the signal leaves to be done. -/
theorem signal_cases (h : process.step p .signal es q) :
    q.ShuttingDown ∧ q.load ≤ 6 ∧ q.thread.pending ≤ 1 ∧ q.main = .signalled := by
  replace h : p.step .signal = some (q, es) := h
  obtain ⟨-, h⟩ := Option.ite_none_right_eq_some.mp h
  cases h
  exact ⟨⟨rfl, .inr (.inl rfl), by simp⟩, Nat.add_le_add_left p.thread.load_le 3,
    p.thread.pending_le, rfl⟩

end Process

open Process in
/-- From the signal on the process takes six more steps at most, and its metrics thread ends
one sleep or one export at most, whatever is thrown; it goes on for as long as it has not ended.
Unless something is thrown, it ends by returning `EXIT_SUCCESS` after the thread, and it can
always come to that. -/
theorem shutdown_completes {p q r : Process} {as : List ProcessAction}
    {es fs : List ProcessEvent} (signal : process.step p .signal es q)
    (run : process.Run q as fs r) :
    as.length ≤ 6 ∧ fs.countP ProcessEvent.late ≤ 1 ∧
      ((∃ a gs s, process.step r a gs s) ↔ r.ended = false) ∧
      ((∀ e ∈ fs, e.fails = false) → (r.ended = true ↔ r.Over) ∧
        ∃ bs gs s, process.Run r bs gs s ∧ s.Over) := by
  obtain ⟨hdown, hload, hpending, hsignalled⟩ := signal_cases signal
  obtain ⟨down, hlength, hlate⟩ := hdown.run run
  refine ⟨by omega, by omega, ⟨?_, ?_⟩, fun hquiet => ?_⟩
  · rintro ⟨a, gs, s, h⟩
    exact (step_cases h).live
  · intro hlive
    obtain ⟨a, gs, s, h, -⟩ := down.exists_step hlive
    exact ⟨a, gs, s, h⟩
  · have hmain := main_of_quiet_run run hquiet (by simp [hsignalled])
    refine ⟨⟨down.over_of_ended hmain, fun hover => ?_⟩, down.exists_over hmain⟩
    simp [ended, hover.1]

/-- The metrics thread is in its first sleep when the signal comes. -/
def signalledActions : List ProcessAction :=
  [.construct, .startThread true, .thread false, .thread false]

/-- The thread wakes, leaves both loops, and `main` returns. -/
def shutdownActions : List ProcessAction :=
  [.thread false, .stopLoop, .thread false, .thread false, .join, .finish]

theorem isSome_signalledRun :
    (Machine.exec Process.step Process.initial signalledActions).isSome = true := by
  decide

/-- The process that is about to receive the signal. -/
def signalledProcess : Process × List ProcessEvent :=
  (Machine.exec Process.step Process.initial signalledActions).get isSome_signalledRun

theorem isSome_shutdownRun :
    (Machine.exec Process.step { signalledProcess.1 with main := .signalled, running := false }
      shutdownActions).isSome = true := by
  decide

theorem shutdown_completes_sleeping :
    ∃ fs r, process.Run { signalledProcess.1 with main := .signalled, running := false }
        shutdownActions fs r ∧
      r.Over ∧ fs.countP ProcessEvent.late = 1 ∧ ∀ a gs s, ¬ process.step r a gs s := by
  have hstep : process.step signalledProcess.1 .signal [.signalled]
      { signalledProcess.1 with main := .signalled, running := false } := by
    change Process.step _ _ = _
    decide
  obtain ⟨-, -, hsteps, hquiet⟩ := shutdown_completes hstep (Machine.run_get isSome_shutdownRun)
  refine ⟨_, _, Machine.run_get isSome_shutdownRun, ?_, by decide, fun a gs s h => ?_⟩
  · exact (hquiet (by decide)).1.mp (by decide)
  · exact absurd (hsteps.mp ⟨a, gs, s, h⟩) (by decide)

/-! ## Exceptions -/

namespace Process

/-- Nothing was thrown that the metrics thread does not log. -/
def Quiet (es : List ProcessEvent) : Prop := ∀ e ∈ es, e.fails = false

/-- What the phase of `main` says about the thread and about the run so far. -/
def Recorded (p : Process) (es : List ProcessEvent) : Prop :=
  match p.main with
  | .starting | .constructed => Quiet es ∧ .joined ∉ es ∧ p.thread = .notStarted
  | .serving => Quiet es ∧ .joined ∉ es
  | .signalled | .stopped => Quiet es ∧ .joined ∉ es ∧ .signalled ∈ es
  | .joined => Quiet es ∧ .joined ∈ es ∧ .signalled ∈ es ∧ p.thread.Over
  | .returned true => Quiet es ∧ .signalled ∈ es ∧ p.thread.Over
  | .returned false =>
      .threw ∈ es ∧ .uncaught ∉ es ∧ .escaped ∉ es ∧ .aborted ∉ es ∧
        (p.thread = .notStarted ∨ .joined ∈ es)
  | .terminated =>
      .threw ∉ es ∧ .uncaught ∉ es ∧ (.escaped ∈ es ∨ .aborted ∈ es) ∨
        .threw ∈ es ∧ (.uncaught ∈ es ∨ p.thread ≠ .notStarted ∧ .joined ∉ es)

variable {p q : Process} {es fs : List ProcessEvent}

theorem Quiet.notMem {e : ProcessEvent} (hquiet : Quiet es) (hfails : e.fails = true) : e ∉ es :=
  fun hmem => by simp [hquiet e hmem] at hfails

theorem Quiet.failures (hquiet : Quiet es) :
    .threw ∉ es ∧ .uncaught ∉ es ∧ .escaped ∉ es ∧ .aborted ∉ es :=
  ⟨hquiet.notMem rfl, hquiet.notMem rfl, hquiet.notMem rfl, hquiet.notMem rfl⟩

@[simp] theorem quiet_append : Quiet (es ++ fs) ↔ Quiet es ∧ Quiet fs := List.forall_mem_append

@[simp] theorem quiet_singleton {e : ProcessEvent} : Quiet [e] ↔ e.fails = false :=
  List.forall_mem_singleton

/-- The run of a process that has not ended. -/
theorem Recorded.live (h : p.Recorded es) (hlive : p.ended = false) :
    Quiet es ∧ (p.joinable = false → p.thread = .notStarted ∨ .joined ∈ es) ∧
      (p.joinable = true → p.thread ≠ .notStarted ∧ .joined ∉ es) := by
  unfold Recorded at h
  unfold ended at hlive
  cases hmain : p.main with
  | returned success => cases success <;> simp [hmain] at hlive
  | terminated => simp [hmain] at hlive
  | starting | constructed | serving | signalled | stopped =>
      simp only [hmain] at h
      simp [joinable, hmain, h]
  | joined =>
      simp only [hmain] at h
      simp [joinable, hmain, h]

theorem ThreadStep.silent {running : Bool} {thread next : MetricsThread}
    (h : ThreadStep running thread next es) : Quiet es ∧ .signalled ∉ es ∧ .joined ∉ es := by
  cases h with
  | enter | leave | sleep | wake | ended | proceed | quit => simp [Quiet, ProcessEvent.fails]
  | «export» e he => obtain rfl | rfl := he <;> simp [Quiet, ProcessEvent.fails]

theorem Recorded.step (h : p.Recorded es) (hstep : p.Step q fs) : q.Recorded (es ++ fs) := by
  cases hstep with
  | constructed hmain | serving hmain | started hmain | signalled hmain | stopped hmain
  | joined hmain hthread | finished hmain =>
      simp only [Recorded, hmain] at h
      simp_all [Recorded, MetricsThread.Over, ProcessEvent.fails]
  | thread hlive hstep =>
      obtain ⟨hquiet, hsignalled, hjoined⟩ := hstep.silent
      have hthread := hstep.not_over
      unfold Recorded at h ⊢
      unfold ended at hlive
      cases hmain : p.main with
      | starting | constructed =>
          -- the thread runs only when `main` has started it
          simp only [hmain] at h
          exact absurd (.inl h.2.2) hthread
      | serving | signalled | stopped =>
          simp only [hmain] at h
          simp [h, hquiet, hjoined]
      | joined =>
          simp only [hmain] at h
          exact absurd h.2.2.2 hthread
      | returned success => cases success <;> simp [hmain] at hlive
      | terminated => simp [hmain] at hlive
  | unwound hlive hjoinable =>
      obtain ⟨-, -, hthread⟩ := h.live hlive
      obtain ⟨hstarted, hjoined⟩ := hthread hjoinable
      exact .inr ⟨by simp, .inr ⟨hstarted, by simpa using hjoined⟩⟩
  | caught hlive hjoinable =>
      obtain ⟨hquiet, hthread, -⟩ := h.live hlive
      refine ⟨by simp, ?_, ?_, ?_, ?_⟩
      · simpa using hquiet.notMem rfl
      · simpa using hquiet.notMem rfl
      · simpa using hquiet.notMem rfl
      · simpa using hthread hjoinable
  | uncaught => exact .inr ⟨by simp, .inl (by simp)⟩
  | escaped hlive | aborted hlive =>
      obtain ⟨hquiet, -⟩ := h.live hlive
      refine .inl ⟨?_, ?_, by simp⟩
      · simpa using hquiet.notMem rfl
      · simpa using hquiet.notMem rfl

theorem recorded_of_run {as : List ProcessAction} (run : process.Run initial as es p) :
    p.Recorded es :=
  run.invariant (I := Recorded) ⟨by simp [Quiet], by simp, rfl⟩
    fun _ _ _ _ _ h hstep => h.step (step_cases hstep)

end Process

open Process in
/-- Each end of the process and what led to it.  It ends with `std::terminate` if an exception
leaves a `noexcept` function, the metrics thread or a `catch` clause of `main`, or if one is thrown
in the `try` block while the metrics thread is started and not joined, even one that a `catch`
clause is there for; with `EXIT_FAILURE` if an exception comes to a `catch` clause that runs to its
end; and `EXIT_SUCCESS` is returned after a signal only, when nothing was thrown and the thread is
over. -/
theorem unwinding_terminates {as : List ProcessAction} {es : List ProcessEvent} {p : Process}
    (run : process.Run initial as es p) :
    (p.main = .terminated ↔ .aborted ∈ es ∨ .escaped ∈ es ∨ .uncaught ∈ es ∨
      .threw ∈ es ∧ p.thread ≠ .notStarted ∧ .joined ∉ es) ∧
      (p.main = .returned false ↔
        .threw ∈ es ∧ .uncaught ∉ es ∧ (p.thread = .notStarted ∨ .joined ∈ es)) ∧
      (p.main = .returned true →
        .signalled ∈ es ∧ (∀ e ∈ es, e.fails = false) ∧ p.thread.Over) := by
  have h := recorded_of_run run
  unfold Recorded at h
  cases hmain : p.main with
  | starting | constructed | serving | signalled | stopped | joined =>
      simp only [hmain] at h
      obtain ⟨hthrew, huncaught, hescaped, haborted⟩ := h.1.failures
      simp [hthrew, huncaught, hescaped, haborted]
  | terminated =>
      simp only [hmain] at h
      refine ⟨iff_of_true rfl (by tauto), iff_of_false (by simp) (by tauto), by simp⟩
  | returned success =>
      cases success with
      | true =>
          simp only [hmain] at h
          obtain ⟨hquiet, hsignalled, hthread⟩ := h
          obtain ⟨hthrew, huncaught, hescaped, haborted⟩ := hquiet.failures
          exact ⟨iff_of_false (by simp) (by simp [hthrew, huncaught, hescaped, haborted]),
            iff_of_false (by simp) fun hcaught => hthrew hcaught.1,
            fun _ => ⟨hsignalled, hquiet, hthread⟩⟩
      | false =>
          simp only [hmain] at h
          refine ⟨iff_of_false (by simp) (by tauto), iff_of_true rfl (by tauto), by simp⟩

/-- An exception leaves the event loop while the metrics thread sleeps. -/
def unwindingActions : List ProcessAction :=
  [.construct, .startThread true, .thread false, .thread false, .throw true]

theorem isSome_unwindingRun :
    (Machine.exec Process.step Process.initial unwindingActions).isSome = true := by
  decide

theorem unwinding_terminates_serving :
    ∃ es p, process.Run Process.initial unwindingActions es p ∧ p.main = .terminated := by
  have hends := unwinding_terminates (Machine.run_get isSome_unwindingRun)
  exact ⟨_, _, Machine.run_get isSome_unwindingRun, hends.1.mpr (by decide)⟩

end CppSim.Server
