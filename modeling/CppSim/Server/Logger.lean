import CppSim.Library.Threads
import CppSim.Server.Timestamp

/-!
# The logger

Any number of threads call `log`.  A call reads the clock, takes `log_mutex`, writes its line to
`stdout` or to `stderr`, and returns; the stream takes the line in pieces of any size.  If the
mutex throws, the call writes a line to `stderr` all the same, with `fprintf` and without the
mutex.

`log_writes_lines` says what the streams hold at any time: the whole lines of the calls in the
order in which they took the mutex, less what the holder has yet to write.  So as long as no
message has a line feed in it, the lines can be read back (`splitOn_out`).
-/

namespace CppSim.Server

/-! ## Lines -/

inductive LogLevel
  | info
  | error
  deriving DecidableEq

/-- `log_level_to_string`. -/
def logLevelToString : LogLevel → Text
  | .error => text "[ERROR]"
  | .info => text "[INFO]"

/-- The arguments of `log`. -/
structure LogCall where
  level : LogLevel
  msg : Text
  deriving DecidableEq

/-- `log_message`. -/
def logMessage (msg : Text) : LogCall := ⟨.info, msg⟩

/-- `log_error`. -/
def logError (msg : Text) : LogCall := ⟨.error, msg⟩

/-- The line that `log` writes, without the line feed at its end. -/
def LogCall.line (c : LogCall) (timestamp : Text) : Text :=
  timestamp ++ text " " ++ logLevelToString c.level ++ text " " ++ c.msg

/-- `MAX_FALLBACK_MSG_SIZE`. -/
def maxFallbackMsgSize : ℕ := 1024

/-- What `fprintf` writes when an exception was caught: `%.*s` ends at a null byte. -/
def LogCall.fallback (c : LogCall) : Text :=
  text "[FALLBACK] " ++ logLevelToString c.level ++ text " " ++
    (c.msg.take maxFallbackMsgSize).takeWhile (· ≠ 0)

/-- The line feed. -/
def newline : UInt8 := 10

/-! ## Calls -/

/-- The holder of `log_mutex`, with what it has yet to write. -/
structure LogHolder where
  call : ℕ
  level : LogLevel
  rest : Text

structure LogState where
  holder : Option LogHolder
  /-- What was written to `stdout` and to `stderr`. -/
  out : Text
  err : Text

inductive LogPhase
  | called
  | waiting (timestamp : Text)
  | writing
  | caught
  | returned
  deriving DecidableEq

/-- What a call does next. -/
inductive LogChoice
  /-- `get_timestamp`. -/
  | readClock (now : ℕ)
  | lock
  | lockThrows
  /-- The stream takes some bytes. -/
  | write (count : ℕ)
  | unlock
  | fprintf

inductive LogEvent
  | called (c : LogCall)
  /-- The call has the mutex, for this line. -/
  | entered (level : LogLevel) (line : Text)
  | fellBack (line : Text)
  | returned
  deriving DecidableEq

namespace LogState

def initial : LogState := ⟨none, [], []⟩

/-- Bytes come out of a stream. -/
def append (s : LogState) (level : LogLevel) (bytes : Text) : LogState :=
  match level with
  | .info => { s with out := s.out ++ bytes }
  | .error => { s with err := s.err ++ bytes }

/-- What was written at a level. -/
def written (s : LogState) : LogLevel → Text
  | .info => s.out
  | .error => s.err

/-- What the holder has yet to write at a level. -/
def unwritten (s : LogState) (level : LogLevel) : Text :=
  match s.holder with
  | some h => if h.level = level then h.rest else []
  | none => []

/-- `log`. -/
def log (i : ℕ) (s : LogState) (l : LogCall × LogPhase) :
    LogChoice → Option (LogState × (LogCall × LogPhase) × List LogEvent) :=
  let (c, phase) := l
  fun
  | .readClock now =>
      if phase = .called then some (s, (c, .waiting (getTimestamp now)), []) else none
  | .lock =>
      match phase, s.holder with
      | .waiting timestamp, none =>
          let line := c.line timestamp
          some ({ s with holder := some ⟨i, c.level, line ++ [newline]⟩ }, (c, .writing),
            [.entered c.level line])
      | _, _ => none
  | .lockThrows =>
      match phase with
      | .waiting _ => some (s, (c, .caught), [])
      | _ => none
  | .write count =>
      match phase, s.holder with
      | .writing, some h =>
          if h.call = i then
            some ({ s.append h.level (h.rest.take count) with
                      holder := some { h with rest := h.rest.drop count } }, (c, .writing), [])
          else none
      | _, _ => none
  | .unlock =>
      match phase, s.holder with
      | .writing, some h =>
          if h.call = i ∧ h.rest = [] then
            some ({ s with holder := none }, (c, .returned), [.returned])
          else none
      | _, _ => none
  | .fprintf =>
      if phase = .caught then
        some (s.append .error (c.fallback ++ [newline]), (c, .returned),
          [.fellBack c.fallback, .returned])
      else none

end LogState

/-- The threads that call `log`. -/
def logger : Threads LogState (LogCall × LogPhase) LogCall LogChoice LogEvent where
  enter c := ((c, .called), [.called c])
  step := LogState.log

/-- The cases of a step of call `i`. -/
inductive LogStep (i : ℕ) (s : LogState) (c : LogCall) :
    LogPhase → LogState → LogPhase → List LogEvent → Prop
  | clockRead (now : ℕ) : LogStep i s c .called s (.waiting (getTimestamp now)) []
  | locked (timestamp : Text) (hfree : s.holder = none) :
      LogStep i s c (.waiting timestamp)
        { s with holder := some ⟨i, c.level, c.line timestamp ++ [newline]⟩ } .writing
        [.entered c.level (c.line timestamp)]
  | lockThrew (timestamp : Text) : LogStep i s c (.waiting timestamp) s .caught []
  | wrote {h : LogHolder} (count : ℕ) (hholds : s.holder = some h) :
      LogStep i s c .writing
        { s.append h.level (h.rest.take count) with
          holder := some { h with rest := h.rest.drop count } } .writing []
  | unlocked {h : LogHolder} (hholds : s.holder = some h) (hrest : h.rest = []) :
      LogStep i s c .writing { s with holder := none } .returned [.returned]
  | fellBack :
      LogStep i s c .caught (s.append .error (c.fallback ++ [newline])) .returned
        [.fellBack c.fallback, .returned]

section Steps

variable {i : ℕ} {s s' : LogState} {c c' : LogCall} {phase phase' : LogPhase}
  {es : List (ℕ × LogEvent)} {fs own : List LogEvent} {level : LogLevel}

theorem logStep_of_step {x : LogChoice}
    (h : logger.step i s (c, phase) x = some (s', (c', phase'), fs)) :
    c' = c ∧ LogStep i s c phase s' phase' fs := by
  replace h : s.log i (c, phase) x = some (s', (c', phase'), fs) := h
  cases x with
  | readClock now =>
      simp only [LogState.log, Option.ite_none_right_eq_some] at h
      obtain ⟨rfl, h⟩ := h
      cases h
      exact ⟨rfl, .clockRead now⟩
  | lock =>
      simp only [LogState.log] at h
      split at h
      · rename_i timestamp hfree
        cases h
        exact ⟨rfl, .locked timestamp hfree⟩
      · cases h
  | lockThrows =>
      simp only [LogState.log] at h
      split at h
      · cases h
        exact ⟨rfl, .lockThrew _⟩
      · cases h
  | write count =>
      simp only [LogState.log] at h
      split at h
      · rename_i holder hholds
        obtain ⟨-, h⟩ := Option.ite_none_right_eq_some.mp h
        cases h
        exact ⟨rfl, .wrote count hholds⟩
      · cases h
  | unlock =>
      simp only [LogState.log] at h
      split at h
      · rename_i holder hholds
        obtain ⟨⟨-, hrest⟩, h⟩ := Option.ite_none_right_eq_some.mp h
        cases h
        exact ⟨rfl, .unlocked hholds hrest⟩
      · cases h
  | fprintf =>
      simp only [LogState.log, Option.ite_none_right_eq_some] at h
      obtain ⟨rfl, h⟩ := h
      cases h
      exact ⟨rfl, .fellBack⟩

/-! ## The streams -/

/-- The line of an event at a level. -/
def LogEvent.line? (level : LogLevel) : LogEvent → Option Text
  | .entered other line => if other = level then some line else none
  | _ => none

/-- The lines of a level in the order in which the calls took the mutex. -/
def loggedLines (level : LogLevel) (es : List (ℕ × LogEvent)) : List Text :=
  es.filterMap fun e => e.2.line? level

/-- The message of a call. -/
def LogEvent.msg? : LogEvent → Option Text
  | .called c => some c.msg
  | _ => none

/-- The messages of all calls. -/
def calledMessages (es : List (ℕ × LogEvent)) : List Text := es.filterMap fun e => e.2.msg?

/-- Lines as a stream. -/
def streamOf (lines : List Text) : Text := lines.flatMap fun line => line ++ [newline]

/-- Only `stderr` is written to without the mutex, and only by calls that fell back. -/
def Orderly (level : LogLevel) (es : List (ℕ × LogEvent)) : Prop :=
  level = .info ∨ ∀ i line, (i, LogEvent.fellBack line) ∉ es

/-- The streams hold the lines, less what the holder has yet to write. -/
def HoldsLines (s : LogState) (es : List (ℕ × LogEvent)) : Prop :=
  ∀ level, Orderly level es → s.written level ++ s.unwritten level = streamOf (loggedLines level es)

theorem Orderly.of_append {fs : List (ℕ × LogEvent)} (h : Orderly level (es ++ fs)) :
    Orderly level es :=
  h.imp id fun hnone i line hmem => hnone i line (List.mem_append_left _ hmem)

theorem loggedLines_append (level : LogLevel) (fs : List (ℕ × LogEvent)) :
    loggedLines level (es ++ fs) = loggedLines level es ++ loggedLines level fs :=
  List.filterMap_append

theorem streamOf_append (lines rest : List Text) :
    streamOf (lines ++ rest) = streamOf lines ++ streamOf rest :=
  List.flatMap_append

theorem written_append (s : LogState) (level other : LogLevel) (bytes : Text) :
    (s.append level bytes).written other =
      if level = other then s.written other ++ bytes else s.written other := by
  cases level <;> cases other <;> rfl

/-- A step keeps the streams in order: taking the mutex owes a line, writing pays it. -/
theorem HoldsLines.step (inv : HoldsLines s es) (h : LogStep i s c phase s' phase' fs) :
    HoldsLines s' (es ++ fs.map (i, ·)) := by
  intro level horderly
  have hbefore := inv level horderly.of_append
  rw [loggedLines_append, streamOf_append, ← hbefore]
  cases h with
  | clockRead | lockThrew =>
      rw [List.map_nil, loggedLines, List.filterMap_nil, streamOf, List.flatMap_nil,
        List.append_nil]
  | locked timestamp hfree =>
      have hnone : s.unwritten level = [] := by rw [LogState.unwritten, hfree]
      rw [hnone, List.append_nil]
      by_cases hsame : c.level = level
      · simp [LogState.unwritten, LogState.written, loggedLines, LogEvent.line?, streamOf, hsame]
      · simp [LogState.unwritten, LogState.written, loggedLines, LogEvent.line?, streamOf, hsame]
  | @wrote holder count hholds =>
      rw [List.map_nil, loggedLines, List.filterMap_nil, streamOf, List.flatMap_nil,
        List.append_nil]
      have hwritten := written_append s holder.level level (holder.rest.take count)
      by_cases hsame : holder.level = level
      · calc (s.append holder.level (holder.rest.take count)).written level ++
              LogState.unwritten { s with holder := some { holder with
                rest := holder.rest.drop count } } level
            = s.written level ++ (holder.rest.take count ++ holder.rest.drop count) := by
              rw [hwritten, if_pos hsame, List.append_assoc]
              simp [LogState.unwritten, hsame]
          _ = s.written level ++ s.unwritten level := by
              rw [List.take_append_drop]
              simp [LogState.unwritten, hholds, hsame]
      · calc (s.append holder.level (holder.rest.take count)).written level ++
              LogState.unwritten { s with holder := some { holder with
                rest := holder.rest.drop count } } level
            = s.written level := by simp [hwritten, LogState.unwritten, hsame]
          _ = s.written level ++ s.unwritten level := by simp [LogState.unwritten, hholds, hsame]
  | unlocked hholds hrest =>
      have hnone : s.unwritten level = [] := by simp [LogState.unwritten, hholds, hrest]
      rw [hnone]
      exact (List.append_nil _).symm
  | fellBack =>
      rcases horderly with rfl | hnever
      · simp [LogState.append, LogState.unwritten, LogState.written, loggedLines, LogEvent.line?,
          streamOf]
      · exact absurd (List.mem_append_right es (List.mem_map_of_mem List.mem_cons_self))
          (hnever i c.fallback)

/-! ## The calls -/

/-- What a call has done when it is in a phase. -/
inductive Told (c : LogCall) : LogPhase → List LogEvent → Prop
  | called : Told c .called [.called c]
  | waiting (now : ℕ) : Told c (.waiting (getTimestamp now)) [.called c]
  | writing (now : ℕ) :
      Told c .writing [.called c, .entered c.level (c.line (getTimestamp now))]
  | caught : Told c .caught [.called c]
  | logged (now : ℕ) :
      Told c .returned [.called c, .entered c.level (c.line (getTimestamp now)), .returned]
  | fellBack : Told c .returned [.called c, .fellBack c.fallback, .returned]

theorem Told.step (told : Told c phase own) (h : LogStep i s c phase s' phase' fs) :
    Told c phase' (own ++ fs) := by
  cases h with
  | clockRead now =>
      cases told
      exact .waiting now
  | locked =>
      cases told with
      | waiting now => exact .writing now
  | lockThrew =>
      cases told
      exact .caught
  | wrote =>
      cases told with
      | writing now => exact .writing now
  | unlocked =>
      cases told with
      | writing now => exact .logged now
  | fellBack =>
      cases told
      exact .fellBack

/-- A call enters at most once, with its own line. -/
theorem Told.line (told : Told c phase own) {line : Text}
    (hmem : LogEvent.entered level line ∈ own) :
    LogEvent.called c ∈ own ∧ ∃ now, line = c.line (getTimestamp now) := by
  cases told with
  | writing now | logged now =>
      simp only [List.mem_cons, LogEvent.entered.injEq, reduceCtorEq, List.not_mem_nil, false_or,
        or_false] at hmem
      exact ⟨by simp, now, hmem.2⟩
  | _ => simp at hmem

theorem outline_logger :
    logger.Outline HoldsLines fun _ _ l own => Told l.1 l.2 own where
  enters i c inv _ := by
    refine ⟨fun level horderly => ?_, .called⟩
    rw [loggedLines_append, streamOf_append, inv level horderly.of_append]
    exact (List.append_nil _).symm
  steps {s s' es i l l' x own fs} inv told h := by
    obtain ⟨c, phase⟩ := l
    obtain ⟨c', phase'⟩ := l'
    obtain ⟨rfl, hstep⟩ := logStep_of_step h
    exact ⟨inv.step hstep, told.step hstep⟩
  stable _ _ told _ _ := told

end Steps

/-! ## Reading the lines back -/

theorem splitOn_streamOf {lines : List Text} (h : ∀ line ∈ lines, newline ∉ line) :
    (streamOf lines).splitOn newline = lines ++ [[]] := by
  induction lines with
  | nil => rfl
  | cons line lines ih =>
      calc (streamOf (line :: lines)).splitOn newline
          = (line ++ newline :: streamOf lines).splitOn newline := by simp [streamOf]
        _ = line :: (streamOf lines).splitOn newline :=
          List.splitOn_append_cons_self_of_not_mem (h line List.mem_cons_self) _
        _ = line :: lines ++ [[]] := by
          rw [ih fun other hother => h other (List.mem_cons_of_mem _ hother), List.cons_append]

theorem newline_notMem_of_isPlain {s : Text} (h : IsPlain s) : newline ∉ s := fun hmem => by
  have hcontrol := h newline hmem
  revert hcontrol
  decide

theorem LogCall.newline_notMem_line {c : LogCall} (h : newline ∉ c.msg) (now : ℕ) :
    newline ∉ c.line (getTimestamp now) := by
  have hlevel : IsPlain (logLevelToString c.level) := by
    cases c.level <;> exact isPlain_text rfl
  have hhead : IsPlain (getTimestamp now ++ text " " ++ logLevelToString c.level ++ text " ") :=
    (((isPlain_getTimestamp now).append (isPlain_text rfl)).append hlevel).append (isPlain_text rfl)
  rw [LogCall.line, List.mem_append, not_or]
  exact ⟨newline_notMem_of_isPlain hhead, h⟩

section Runs

variable {as : List (PoolAction LogCall LogChoice)} {es : List (ℕ × LogEvent)}
  {p : Pool LogState (LogCall × LogPhase)}

/-- **The log is made of whole lines.**  In every run of any number of calls of `log`, `stdout`
holds the lines of the calls in the order in which they took the mutex, and what the holder has
yet to write is what is missing; so does `stderr` as long as no call fell back.  Each call takes
the mutex for its own line at most once, after it was called and before it returns.  Where no
message has a line feed in it and nobody is writing, the lines can be read back. -/
theorem log_writes_lines (run : logger.machine.Run ⟨.initial, []⟩ as es p) :
    (∀ level, Orderly level es →
      p.shared.written level ++ p.shared.unwritten level = streamOf (loggedLines level es)) ∧
    (∀ i c phase, p.locals[i]? = some (c, phase) → Told c phase (Machine.ownEvents i es)) ∧
    ∀ level, Orderly level es → p.shared.unwritten level = [] →
      (∀ msg ∈ calledMessages es, newline ∉ msg) →
      (p.shared.written level).splitOn newline = loggedLines level es ++ [[]] := by
  have inv := outline_logger.of_run run fun level _ => by cases level <;> rfl
  refine ⟨inv.shared, fun i c phase hget => inv.each i (c, phase) hget,
    fun level horderly hidle hplain => ?_⟩
  have hlines := inv.shared level horderly
  rw [hidle, List.append_nil] at hlines
  rw [hlines]
  refine splitOn_streamOf fun line hline => ?_
  obtain ⟨⟨i, e⟩, hmem, hline⟩ := List.mem_filterMap.mp hline
  cases e with
  | entered other entered =>
      simp only [LogEvent.line?, Option.ite_none_right_eq_some, Option.some.injEq] at hline
      obtain ⟨rfl, rfl⟩ := hline
      have hown := Machine.mem_ownEvents.mpr hmem
      have hlt : i < p.locals.length := by
        by_contra hge
        rw [inv.nobody i (by omega)] at hown
        cases hown
      have told := inv.each i _ (List.getElem?_eq_getElem hlt)
      obtain ⟨hcalled, now, rfl⟩ := told.line hown
      have hmsg := hplain _ (List.mem_filterMap.mpr ⟨_, Machine.mem_ownEvents.mp hcalled, rfl⟩)
      exact LogCall.newline_notMem_line hmsg now
  | _ => cases hline

end Runs

/-- Two calls, of which the second one takes the mutex first and writes in two pieces, and one
that falls back in the middle of it. -/
def contendedActions : List (PoolAction LogCall LogChoice) :=
  [.call (logMessage (text "first")), .call (logMessage (text "second")),
    .call (logError (text "third")), .thread 0 (.readClock 0), .thread 1 (.readClock 1000000),
    .thread 2 (.readClock 2000000), .thread 1 .lock, .thread 1 (.write 20), .thread 2 .lockThrows,
    .thread 2 .fprintf, .thread 1 (.write 100), .thread 1 .unlock, .thread 0 .lock,
    .thread 0 (.write 100), .thread 0 .unlock]

theorem isSome_contendedRun :
    (Machine.exec logger.poolStep ⟨.initial, []⟩ contendedActions).isSome = true := by
  decide +kernel

/-- What `contendedActions` lead to. -/
def contendedRun : Pool LogState (LogCall × LogPhase) × List (ℕ × LogEvent) :=
  (Machine.exec logger.poolStep ⟨.initial, []⟩ contendedActions).get isSome_contendedRun

theorem log_writes_lines_contended :
    contendedRun.1.shared.out.splitOn newline =
      [text "1970-01-01 00:00:00.001 [INFO] second", text "1970-01-01 00:00:00.000 [INFO] first",
        []] := by
  have hread := (log_writes_lines (Machine.run_get isSome_contendedRun)).2.2 .info (.inl rfl)
    (by decide +kernel) (by decide +kernel)
  exact hread.trans (by decide +kernel)

end CppSim.Server
