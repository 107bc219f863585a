import CppSim.Server.HandshakeGate
import CppSim.Server.MetricsCollector
import CppSim.Server.Session.ProtocolLines

/-!
# Exporting metrics while clients talk

`main` installs an error logger that records every line of the protocol as an error.  A
`MonitoredWorld` is a world of sessions with the collector behind that logger; the metrics
thread exports the collector while the sessions run.

The library prints no document with a string that is not valid UTF-8, and the export is then
an empty object.  So the export works as long as every line that was recorded is valid UTF-8,
and this depends on the clients: `exports_iff` says on which of their messages.
`straddlingType_empties_export` is a client that empties it.
-/

namespace CppSim.Server

open Protocol

/-! ## The logger and the collector -/

/-- The lines that a step passes to the protocol's logger. -/
def World.protocolLines (lib : JsonLib) (w : World) : WorldAction → List Text
  | .session i b =>
      match w.sessions[i]? with
      | some s => (s.step lib b).elim [] fun r => Server.protocolLines r.log
      | none => []
  | _ => []

/-- The other recordings of the process. -/
inductive MetricCall
  | serverStart
  | serverCreated
  | serverPort (port : UInt16)
  | serverStarted
  | connectionAccepted
  | serverStop
  | activeSessions (count : ℕ)
  | serverShutdown
  | serverUptime (seconds : ℤ)

def MetricsCollector.call (m : MetricsCollector) (now : ℤ) : MetricCall → MetricsCollector
  | .serverStart => m.recordEvent now (text "server_start") []
  | .serverCreated => m.recordEvent now (text "server_created") []
  | .serverPort port => m.setGauge (text "server_port") (.finite port.toNat)
  | .serverStarted => m.incrementCounter (text "server_started") 1
  | .connectionAccepted => m.incrementCounter (text "server_connections_accepted") 1
  | .serverStop => m.recordEvent now (text "server_stop") []
  | .activeSessions count => m.setGauge (text "active_sessions") (.finite count)
  | .serverShutdown => m.recordEvent now (text "server_shutdown") []
  | .serverUptime seconds => m.setGauge (text "server_uptime_seconds") (.finite seconds)

structure MonitoredWorld where
  world : World
  metrics : MetricsCollector
  /-- The call of `export_metrics` that holds `export_mutex_`. -/
  exporter : Option Exporter

inductive MonitoredAction
  /-- A step of the sessions, at a time of the steady clock. -/
  | world (now : ℤ) (a : WorldAction)
  | metric (now : ℤ) (call : MetricCall)
  | beginExport
  | exportNext (now systemNow : ℤ)

inductive MonitoredEvent
  | world (e : WorldEvent)
  /-- `record_error` stored these details. -/
  | recorded (details : Text)
  /-- `export_metrics` put the document together, and returned the result. -/
  | exported (document : Json) (result : Text)

namespace MonitoredWorld

def initial (now : ℤ) : MonitoredWorld := ⟨.initial, .construct now, none⟩

/-- The error logger that `main` installs. -/
def errorLogger (now : ℤ) (m : MetricsCollector) (line : Text) : MetricsCollector :=
  m.recordError now (text "protocol_error") line

/-- One step, where `dump` is `dump(2)`. -/
def step (lib : JsonLib) (dump : Json → Except Text Text) (v : MonitoredWorld) :
    MonitoredAction → Option (MonitoredWorld × List MonitoredEvent)
  | .world now a => do
      let lines := v.world.protocolLines lib a
      let (world, es) ← v.world.step lib a
      pure ({ v with world, metrics := lines.foldl (errorLogger now) v.metrics },
        lines.map .recorded ++ es.map .world)
  | .metric now call => some ({ v with metrics := v.metrics.call now call }, [])
  | .beginExport =>
      if v.exporter.isNone then some ({ v with exporter := some .begin }, []) else none
  | .exportNext now systemNow => do
      let e ← v.exporter
      let e ← e.next v.metrics now systemNow
      if e.pending = [] then
        pure ({ v with exporter := none },
          [.exported e.jsonResult (Exporter.print dump e.jsonResult)])
      else pure ({ v with exporter := some e }, [])

end MonitoredWorld

/-- The machine of a monitored world. -/
def monitored (lib : JsonLib) (dump : Json → Except Text Text) :
    Machine MonitoredWorld MonitoredAction MonitoredEvent :=
  Machine.ofStep (MonitoredWorld.step lib dump)

/-! ## What is claimed of a run -/

/-- What a client sends is valid UTF-8 JSON. -/
def MonitoredAction.SendsJson (lib : JsonLib) : MonitoredAction → Prop
  | .world _ (.session _ (.onRead (.message message _ _ _))) =>
      IsUtf8 message ∧ ∃ j, lib.parse message = .ok j
  | _ => True

/-- The step handles no ACTION of an authenticated client whose type is cut within a
character. -/
def MonitoredWorld.CutsCleanly (lib : JsonLib) (v : MonitoredWorld) : MonitoredAction → Prop
  | .world _ (.session i b) => ∀ s message, v.world.sessions[i]? = some s →
      s.Handles b message → s.state ≠ .unauthenticated → Server.CutsCleanly lib message
  | _ => True

/-- All details that were stored are valid UTF-8. -/
def StoresUtf8 (es : List MonitoredEvent) : Prop :=
  ∀ details, .recorded details ∈ es → IsUtf8 details

/-- Each export returned a document with all its sections. -/
def ExportsInFull (dump : Json → Except Text Text) (es : List MonitoredEvent) : Prop :=
  ∀ document result, .exported document result ∈ es →
    dump document = .ok result ∧ ∀ sec : ExportSection, document.contains sec.key = true

/-! ## The messages that wait to be handled -/

section Received

variable {lib : JsonLib} {s t : WebsocketSession} {a : Action} {es : List Event} {message : Text}

/-- A message that waits to be handled was read in the step before, or waited there already. -/
theorem Transition.received (h : Transition lib s a es t) (hstrand : t.strand = .checkBurst message) :
    s.strand = .checkBurst message ∨
      ∃ window maxMessages logged, a = .onRead (.message message window maxMessages logged) := by
  cases h with
  | readPassed =>
      cases hstrand
      exact .inr ⟨_, _, _, rfl⟩
  | readFailed =>
      dsimp only at hstrand
      split at hstrand <;> cases hstrand
  | queuedJoin hsends => cases hsends <;> cases hstrand
  | @posted next => cases next <;> cases hstrand
  | sendRefused hsends => cases hsends <;> cases hstrand
  | closeClosed | checkBusy | closeSkipped | shutdown =>
      exact absurd hstrand (After.strand_ne_checkBurst _ _)
  | _ => first | exact .inl hstrand | cases hstrand

end Received

section Worlds

variable {lib : JsonLib} {w w' : World} {a : WorldAction} {es : List WorldEvent} {i : ℕ}
  {s t : WebsocketSession}

/-- Every message that waits to be handled is JSON. -/
def World.Received (lib : JsonLib) (w : World) : Prop :=
  ∀ (i : ℕ) (s : WebsocketSession) (message : Text), w.sessions[i]? = some s →
    s.strand = .checkBurst message → ∃ j, lib.parse message = .ok j

theorem World.Received.step {now : ℤ} (inv : w.Received lib)
    (hsends : (MonitoredAction.world now a).SendsJson lib) (h : (world lib).step w a es w') :
    w'.Received lib := by
  intro i t message hget hstrand
  rcases session_of_step h hget with ⟨_, _, rfl⟩ | hsame | ⟨s, b, fs, hbefore, hb, -, hown⟩
  · cases hstrand
  · exact inv i t message hsame hstrand
  · rcases (transition_of_step hown).2.received hstrand with hstrand' | ⟨_, _, _, rfl⟩
    · exact inv i s message hbefore hstrand'
    · cases a with
      | session j c =>
          simp only [World.actionOn, Option.ite_none_right_eq_some, Option.some.injEq] at hb
          obtain ⟨-, rfl⟩ := hb
          exact hsends.2
      | create | stopAll | stopReturn => cases hb
      | emplace =>
          simp only [World.actionOn, Option.ite_none_right_eq_some] at hb
          obtain ⟨-, hb⟩ := hb
          split at hb <;> cases hb
      | generate | generateFallback | stopClose | stopDispatch =>
          simp only [World.actionOn] at hb
          split at hb <;> cases hb

/-- The lines of a step are valid UTF-8 exactly if it cuts no action type within a
character. -/
theorem linesUtf8_protocolLines {v : MonitoredWorld} {now : ℤ} (hparses : lib.ParsesUtf8)
    (hdescribes : lib.DescribesUtf8) (inv : v.world.Received lib)
    (h : (world lib).step v.world a es w') :
    LinesUtf8 (v.world.protocolLines lib a) ↔ v.CutsCleanly lib (.world now a) := by
  cases a with
  | session i b =>
      cases worldTransition_of_step h with
      | @own _ _ s t fs hget _ hstep =>
          obtain ⟨r, hr, -⟩ := Option.map_eq_some_iff.mp hstep
          simp only [World.protocolLines, hget, hr, Option.elim_some, MonitoredWorld.CutsCleanly]
          rcases WebsocketSession.protocolLines_of_step hr with ⟨hsilent, hnone⟩ |
            ⟨message, gap, logged, hhandles, hlines⟩
          · rw [show Server.protocolLines r.log = [] from hsilent]
            refine iff_of_true linesUtf8_nil fun s' message hget' hhandles => ?_
            cases hget'
            exact absurd hhandles (hnone message)
          · obtain ⟨j, hparse⟩ := inv i s message hget hhandles.strand
            rw [hlines, WebsocketSession.linesUtf8_handle hparses hdescribes hparse]
            constructor
            · intro hcuts s' message' hget' hhandles'
              cases hget'
              cases hhandles.strand.symm.trans hhandles'.strand
              exact hcuts
            · exact fun hcuts => hcuts s message rfl hhandles
  | _ => exact iff_of_true linesUtf8_nil trivial

end Worlds

/-! ## Runs -/

section Runs

variable {lib : JsonLib} {dump : Json → Except Text Text} {v v' : MonitoredWorld}
  {a : MonitoredAction} {as : List MonitoredAction} {es : List MonitoredEvent} {now : ℤ}

/-- The branches of a step. -/
inductive MonitoredTransition (lib : JsonLib) (dump : Json → Except Text Text)
    (v : MonitoredWorld) : MonitoredAction → List MonitoredEvent → MonitoredWorld → Prop
  | world {now : ℤ} {a : WorldAction} {w : World} {es : List WorldEvent}
      (hstep : (world lib).step v.world a es w) :
      MonitoredTransition lib dump v (.world now a)
        ((v.world.protocolLines lib a).map .recorded ++ es.map .world)
        { v with world := w,
                 metrics := (v.world.protocolLines lib a).foldl
                   (MonitoredWorld.errorLogger now) v.metrics }
  | metric {now : ℤ} {call : MetricCall} :
      MonitoredTransition lib dump v (.metric now call) []
        { v with metrics := v.metrics.call now call }
  | begun (hidle : v.exporter = none) :
      MonitoredTransition lib dump v .beginExport [] { v with exporter := some .begin }
  | visited {now systemNow : ℤ} {e e' : Exporter} (hbusy : v.exporter = some e)
      (hnext : e.next v.metrics now systemNow = some e') (hmore : e'.pending ≠ []) :
      MonitoredTransition lib dump v (.exportNext now systemNow) []
        { v with exporter := some e' }
  | finished {now systemNow : ℤ} {e e' : Exporter} (hbusy : v.exporter = some e)
      (hnext : e.next v.metrics now systemNow = some e') (hlast : e'.pending = []) :
      MonitoredTransition lib dump v (.exportNext now systemNow)
        [.exported e'.jsonResult (Exporter.print dump e'.jsonResult)] { v with exporter := none }

theorem monitoredTransition_of_step (h : (monitored lib dump).step v a es v') :
    MonitoredTransition lib dump v a es v' := by
  replace h : MonitoredWorld.step lib dump v a = some (v', es) := h
  cases a with
  | world now a =>
      simp only [MonitoredWorld.step, Option.bind_eq_bind, Option.bind_eq_some_iff,
        Option.pure_def, Option.some.injEq, Prod.mk.injEq, Prod.exists] at h
      obtain ⟨w, fs, hstep, rfl, rfl⟩ := h
      exact .world hstep
  | metric now call =>
      cases h
      exact .metric
  | beginExport =>
      simp only [MonitoredWorld.step, Option.ite_none_right_eq_some] at h
      obtain ⟨hidle, h⟩ := h
      cases h
      exact .begun (by simpa using hidle)
  | exportNext now systemNow =>
      simp only [MonitoredWorld.step, Option.bind_eq_bind, Option.bind_eq_some_iff] at h
      obtain ⟨e, hbusy, e', hnext, h⟩ := h
      split at h
      · rename_i hlast
        cases h
        exact .finished hbusy hnext hlast
      · rename_i hmore
        cases h
        exact .visited hbusy hnext hmore

theorem mem_recorded {lines : List Text} {fs : List WorldEvent} {details : Text} :
    .recorded details ∈ lines.map MonitoredEvent.recorded ++ fs.map .world ↔ details ∈ lines := by
  simp

theorem storesUtf8_append {fs : List MonitoredEvent} :
    StoresUtf8 (es ++ fs) ↔ StoresUtf8 es ∧ StoresUtf8 fs := by
  constructor
  · intro h
    exact ⟨fun details hmem => h details (List.mem_append_left _ hmem),
      fun details hmem => h details (List.mem_append_right _ hmem)⟩
  · rintro ⟨hes, hfs⟩ details hmem
    exact (List.mem_append.mp hmem).elim (hes details) (hfs details)

theorem received_initial : (MonitoredWorld.initial now).world.Received lib := by
  intro i s message hget
  cases hget

theorem received_step (inv : v.world.Received lib) (hsends : a.SendsJson lib)
    (h : MonitoredTransition lib dump v a es v') : v'.world.Received lib := by
  cases h with
  | world hstep => exact inv.step hsends hstep
  | metric | begun | visited | finished => exact inv

/-- A step stores valid UTF-8 exactly if it cuts no action type within a character. -/
theorem storesUtf8_step (hparses : lib.ParsesUtf8) (hdescribes : lib.DescribesUtf8)
    (inv : v.world.Received lib) (h : MonitoredTransition lib dump v a es v') :
    StoresUtf8 es ↔ v.CutsCleanly lib a := by
  cases h with
  | @world now a w fs hstep =>
      rw [← linesUtf8_protocolLines hparses hdescribes inv hstep]
      exact forall_congr' fun details => imp_congr_left mem_recorded
  | metric | begun | visited | finished => exact iff_of_true (by simp [StoresUtf8]) trivial

/-- What is stored in a run whose steps keep to the condition, and what is being exported. -/
structure MonitoredInv (v : MonitoredWorld) : Prop where
  metrics : v.metrics.Utf8
  exporter : ∀ e ∈ v.exporter, e.Good

theorem monitoredInv_initial : MonitoredInv (.initial now) where
  metrics := MetricsCollector.utf8_construct now
  exporter := by
    intro e he
    cases he

theorem MetricsCollector.Utf8.call {m : MetricsCollector} (h : m.Utf8) (call : MetricCall) :
    (m.call now call).Utf8 := by
  cases call with
  | serverStarted | connectionAccepted => exact h.incrementCounter (isUtf8_text _) 1
  | serverPort | activeSessions | serverUptime => exact h.setGauge (isUtf8_text _) _
  | serverStart | serverCreated | serverStop | serverShutdown =>
      exact h.recordEvent (isUtf8_text _) (by simp) now

theorem MetricsCollector.Utf8.errorLogger {m : MetricsCollector} (h : m.Utf8) {lines : List Text}
    (hlines : LinesUtf8 lines) : (lines.foldl (MonitoredWorld.errorLogger now) m).Utf8 := by
  induction lines generalizing m with
  | nil => exact h
  | cons line lines ih =>
      have hline := hlines line List.mem_cons_self
      apply ih (h.recordError (isUtf8_text _) hline now)
      exact fun other hother => hlines other (List.mem_cons_of_mem _ hother)

/-- A step that stores valid UTF-8 keeps the invariant, and what it exports is printed. -/
theorem MonitoredInv.step (hprints : ∀ j : Json, j.StringsUtf8 → ∃ s, dump j = .ok s)
    (inv : MonitoredInv v) (hstores : StoresUtf8 es) (h : MonitoredTransition lib dump v a es v') :
    MonitoredInv v' ∧ ExportsInFull dump es := by
  have ⟨hmetrics, hexporter⟩ := inv
  cases h with
  | @world now a w fs hstep =>
      have hlines : LinesUtf8 (v.world.protocolLines lib a) := fun line hline =>
        hstores line (mem_recorded.mpr hline)
      exact ⟨⟨hmetrics.errorLogger hlines, hexporter⟩, by simp [ExportsInFull]⟩
  | metric => exact ⟨⟨hmetrics.call _, hexporter⟩, by simp [ExportsInFull]⟩
  | begun hidle =>
      refine ⟨⟨hmetrics, ?_⟩, by simp [ExportsInFull]⟩
      rintro e ⟨⟩
      exact Exporter.good_begin
  | visited hbusy hnext hmore =>
      refine ⟨⟨hmetrics, ?_⟩, by simp [ExportsInFull]⟩
      rintro e ⟨⟩
      exact (hexporter _ hbusy).next hmetrics hnext
  | @finished now systemNow e e' hbusy hnext hlast =>
      refine ⟨⟨hmetrics, by simp⟩, ?_⟩
      have hgood := (hexporter _ hbusy).next hmetrics hnext
      obtain ⟨result, hdump⟩ := hprints e'.jsonResult hgood.stringsUtf8
      intro document result' hmem
      cases List.mem_singleton.mp hmem
      refine ⟨by rw [Exporter.print, hdump], fun sec => ?_⟩
      rcases hgood.sections sec with hpending | hcontains
      · rw [hlast] at hpending
        cases hpending
      · exact hcontains

theorem received_of_run (run : (monitored lib dump).Run (.initial now) as es v)
    (hsends : ∀ a ∈ as, a.SendsJson lib) : v.world.Received lib := by
  induction run with
  | refl => exact received_initial
  | tail _ hstep ih =>
      have hreceived := ih fun b hb => hsends b (List.mem_append_left _ hb)
      exact received_step hreceived (hsends _ (by simp)) (monitoredTransition_of_step hstep)

/-- A run that stores valid UTF-8 has kept to the condition. -/
theorem cutsCleanly_of_storesUtf8 (hparses : lib.ParsesUtf8) (hdescribes : lib.DescribesUtf8)
    (run : (monitored lib dump).Run (.initial now) as es v) (hsends : ∀ a ∈ as, a.SendsJson lib)
    (hstores : StoresUtf8 es) :
    ((monitored lib dump).restrict (MonitoredWorld.CutsCleanly lib)).Run (.initial now) as es v := by
  induction run with
  | refl => exact .refl _
  | tail before hstep ih =>
      have hsends' := fun b hb => hsends b (List.mem_append_left _ hb)
      obtain ⟨hes, hfs⟩ := storesUtf8_append.mp hstores
      have hreceived := received_of_run before hsends'
      have hclean := (storesUtf8_step hparses hdescribes hreceived
        (monitoredTransition_of_step hstep)).mp hfs
      exact (ih hsends' hes).tail ⟨hclean, hstep⟩

/-- A run that keeps to the condition stores valid UTF-8 and exports it in full. -/
theorem exports_of_cutsCleanly (hparses : lib.ParsesUtf8) (hdescribes : lib.DescribesUtf8)
    (hprints : ∀ j : Json, j.StringsUtf8 → ∃ s, dump j = .ok s)
    (run : ((monitored lib dump).restrict (MonitoredWorld.CutsCleanly lib)).Run (.initial now) as
      es v)
    (hsends : ∀ a ∈ as, a.SendsJson lib) :
    MonitoredInv v ∧ StoresUtf8 es ∧ ExportsInFull dump es := by
  induction run with
  | refl => exact ⟨monitoredInv_initial, by simp [StoresUtf8], by simp [ExportsInFull]⟩
  | tail before hstep ih =>
      have hsends' := fun b hb => hsends b (List.mem_append_left _ hb)
      obtain ⟨inv, hes, hfull⟩ := ih hsends'
      have htransition := monitoredTransition_of_step hstep.2
      have hreceived := received_of_run before.of_restrict hsends'
      have hfs := (storesUtf8_step hparses hdescribes hreceived htransition).mpr hstep.1
      obtain ⟨inv', hfull'⟩ := inv.step hprints hfs htransition
      refine ⟨inv', storesUtf8_append.mpr ⟨hes, hfs⟩, fun document result hmem => ?_⟩
      exact (List.mem_append.mp hmem).elim (hfull document result) (hfull' document result)

/-- In every run in which the clients send JSON, everything stored is valid UTF-8 and every
export is complete exactly if no step handles an ACTION whose type is cut within a
character. -/
theorem exports_iff (hparses : lib.ParsesUtf8) (hdescribes : lib.DescribesUtf8)
    (hprints : ∀ j : Json, j.StringsUtf8 → ∃ s, dump j = .ok s)
    (run : (monitored lib dump).Run (.initial now) as es v) (hsends : ∀ a ∈ as, a.SendsJson lib) :
    StoresUtf8 es ∧ ExportsInFull dump es ↔
      ((monitored lib dump).restrict (MonitoredWorld.CutsCleanly lib)).Run (.initial now) as es
        v := by
  constructor
  · intro h
    exact cutsCleanly_of_storesUtf8 hparses hdescribes run hsends h.1
  · intro h
    exact (exports_of_cutsCleanly hparses hdescribes hprints h hsends).2

end Runs

/-! ## A client that empties the export, and one that does not -/

/-- An action type whose 64th byte is the first of a character of two. -/
def straddlingType : Text := List.replicate 63 65 ++ text "é"

/-- An action type that is cut after its 64th byte too, which ends a character. -/
def alignedType : Text := List.replicate 62 65 ++ text "é!"

/-- An ACTION with this type. -/
def typedEnvelope (actionType : Text) : Json :=
  clientEnvelope MessageType.action [(text "session_id", .string (generateSessionId 0 0)),
    (text "action_type", .string actionType), (text "sequence_number", .integer 0)]

/-- A library that knows the two messages of the client. -/
def typedLib (actionType : Text) : JsonLib :=
  .knowing [handshakeEnvelope, typedEnvelope actionType]

/-- `dump` prints a value whose strings are valid UTF-8, and throws on any other. -/
def dumpChecked (j : Json) : Except Text Text :=
  if j.checkUtf8 = true then .ok (j.print 8)
  else .error (text "[json.exception.type_error.316] invalid UTF-8 byte")

theorem dumpChecked_of_stringsUtf8 (j : Json) (h : j.StringsUtf8) : ∃ s, dumpChecked j = .ok s :=
  ⟨_, if_pos h.checkUtf8⟩

/-- An export from its beginning to its end. -/
def exportActions : List MonitoredAction :=
  .beginExport :: List.replicate 6 (.exportNext 0 0)

/-- The client is authenticated and sends the ACTION. -/
def typedClient (actionType : Text) : List WorldAction :=
  .create 0 (seconds 10) :: (connectActions []).map (.ofAction 0 0) ++
    [.session 0 (.onRead (.message ((typedEnvelope actionType).print 4) (seconds 1) 10 10)),
      .session 0 (.handleMessage 10000 10000)]

/-- Afterwards the metrics are exported. -/
def typedActions (actionType : Text) : List MonitoredAction :=
  (typedClient actionType).map (.world 0) ++ exportActions

def straddlingRun : MonitoredWorld × List MonitoredEvent :=
  (Machine.exec (MonitoredWorld.step (typedLib straddlingType) dumpChecked) (.initial 0)
    (typedActions straddlingType)).get (by decide +kernel)

theorem run_straddlingRun :
    (monitored (typedLib straddlingType) dumpChecked).Run (.initial 0) (typedActions straddlingType)
      straddlingRun.2 straddlingRun.1 := Machine.run_get _

def alignedRun : MonitoredWorld × List MonitoredEvent :=
  (Machine.exec (MonitoredWorld.step (typedLib alignedType) dumpChecked) (.initial 0)
    (typedActions alignedType)).get (by decide +kernel)

theorem run_alignedRun :
    (monitored (typedLib alignedType) dumpChecked).Run (.initial 0) (typedActions alignedType)
      alignedRun.2 alignedRun.1 := Machine.run_get _

/-- The message is ASCII but for the character of two bytes in the type. -/
theorem isUtf8_print_typedEnvelope :
    IsUtf8 ((typedEnvelope straddlingType).print 4) ∧
      IsUtf8 ((typedEnvelope alignedType).print 4) := by
  have hsplit : ∀ (before after : Text), (∀ byte ∈ before, byte < 128) →
      (∀ byte ∈ after, byte < 128) → IsUtf8 (before ++ (text "é" ++ after)) := by
    intro before after hbefore hafter
    exact (isUtf8_of_ascii hbefore).append ((isUtf8_text _).append (isUtf8_of_ascii hafter))
  constructor
  · have hprint : (typedEnvelope straddlingType).print 4 =
        ((typedEnvelope straddlingType).print 4).take 114 ++
          (text "é" ++ ((typedEnvelope straddlingType).print 4).drop 116) := by decide +kernel
    rw [hprint]
    exact hsplit _ _ (by decide +kernel) (by decide +kernel)
  · have hprint : (typedEnvelope alignedType).print 4 =
        ((typedEnvelope alignedType).print 4).take 113 ++
          (text "é" ++ ((typedEnvelope alignedType).print 4).drop 115) := by decide +kernel
    rw [hprint]
    exact hsplit _ _ (by decide +kernel) (by decide +kernel)

section Typed

variable {actionType : Text}

theorem sendsJson_typedActions (hutf8 : IsUtf8 ((typedEnvelope actionType).print 4))
    (hne : handshakeEnvelope.print 4 ≠ (typedEnvelope actionType).print 4) :
    ∀ a ∈ typedActions actionType, a.SendsJson (typedLib actionType) := by
  have hfirst : (typedLib actionType).parse (handshakeEnvelope.print 4) = .ok handshakeEnvelope := by
    rw [typedLib, JsonLib.parse_knowing_cons_self]
  have hsecond : (typedLib actionType).parse ((typedEnvelope actionType).print 4) =
      .ok (typedEnvelope actionType) := by
    rw [typedLib, JsonLib.parse_knowing_cons_of_ne hne, JsonLib.parse_knowing_cons_self]
  have hhandshake : IsUtf8 (handshakeEnvelope.print 4) := isUtf8_of_ascii (by decide +kernel)
  simp [typedActions, typedClient, exportActions, connectActions, WorldAction.ofAction,
    MonitoredAction.SendsJson, hfirst, hsecond, hhandshake, hutf8]

theorem parsesUtf8_typedLib (htype : IsUtf8 actionType) : (typedLib actionType).ParsesUtf8 := by
  have hsid : IsUtf8 (generateSessionId 0 0) := isUtf8_generateSessionId 0 0
  have hstrings : (typedEnvelope actionType).StringsUtf8 := by
    apply MessageEnvelope.stringsUtf8_toJson isUtf8_protocolVersion
    apply Json.stringsUtf8_ofFields
    simp [isUtf8_text, Json.stringsUtf8_string, Json.StringsUtf8.integer, hsid, htype]
  apply JsonLib.parsesUtf8_knowing
  simp [stringsUtf8_handshakeEnvelope, hstrings]

end Typed

theorem sendsJson_straddlingRun :
    ∀ a ∈ typedActions straddlingType, a.SendsJson (typedLib straddlingType) :=
  sendsJson_typedActions isUtf8_print_typedEnvelope.1 (by decide +kernel)

/-- What the exports put together and returned. -/
def exportsMade (es : List MonitoredEvent) : List (Json × Text) :=
  es.filterMap fun
    | .exported document result => some (document, result)
    | _ => none

theorem mem_exportsMade {es : List MonitoredEvent} {document : Json} {result : Text} :
    (document, result) ∈ exportsMade es ↔ .exported document result ∈ es := by
  simp only [exportsMade, List.mem_filterMap]
  constructor
  · rintro ⟨e, he, hexported⟩
    cases e with
    | exported => cases hexported; exact he
    | _ => cases hexported
  · exact fun h => ⟨_, h, rfl⟩

/-- The details that were stored. -/
def recordings (es : List MonitoredEvent) : List Text :=
  es.filterMap fun
    | .recorded details => some details
    | _ => none

theorem mem_recordings {es : List MonitoredEvent} {details : Text} :
    details ∈ recordings es ↔ .recorded details ∈ es := by
  simp only [recordings, List.mem_filterMap]
  constructor
  · rintro ⟨e, he, hdetails⟩
    cases e with
    | recorded => cases hdetails; exact he
    | _ => cases hdetails
  · exact fun h => ⟨_, h, rfl⟩

theorem not_storesUtf8_straddlingRun : ¬ StoresUtf8 straddlingRun.2 := by
  intro hstores
  have hbad : ∃ details ∈ recordings straddlingRun.2, ¬ IsUtf8 details := by decide +kernel
  obtain ⟨details, hmem, hdetails⟩ := hbad
  exact hdetails (hstores details (mem_recordings.mp hmem))

/-- The client sends JSON, and from then on the metrics are exported as an empty object. -/
theorem straddlingType_empties_export :
    (monitored (typedLib straddlingType) dumpChecked).Run (.initial 0)
        (typedActions straddlingType) straddlingRun.2 straddlingRun.1 ∧
      (∀ a ∈ typedActions straddlingType, a.SendsJson (typedLib straddlingType)) ∧
      ¬ StoresUtf8 straddlingRun.2 ∧
      (exportsMade straddlingRun.2).map Prod.snd = [text "{}"] :=
  ⟨run_straddlingRun, sendsJson_straddlingRun, not_storesUtf8_straddlingRun, by decide +kernel⟩

theorem storesUtf8_alignedRun : StoresUtf8 alignedRun.2 := by
  have hstored : ∀ details ∈ recordings alignedRun.2, IsUtf8 details := by decide +kernel
  exact fun details hmem => hstored details (mem_recordings.mpr hmem)

theorem exportsInFull_alignedRun : ExportsInFull dumpChecked alignedRun.2 := by
  have hmade : ∀ made ∈ exportsMade alignedRun.2, dumpChecked made.1 = .ok made.2 ∧
      ∀ sec ∈ ExportSection.all, made.1.contains sec.key = true := by decide +kernel
  intro document result hmem
  obtain ⟨hdump, hcontains⟩ := hmade (document, result) (mem_exportsMade.mpr hmem)
  exact ⟨hdump, fun sec => hcontains sec (by cases sec <;> simp [ExportSection.all])⟩

/-- The run of the one client, which stores a line and exports a document, keeps to the condition;
that of the other does not. -/
theorem exports_iff_alignedRun :
    (recordings alignedRun.2).length = 1 ∧ (exportsMade alignedRun.2).length = 1 ∧
      ((monitored (typedLib alignedType) dumpChecked).restrict
        (MonitoredWorld.CutsCleanly (typedLib alignedType))).Run (.initial 0)
          (typedActions alignedType) alignedRun.2 alignedRun.1 ∧
      ¬ ((monitored (typedLib straddlingType) dumpChecked).restrict
        (MonitoredWorld.CutsCleanly (typedLib straddlingType))).Run (.initial 0)
          (typedActions straddlingType) straddlingRun.2 straddlingRun.1 := by
  refine ⟨by decide +kernel, by decide +kernel, ?_, ?_⟩
  · have hsends : ∀ a ∈ typedActions alignedType, a.SendsJson (typedLib alignedType) :=
      sendsJson_typedActions isUtf8_print_typedEnvelope.2 (by decide +kernel)
    exact (exports_iff (parsesUtf8_typedLib (by decide +kernel)) (JsonLib.describesUtf8_knowing _)
      dumpChecked_of_stringsUtf8 run_alignedRun hsends).mp
        ⟨storesUtf8_alignedRun, exportsInFull_alignedRun⟩
  · intro h
    have hexports := (exports_iff (parsesUtf8_typedLib (by decide +kernel))
      (JsonLib.describesUtf8_knowing _) dumpChecked_of_stringsUtf8 run_straddlingRun
      sendsJson_straddlingRun).mpr h
    exact not_storesUtf8_straddlingRun hexports.1

end CppSim.Server
