import CppSim.Server.HandshakeGate
import CppSim.Server.Session.PlainLog

/-!
# The log of the server

`logged` is a world whose events are the lines of the log: those that the sessions write and
those of the connection manager.  `plainLog_iff` says when no client can put a control character
into it, so that each event stays on a line of its own: exactly if each message that a session
handles shows none.  `forgedVersion_forges` is a client that writes a line of its own.
-/

namespace CppSim.Server

open Protocol

/-- `unregister_session`: the line about an entry that was removed. -/
def ConnectionManager.unregisterLines (m : ConnectionManager) : Event → List LogLine
  | .unregister sid =>
      if sid ∈ m.sessions then
        [.message (text "[ConnectionManager] Unregistered session: " ++ sanitizeSessionId sid ++
          text " (remaining: " ++ toText (m.unregisterSession sid).sessionCount ++ text ")")]
      else []
  | _ => []

namespace World

/-- The lines of what a step does to session `i`. -/
def linesOf (lib : JsonLib) (w : World) (a : WorldAction) (i : ℕ) : List LogLine :=
  match w.sessions[i]?, w.actionOn i a with
  | some s, some b =>
      (s.step lib b).elim [] fun r => r.log ++ r.events.flatMap w.manager.unregisterLines
  | _, _ => []

/-- `stop_all`: the line at its end. -/
def stopLines (w : World) : WorldAction → List LogLine
  | .stopReturn call =>
      (w.stops[call]?).elim [] fun c =>
        [.message (text "[ConnectionManager] Stopped " ++ toText c.sessionsToStop.length ++
          text " session(s).")]
  | _ => []

/-- The lines of a step. -/
def lines (lib : JsonLib) (w : World) (a : WorldAction) : List LogLine :=
  (List.range w.sessions.length).flatMap (w.linesOf lib a) ++ w.stopLines a

/-- One step, with its lines. -/
def logStep (lib : JsonLib) (w : World) (a : WorldAction) : Option (World × List LogLine) :=
  (w.step lib a).map fun next => (next.1, w.lines lib a)

end World

/-- The machine of a world, of which the log is seen. -/
def logged (lib : JsonLib) : Machine World WorldAction LogLine := Machine.ofStep (World.logStep lib)

/-- The texts of the errors of a session's transport have no control character. -/
def WorldAction.TransportPlain : WorldAction → Prop
  | .session _ b => ∀ what ∈ b.what?, IsPlain what
  | _ => True

/-- Each message that a session handles in this step shows no control character. -/
def World.HandlesPlainly (lib : JsonLib) (w : World) (a : WorldAction) : Prop :=
  ∀ i, World.On (fun s b => ∀ message, s.Handles b message → ShowsPlainly lib s.state message) i w a

/-! ## Session ids -/

theorem isPlain_generateSessionId (id : UInt64) (rnd : UInt32) : IsPlain (generateSessionId id rnd) := by
  have hdigits : ∀ n < 16, isControl (hexDigits.getD n 0) = false := by decide +kernel
  refine (isPlain_text rfl : IsPlain (text "sess_")).append fun byte hbyte => ?_
  obtain ⟨i, hi, rfl⟩ := List.mem_map.mp hbyte
  rw [toNat_hexDigit _ (List.mem_range.mp hi)]
  exact hdigits _ (Nat.mod_lt _ (by decide))

theorem Action.Generates.isPlain {sid : Text} (h : (Action.generated sid).Generates) : IsPlain sid := by
  rcases h with ⟨id, rnd, rfl⟩ | ⟨id, rfl⟩
  · exact isPlain_generateSessionId id rnd
  · exact (isPlain_text rfl : IsPlain (text "sess_")).append (isPlain_toText _)

/-- Every session holds plain ids. -/
def World.IdsPlain (w : World) : Prop := ∀ s ∈ w.sessions, IdsHold IsPlain s

section Runs

variable {lib : JsonLib} {w w' : World} {a : WorldAction} {as : List WorldAction} {i : ℕ}
  {es : List WorldEvent} {lines : List LogLine}

theorem World.IdsPlain.step (inv : w.IdsPlain) (h : (world lib).step w a es w') : w'.IdsPlain :=
  idsHold_step isPlain_nil (fun _ => Action.Generates.isPlain) h inv

/-- The errors of the transport that a session is told of are those of the step. -/
theorem WorldAction.TransportPlain.what {b : Action} (h : a.TransportPlain)
    (hb : w.actionOn i a = some b) : ∀ what ∈ b.what?, IsPlain what := by
  cases a with
  | session j c =>
      simp only [World.actionOn, Option.ite_none_right_eq_some, Option.some.injEq] at hb
      obtain ⟨-, rfl⟩ := hb
      exact h
  | create | stopAll | stopReturn => cases hb
  | emplace =>
      simp only [World.actionOn, Option.ite_none_right_eq_some] at hb
      obtain ⟨-, hb⟩ := hb
      split at hb <;> cases hb
      simp [Action.what?]
  | generate | generateFallback | stopClose | stopDispatch =>
      simp only [World.actionOn] at hb
      split at hb <;> cases hb
      simp [Action.what?]

/-- The manager's lines show the ids of sessions. -/
theorem plainLog_unregisterLines {s t : WebsocketSession} {b : Action} {fs : List Event}
    (m : ConnectionManager) (ids : IdsHold IsPlain s) (h : Transition lib s b fs t) :
    PlainLog (fs.flatMap m.unregisterLines) := by
  have hunregistered : IsPlain (text "[ConnectionManager] Unregistered session: ") := isPlain_text rfl
  have hremaining : IsPlain (text " (remaining: ") := isPlain_text rfl
  have hclose : IsPlain (text ")") := isPlain_text rfl
  intro line hline
  obtain ⟨e, he, hline⟩ := List.mem_flatMap.mp hline
  cases e with
  | unregister sid =>
      have hsid : IsPlain sid := by
        rcases (h.of_unregister he).2 with hstrand | ⟨rfl, -⟩
        · exact ids.heldId sid (by rw [hstrand]; rfl)
        · exact ids.sessionId
      simp only [ConnectionManager.unregisterLines] at hline
      split at hline
      · rw [List.mem_singleton.mp hline]
        exact (((hunregistered.append hsid.sanitizeSessionId).append hremaining).append
          (isPlain_toText _)).append hclose
      · cases hline
  | _ => cases hline

theorem plainLog_linesOf (hlib : lib.DescribesPlainly) (inv : w.IdsPlain) (hplain : a.TransportPlain)
    (h : (world lib).step w a es w') (i : ℕ) :
    PlainLog (w.linesOf lib a i) ↔
      World.On (fun s b => ∀ message, s.Handles b message → ShowsPlainly lib s.state message) i w
        a := by
  unfold World.linesOf World.On
  cases hget : w.sessions[i]? with
  | none => exact iff_of_true plainLog_nil (by simp)
  | some s =>
      cases hb : w.actionOn i a with
      | none => exact iff_of_true plainLog_nil (by simp)
      | some b =>
          rcases step_on h hget with ⟨hnone, -⟩ | ⟨b', t, hb', -, -, hown, -⟩
          · rw [hb] at hnone
            cases hnone
          · cases hb.symm.trans hb'
            have ids := inv s (List.mem_of_getElem? hget)
            have hmanager := plainLog_unregisterLines w.manager ids (transition_of_step hown).2
            obtain ⟨r, hr, hnext⟩ := Option.map_eq_some_iff.mp hown
            obtain ⟨-, hevents⟩ := Prod.mk.inj hnext
            rw [← hevents] at hmanager
            have hplainLog := WebsocketSession.plain_of_step hlib ids (hplain.what hb) hr
            simp only [hr, Option.elim_some, plainLog_append, and_iff_left hmanager]
            constructor
            · rintro hlog _ _ ⟨⟩ ⟨⟩
              exact hplainLog.mp hlog
            · exact fun hon => hplainLog.mpr (hon s b rfl rfl)

/-- A step logs a control character exactly if a session handles a message that shows one. -/
theorem plainLog_lines (hlib : lib.DescribesPlainly) (inv : w.IdsPlain) (hplain : a.TransportPlain)
    (h : (world lib).step w a es w') :
    PlainLog (w.lines lib a) ↔ w.HandlesPlainly lib a := by
  have hstopped : IsPlain (text "[ConnectionManager] Stopped ") := isPlain_text rfl
  have hsessions : IsPlain (text " session(s).") := isPlain_text rfl
  have hstop : PlainLog (w.stopLines a) := by
    unfold World.stopLines
    split
    · rename_i call
      cases w.stops[call]? with
      | none => exact plainLog_nil
      | some c =>
          exact plainLog_message_singleton.mpr ((hstopped.append (isPlain_toText _)).append hsessions)
    · exact plainLog_nil
  rw [World.lines, plainLog_append, and_iff_left hstop]
  constructor
  · intro hlines i
    rcases Nat.lt_or_ge i w.sessions.length with hlt | hge
    · refine (plainLog_linesOf hlib inv hplain h i).mp fun line hline => ?_
      exact hlines line (List.mem_flatMap.mpr ⟨i, List.mem_range.mpr hlt, hline⟩)
    · intro s b hget
      rw [List.getElem?_eq_none_iff.mpr hge] at hget
      cases hget
  · intro hhandles line hline
    obtain ⟨i, -, hline⟩ := List.mem_flatMap.mp hline
    exact (plainLog_linesOf hlib inv hplain h i).mpr (hhandles i) line hline

/-- The clients put no control character into the log exactly if each message that a session
handles shows none. -/
theorem plainLog_iff (hlib : lib.DescribesPlainly) (run : (logged lib).Run .initial as lines w)
    (hplain : ∀ a ∈ as, a.TransportPlain) :
    PlainLog lines ↔
      ((logged lib).restrict (World.HandlesPlainly lib)).Run .initial as lines w := by
  have hworld : ∀ w a lines w', (logged lib).step w a lines w' →
      ∃ es, (world lib).step w a es w' ∧ lines = w.lines lib a := by
    intro w a lines w' h
    obtain ⟨⟨w', es⟩, hstep, hnext⟩ := Option.map_eq_some_iff.mp h
    cases hnext
    exact ⟨es, hstep, rfl⟩
  refine run.forall_mem_iff_restrict (I := World.IdsPlain) (by simp [World.IdsPlain, World.initial])
    hplain ?_ ?_
  · intro w a lines w' inv _ h
    obtain ⟨es, hstep, -⟩ := hworld w a lines w' h
    exact inv.step hstep
  · intro w a lines w' inv ha h
    obtain ⟨es, hstep, rfl⟩ := hworld w a lines w' h
    exact plainLog_lines hlib inv ha hstep

end Runs

/-! ## A client that writes a line of its own, and one that does not -/

/-- A version whose line break ends the line that shows it. -/
def forgedVersion : Text := text "v2\n[Main] Server stopped."

/-- The HANDSHAKE with this version, as the client writes it. -/
def forgedMessage : Text :=
  text "\x7b\"message_type\":\"HANDSHAKE\",\"payload\":\x7b\"protocol_version\":" ++
    text "\"v2\\n[Main] Server stopped.\"\x7d,\"protocol_version\":" ++
    text "\"v2\\n[Main] Server stopped.\"\x7d"

/-- What the library makes of it. -/
def forgedEnvelope : Json := versionEnvelope forgedVersion

/-- A library that knows the text. -/
def forgedLib : JsonLib :=
  { JsonLib.knowing [] with
    parse := fun s =>
      if s = forgedMessage then .ok forgedEnvelope
      else .error (text "[json.exception.parse_error.101] parse error") }

theorem describesPlainly_forgedLib : forgedLib.DescribesPlainly where
  parse message what h := by
    simp only [forgedLib] at h
    split at h <;> cases h
    exact isPlain_text rfl
  dump := (JsonLib.describesPlainly_knowing []).dump
  what := (JsonLib.describesPlainly_knowing []).what

def forgedActions : List WorldAction :=
  [.create 0 (seconds 10), .session 0 .armDeadline, .session 0 .startAccept,
    .session 0 (.onAccept none), .session 0 .resume,
    .session 0 (.onRead (.message forgedMessage (seconds 1) 10 10)),
    .session 0 (.handleMessage 10000 10000)]

def forgedRun : World × List LogLine :=
  (Machine.exec (World.logStep forgedLib) .initial forgedActions).get (by decide +kernel)

theorem run_forgedRun : (logged forgedLib).Run .initial forgedActions forgedRun.2 forgedRun.1 :=
  Machine.run_get _

theorem transportPlain_forgedActions : ∀ a ∈ forgedActions, a.TransportPlain := by
  simp [forgedActions, WorldAction.TransportPlain, Action.what?]

/-- The log has two lines of text, the second of them in two lines. -/
theorem texts_forgedRun : forgedRun.2.map LogLine.text =
    [text "[WebSocketSession] Connection accepted. Waiting for handshake...",
      text "[WebSocketSession] Handshake error: Incompatible version v2\n[Main] Server stopped."] := by
  decide +kernel

theorem not_plainLog_forgedRun : ¬ PlainLog forgedRun.2 := by
  intro hplain
  have htexts : ∀ line ∈ forgedRun.2.map LogLine.text, IsPlain line := List.forall_mem_map.mpr hplain
  rw [texts_forgedRun] at htexts
  revert htexts
  decide +kernel

/-- A client of an earlier version is refused, and the write of its ERROR fails. -/
def outdatedActions : List WorldAction :=
  [.create 0 (seconds 10), .session 0 .armDeadline, .session 0 .startAccept,
    .session 0 (.onAccept none), .session 0 .resume,
    .session 0 (.onRead (.message (outdatedEnvelope.print 4) (seconds 1) 10 10)),
    .session 0 (.handleMessage 10000 10000), .session 0 .resume, .session 0 .resume,
    .session 0 .resume, .session 0 .resume, .session 0 (.rearm (seconds 86400)),
    .session 0 .doWrite, .session 0 .resume, .session 0 (.onWrite (some (text "Broken pipe")))]

def outdatedRun : World × List LogLine :=
  (Machine.exec (World.logStep (.knowing [outdatedEnvelope])) .initial outdatedActions).get
    (by decide +kernel)

theorem run_outdatedRun :
    (logged (.knowing [outdatedEnvelope])).Run .initial outdatedActions outdatedRun.2 outdatedRun.1 :=
  Machine.run_get _

theorem transportPlain_outdatedActions : ∀ a ∈ outdatedActions, a.TransportPlain := by
  have hwhat : IsPlain (text "Broken pipe") := isPlain_text rfl
  simp [outdatedActions, WorldAction.TransportPlain, Action.what?, hwhat]

theorem plainLog_outdatedRun : PlainLog outdatedRun.2 := by
  have htexts : ∀ line ∈ outdatedRun.2.map LogLine.text, IsPlain line := by decide +kernel
  exact fun line hline => htexts line.text (List.mem_map_of_mem hline)

/-- The run of the one client keeps to the condition, that of the other does not. -/
theorem plainLog_iff_outdatedRun :
    ((logged (.knowing [outdatedEnvelope])).restrict
        (World.HandlesPlainly (.knowing [outdatedEnvelope]))).Run .initial outdatedActions
          outdatedRun.2 outdatedRun.1 ∧
      ¬ ((logged forgedLib).restrict (World.HandlesPlainly forgedLib)).Run .initial forgedActions
        forgedRun.2 forgedRun.1 := by
  constructor
  · exact (plainLog_iff (JsonLib.describesPlainly_knowing _) run_outdatedRun
      transportPlain_outdatedActions).mp plainLog_outdatedRun
  · intro h
    exact not_plainLog_forgedRun
      ((plainLog_iff describesPlainly_forgedLib run_forgedRun transportPlain_forgedActions).mpr h)

/-- A client that is not authenticated forges a line of the log. -/
theorem forgedVersion_forges :
    ¬ ∀ (lib : JsonLib) (as : List WorldAction) (lines : List LogLine) (w : World),
      lib.DescribesPlainly → (logged lib).Run .initial as lines w →
        (∀ a ∈ as, a.TransportPlain) → PlainLog lines := by
  intro hplain
  exact not_plainLog_forgedRun (hplain forgedLib forgedActions forgedRun.2 forgedRun.1
    describesPlainly_forgedLib run_forgedRun transportPlain_forgedActions)

end CppSim.Server
