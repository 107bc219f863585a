import CppSim.Common.Routes
import CppSim.Server.HandshakeGate
import CppSim.Server.Session.ReloadCycle
import CppSim.Server.Session.Window

/-!
# Configured and enforced limits

The runtime configuration holds a limit for the sessions, one for the write queue of a
session and one for the amount of a message.  The registry, the write queue and the
parsers never ask for them: they compare with the constants `MAX_CONNECTIONS`,
`MAX_WRITE_QUEUE_SIZE` and `MAX_AMOUNT`.

`Enforced` says that the limits of a configuration hold while it is in force, and that a
session has room for the replies of a window, which the loader checks for.
`enforced_iff` says for which configurations they do: those whose limits are no lower than
the constants, and whose window admits fewer messages than the constant queue holds.

The failing runs are those of clients that keep within the rate limit: one session more
than the limit joins (`exists_registered`), and a client reloads without reading the
responses.
-/

namespace CppSim.Server

open Protocol

/-! ## The configuration in force -/

/-- Every reading that the step makes of the configuration finds its values. -/
def RuntimeConfig.ReadIn (config : RuntimeConfig) : WorldAction → Prop
  | .session _ a => config.ReadBy a
  | _ => True

/-- The runs of a world while the configuration is in force. -/
def ConfiguredRun (lib : JsonLib) (config : RuntimeConfig) :
    World → List WorldAction → List WorldEvent → World → Prop :=
  ((world lib).restrict fun _ a => config.ReadIn a).Run

/-- The world can be in this state while the configuration is in force, whatever happened
before it was loaded. -/
def InForce (lib : JsonLib) (config : RuntimeConfig) (w : World) : Prop :=
  ∃ before history loaded as es,
    WorldRun lib before history loaded ∧ ConfiguredRun lib config loaded as es w

/-- A step of the world while the configuration is in force. -/
structure StepInForce (lib : JsonLib) (config : RuntimeConfig) (w : World) (a : WorldAction)
    (es : List WorldEvent) (w' : World) : Prop where
  inForce : InForce lib config w
  reads : config.ReadIn a
  step : (world lib).step w a es w'

/-- The steps of a world in which no other thread sends a message to session `i`. -/
def Unsent (config : RuntimeConfig) (i : ℕ) (a : WorldAction) : Prop :=
  config.ReadIn a ∧ ∀ message, a ≠ .session i (.send message)

/-- The text is an ACTION or a RELOAD_REQUEST with this amount. -/
inductive HasAmount (lib : JsonLib) (message : Text) (amount : Int64) : Prop
  | action {j : Json} {action : ActionMessage} (hparse : lib.parse message = .ok j)
      (hcarries : Carries ActionMessage.fromJson MessageType.action protocolVersion j action)
      (hamount : action.amount = some amount)
  | reload {j : Json} {reload : ReloadRequestMessage} (hparse : lib.parse message = .ok j)
      (hcarries : Carries ReloadRequestMessage.fromJson MessageType.reloadRequest protocolVersion
        j reload)
      (hamount : reload.requestedAmount = amount)

/-- The event reports that an ACTION or a RELOAD_REQUEST was accepted. -/
def Event.accepts : Event → Prop
  | .actionAccepted _ _ | .reloadAccepted _ => True
  | _ => False

/-- The limits of the configuration hold while it is in force. -/
structure Enforced (config : RuntimeConfig) : Prop where
  /-- No insertion brings the number of sessions above the limit. -/
  connections : ∀ {lib w a es w' i sid}, StepInForce lib config w a es w' →
    .session i (.registered sid) ∈ es → (w'.manager.sessionCount : ℤ) ≤ config.maxConnections.toInt
  /-- No message that is queued brings a queue above the limit. -/
  writeQueue : ∀ {lib w a es w' i source message s}, StepInForce lib config w a es w' →
    .session i (.queued source message) ∈ es → w'.sessions[i]? = some s →
      s.writeQueue.length ≤ config.maxWriteQueueSize.toNat
  /-- No message with an amount above the limit is accepted. -/
  amounts : ∀ {lib w a es w' i e message s amount}, StepInForce lib config w a es w' →
    .session i e ∈ es → e.accepts → w.sessions[i]? = some s → s.strand = .checkBurst message →
      HasAmount lib message amount → amount ≤ config.maxAmount
  /-- A session whose queue is empty when a window starts has room for the replies to the
  messages of the window: those that are refused are refused because it is closing. -/
  replies : ∀ {lib w as es v a fs v' i source message s t}, InForce lib config w →
    w.sessions[i]? = some s → s.strand = .idle → s.writeQueue = [] →
      ((world lib).restrict fun _ a => Unsent config i a).Run w as es v →
      v.sessions[i]? = some t → t.now ≤ s.now + config.window → Unsent config i a →
      (world lib).step v a fs v' → .session i (.refused source message) ∈ fs →
        t.isClosing = true

section Constants

variable {lib : JsonLib} {config : RuntimeConfig} {w w' : World} {a : WorldAction}
  {es : List WorldEvent} {i : ℕ} {s t : WebsocketSession}

theorem InForce.run (h : InForce lib config w) : ∃ as es, WorldRun lib as es w := by
  obtain ⟨before, history, loaded, as, es, reached, configured⟩ := h
  exact ⟨_, _, reached.trans configured.of_restrict⟩

/-! ## The constants are enforced -/

/-- An insertion finds the registry below its constant limit. -/
theorem sessionCount_le_of_registered {sid : Text} (h : (world lib).step w a es w')
    (hmem : .session i (.registered sid) ∈ es) :
    w'.manager.sessionCount ≤ Config.maxConnections := by
  cases worldTransition_of_step h with
  | @registered j attempt count sid' s t hget hstrand hroom hfree hstep =>
      have hcount : (w.manager.sessions.insert sid' j).entries.length =
          w.manager.sessions.entries.length + 1 := by
        rw [AList.entries_insert_of_notMem hfree, List.length_cons]
      exact hcount.trans_le hroom
  | own _ hallows hown =>
      obtain ⟨e, he, heq⟩ := List.mem_map.mp hmem
      cases heq
      exact absurd he (registered_notMem hallows hown)
  | swept => simp at hmem
  | created | generated | fallback | refused | closing | dispatching | returned => simp at hmem

/-- Every write queue is below its constant limit. -/
theorem length_writeQueue_le {as : List WorldAction} (run : WorldRun lib as es w)
    (hget : w.sessions[i]? = some s) : s.writeQueue.length ≤ Config.maxWriteQueueSize := by
  obtain ⟨_, _, _, own⟩ := session_of_world run hget
  exact (writePipeline_safe own).2.2.2.2.1

/-- What is accepted has an amount that the parser lets pass. -/
theorem amount_le_of_accepts {e : Event} {b : Action} {message : Text} {amount : Int64}
    (h : Emits lib s b e) (haccepts : e.accepts) (hstrand : s.strand = .checkBurst message)
    (hamount : HasAmount lib message amount) : amount ≤ maxAmount := by
  cases h with
  | actionAccepted hstrand' hverdict =>
      obtain rfl := Strand.checkBurst.inj (hstrand.symm.trans hstrand')
      obtain ⟨_, header, hheader, -, haction⟩ := WebsocketSession.handle_eq_acceptAction.mp hverdict
      obtain ⟨action, hparse, -⟩ := WebsocketSession.handleAction_eq_acceptAction.mp haction
      obtain ⟨hcarries, hvalid⟩ := parseActionFromEnvelope_eq_some.mp hparse
      obtain ⟨htext, -⟩ := extractMessageTypeAndJson_eq_some.mp hheader
      cases hamount with
      | action hparse' hcarries' hamount' =>
          rw [htext] at hparse'
          cases hparse'
          rw [← hcarries.eq hcarries'] at hamount'
          exact (hvalid.amount amount hamount').2
      | reload hparse' hcarries' =>
          rw [htext] at hparse'
          cases hparse'
          exact absurd (hcarries.messageType_eq hcarries') (by decide)
  | reloadAccepted hstrand' hverdict =>
      obtain rfl := Strand.checkBurst.inj (hstrand.symm.trans hstrand')
      obtain ⟨_, header, hheader, -, hreload⟩ := WebsocketSession.handle_eq_acceptReload.mp hverdict
      obtain ⟨reload, hparse, -⟩ := WebsocketSession.handleReloadMsg_eq_acceptReload.mp hreload
      obtain ⟨hcarries, hvalid⟩ := parseReloadFromEnvelope_eq_some.mp hparse
      obtain ⟨htext, -⟩ := extractMessageTypeAndJson_eq_some.mp hheader
      cases hamount with
      | action hparse' hcarries' =>
          rw [htext] at hparse'
          cases hparse'
          exact absurd (hcarries.messageType_eq hcarries') (by decide)
      | reload hparse' hcarries' hamount' =>
          rw [htext] at hparse'
          cases hparse'
          rw [← hamount', ← hcarries.eq hcarries']
          exact hvalid.requestedAmount.2
  | _ => exact haccepts.elim

/-! ## Replies within a window -/

theorem windowed_of_actionOn {b : Action} (h : Unsent config i a) (hb : w.actionOn i a = some b) :
    b.Windowed config.window config.maxMessagesPerWindow.toNat := by
  obtain ⟨hreads, hunsent⟩ := h
  cases a with
  | session j c =>
      obtain ⟨rfl, hc⟩ : j = i ∧ c = b := by
        by_cases hij : j = i
        · exact ⟨hij, Option.some.inj ((if_pos hij).symm.trans hb)⟩
        · cases (if_neg hij).symm.trans hb
      subst hc
      cases c with
      | onRead result =>
          cases result with
          | failed => trivial
          | message => exact ⟨hreads.1, hreads.2.1⟩
      | send message => exact hunsent message rfl
      | _ => trivial
  | generate j rnd =>
      simp only [World.actionOn, Option.ite_none_right_eq_some, Option.some.injEq] at hb
      obtain ⟨-, rfl⟩ := hb
      trivial
  | generateFallback j =>
      simp only [World.actionOn, Option.ite_none_right_eq_some, Option.some.injEq] at hb
      obtain ⟨-, rfl⟩ := hb
      trivial
  | emplace j =>
      simp only [World.actionOn, Option.ite_none_right_eq_some] at hb
      obtain ⟨-, hb⟩ := hb
      split at hb
      · cases hb
        trivial
      · cases hb
  | stopClose call j =>
      simp only [World.actionOn, Option.ite_none_right_eq_some, Option.some.injEq] at hb
      obtain ⟨-, rfl⟩ := hb
      trivial
  | stopDispatch call =>
      simp only [World.actionOn, Option.ite_none_right_eq_some, Option.some.injEq] at hb
      obtain ⟨-, rfl⟩ := hb
      trivial
  | create | stopAll | stopReturn => cases hb

/-- The invariant of a session from the start of a window on, in a world. -/
theorem windowInv_of_run {v : World} {as before : List WorldAction} {history fs : List WorldEvent}
    (reached : WorldRun lib before history w) (hget : w.sessions[i]? = some s)
    (hidle : s.strand = .idle) (hqueue : s.writeQueue = [])
    (run : ((world lib).restrict fun _ a => Unsent config i a).Run w as fs v) :
    ∃ t, v.sessions[i]? = some t ∧
      WindowInv s.now config.window config.maxMessagesPerWindow.toNat t := by
  induction run with
  | refl => exact ⟨s, hget, windowInv_start hidle hqueue⟩
  | @tail v v' as a fs gs run hstep ih =>
      obtain ⟨t, hget', inv⟩ := ih
      obtain ⟨hunsent, hstep⟩ := hstep
      rcases step_on hstep hget' with ⟨-, -, hsame, -⟩ | ⟨b, u, hb, -, -, hown, hget''⟩
      · exact ⟨t, hsame, inv⟩
      · have control := (session_invariants (reached.trans run.of_restrict) hget').1
        exact ⟨u, hget'', inv.step control (windowed_of_actionOn hunsent hb)
          (transition_of_step hown).2⟩

/-- Where a window admits fewer messages than the queue holds, it has room for the replies. -/
theorem isClosing_of_refused {v v' : World} {as before : List WorldAction}
    {history fs gs : List WorldEvent} {source : Source} {message : Text}
    (hmax : config.maxMessagesPerWindow.toNat < Config.maxWriteQueueSize)
    (reached : WorldRun lib before history w) (hget : w.sessions[i]? = some s)
    (hidle : s.strand = .idle) (hqueue : s.writeQueue = [])
    (run : ((world lib).restrict fun _ a => Unsent config i a).Run w as fs v)
    (hget' : v.sessions[i]? = some t) (hend : t.now ≤ s.now + config.window)
    (hunsent : Unsent config i a) (hstep : (world lib).step v a gs v')
    (hmem : .session i (.refused source message) ∈ gs) : t.isClosing = true := by
  obtain ⟨t', hsame, inv⟩ := windowInv_of_run reached hget hidle hqueue run
  obtain rfl := Option.some.inj (hget'.symm.trans hsame)
  rw [← mem_ownEvents] at hmem
  rcases step_on hstep hget' with ⟨-, -, -, hnone⟩ | ⟨b, u, hb, -, -, hown, -⟩
  · rw [hnone] at hmem
    cases hmem
  · have hwindowed := windowed_of_actionOn hunsent hb
    by_contra hopen
    have hopen' : t.isClosing = false := by simpa using hopen
    cases (transition_of_step hown).2.emits hmem with
    | callerRefused => exact hwindowed
    | refused hsends hreason =>
        rcases hreason with hclosing | hfull
        · exact hopen hclosing
        · have hlength := inv.length_le hend hopen' hsends
          omega

/-- Limits that are no lower than the constants are enforced. -/
theorem enforced_of_constants (hconnections : (Config.maxConnections : ℤ) ≤ config.maxConnections.toInt)
    (hqueue : Config.maxWriteQueueSize ≤ config.maxWriteQueueSize.toNat)
    (hamount : config.maxAmount = maxAmount)
    (hmax : config.maxMessagesPerWindow.toNat < Config.maxWriteQueueSize) : Enforced config where
  connections h hmem := by
    have hcount := sessionCount_le_of_registered h.step hmem
    omega
  writeQueue h _ hget := by
    obtain ⟨_, _, run⟩ := h.inForce.run
    exact (length_writeQueue_le (run.trans (.single h.step)) hget).trans hqueue
  amounts h hmem haccepts hget hstrand hamount' := by
    rw [hamount]
    rcases step_on h.step hget with ⟨-, -, -, hnone⟩ | ⟨b, t, -, -, -, hown, -⟩
    · rw [← mem_ownEvents, hnone] at hmem
      cases hmem
    · exact amount_le_of_accepts ((transition_of_step hown).2.emits (mem_ownEvents.mpr hmem))
        haccepts hstrand hamount'
  replies h hget hidle hqueue' run hget' hend hunsent hstep hmem := by
    obtain ⟨_, _, reached⟩ := h.run
    exact isClosing_of_refused hmax reached hget hidle hqueue' run hget' hend hunsent hstep hmem

end Constants

/-! ## A session on its own in a world -/

section Lift

variable {lib : JsonLib} {config : RuntimeConfig} {w : World} {i : ℕ} {s t : WebsocketSession}

theorem World.step_own {b : Action} {fs : List Event} (hget : w.sessions[i]? = some s)
    (hown : b.own = true) (h : (session lib).step s b fs t) :
    (world lib).step w (.session i b) (fs.map (.session i))
      { w with sessions := w.sessions.set i t, manager := fs.foldl .observe w.manager } := by
  have hallows : w.allows i b = true := by
    cases b with
    | generated | emplaced | dropManager | destroy => cases hown
    | _ => rfl
  have hstep : sessionStep lib s b = some (t, fs) := h
  simp [world, Machine.ofStep, World.step, hallows, World.member, hget, hstep]

/-- A session may take its steps while nothing else happens. -/
theorem run_of_session {as : List Action} {fs : List Event} (hget : w.sessions[i]? = some s)
    (hown : ∀ a ∈ as, a.own = true) (run : (session lib).Run s as fs t) :
    (world lib).Run w (as.map (.session i)) (fs.map (.session i))
      { w with sessions := w.sessions.set i t, manager := fs.foldl .observe w.manager } := by
  obtain ⟨hi, hat⟩ := List.getElem?_eq_some_iff.mp hget
  induction run with
  | refl =>
      rw [← hat, List.set_getElem_self]
      exact .refl w
  | @tail t u as a fs gs _ hstep ih =>
      have hall : ∀ b ∈ as, b.own = true := fun b hb => hown b (List.mem_append_left _ hb)
      have hnext := World.step_own (w := { w with
          sessions := w.sessions.set i t, manager := fs.foldl .observe w.manager })
        (List.getElem?_set_self hi) (hown a (by simp)) hstep
      rw [List.map_append, List.map_append]
      simpa [List.set_set] using (ih hall).tail hnext

/-- A session that is in force goes on by itself. -/
theorem exists_run_of_reaches (hget : w.sessions[i]? = some s) (h : Reaches lib config s t) :
    ∃ as es v, ((world lib).restrict fun _ a => Unsent config i a).Run w as es v ∧
      v.sessions[i]? = some t := by
  obtain ⟨as, fs, run, hall⟩ := h
  have hi := (List.getElem?_eq_some_iff.mp hget).1
  refine ⟨_, _, _, (run_of_session hget (fun a ha => (hall a ha).1) run).restrict_of_forall ?_,
    List.getElem?_set_self hi⟩
  intro a ha
  obtain ⟨b, hb, rfl⟩ := List.mem_map.mp ha
  obtain ⟨hown, hread⟩ := hall b hb
  refine ⟨hread, ?_⟩
  rintro message ⟨⟩
  cases hown

theorem InForce.trans {v : World} {as : List WorldAction} {es : List WorldEvent}
    (h : InForce lib config w)
    (run : ((world lib).restrict fun _ a => Unsent config i a).Run w as es v) :
    InForce lib config v := by
  obtain ⟨before, history, loaded, as', es', reached, configured⟩ := h
  exact ⟨before, history, loaded, _, _, reached,
    configured.trans (run.mono fun _ _ hunsent => hunsent.1)⟩

theorem InForce.of_reached {as : List WorldAction} {es : List WorldEvent}
    (h : WorldRun lib as es w) : InForce lib config w :=
  ⟨as, es, w, [], [], h, .refl w⟩

end Lift

/-! ## One session more than the limit -/

/-- The id of the client below, and its request, which is for the greatest amount. -/
def clientSid : Text := generateSessionId 0 0

def clientRequest : Json := reloadEnvelope clientSid maxAmount

def clientLib : JsonLib := .knowing [clientRequest, handshakeEnvelope]

/-- A session up to its handshake. -/
def greeting : List Action :=
  [.armDeadline, .startAccept, .onAccept none, .resume,
    .onRead (.message (handshakeEnvelope.print 4) (seconds 1) 10 10), .handleMessage 10000 10000]

/-- A session whose handshake asks for an id. -/
def greeted : WebsocketSession × List Event :=
  (Machine.exec (sessionStep clientLib) (.construct 0 (seconds 10)) greeting).get
    (by decide +kernel)

theorem greeted_run :
    (session clientLib).Run (.construct 0 (seconds 10)) greeting [] greeted.1 := by
  have run : (session clientLib).Run (.construct 0 (seconds 10)) greeting greeted.2 greeted.1 :=
    Machine.run_get _
  rwa [show greeted.2 = [] by decide +kernel] at run

theorem greeted_strand : greeted.1.strand = .generate 0 ∧ greeted.1.destroyed = false := by
  decide +kernel

/-- A world in which the manager has issued this many ids and has this many sessions. -/
structure Registered (issued count : ℕ) (w : World) : Prop where
  reached : ∃ as es, WorldRun clientLib as es w
  counter : w.manager.counter.toNat = issued
  sessionCount : w.manager.sessionCount = count
  ids : ∀ sid ∈ w.manager.sessions, ∃ id : UInt64, id.toNat < count ∧ sid = generateSessionId id 0

theorem registered_initial : Registered 0 0 .initial where
  reached := ⟨[], [], .refl _⟩
  counter := rfl
  sessionCount := rfl
  ids := by
    intro sid hmem
    cases hmem

/-- Session `i` is about to be inserted under an id that is not in use. -/
structure Inserting (w : World) (i : ℕ) (sid : Text) (s : WebsocketSession) : Prop where
  get : w.sessions[i]? = some s
  live : s.destroyed = false
  strand : s.strand = .insert 0 sid
  free : sid ∉ w.manager.sessions

/-- One session more comes to its insertion. -/
theorem Registered.exists_inserting {n : ℕ} {w : World} (h : Registered n n w)
    (hn : n < 2 ^ 32) :
    ∃ w' i id s, Registered (n + 1) n w' ∧ id.toNat = n ∧
      Inserting w' i (generateSessionId id 0) s := by
  obtain ⟨as, es, reached⟩ := h.reached
  let i := w.sessions.length
  let sid := generateSessionId w.manager.counter 0
  let created : World := { w with sessions := w.sessions ++ [.construct 0 (seconds 10)] }
  let waiting : World := { created with sessions := created.sessions.set i greeted.1 }
  let inserting : WebsocketSession := { greeted.1 with strand := .insert 0 sid }
  let generated : World :=
    { waiting with sessions := waiting.sessions.set i inserting,
                   manager := (w.manager.generate 0).2 }
  have hcreated : created.sessions[i]? = some (.construct 0 (seconds 10)) := by simp [created, i]
  have hi : i < created.sessions.length := (List.getElem?_eq_some_iff.mp hcreated).1
  have hwaiting : waiting.sessions[i]? = some greeted.1 := List.getElem?_set_self hi
  have hi' : i < waiting.sessions.length := (List.getElem?_eq_some_iff.mp hwaiting).1
  have hcreate : (world clientLib).step w (.create 0 (seconds 10)) [] created := rfl
  have hgreet : (world clientLib).Run created (greeting.map (.session i)) [] waiting :=
    run_of_session hcreated (by decide) greeted_run
  have hown : sessionStep clientLib greeted.1 (.generated sid) = some (inserting, []) := by
    have hlength : sid.length = 21 := length_generateSessionId _ _
    have hne : sid ≠ [] := by
      intro hnil
      rw [hnil] at hlength
      cases hlength
    simp [sessionStep, WebsocketSession.step, greeted_strand.1, greeted_strand.2,
      WebsocketSession.generated, hne, hlength, Config.maxSessionIdLength, maxSessionIdLength,
      inserting]
  have hgenerate : (world clientLib).step waiting (.generate i 0) [.generated i sid] generated := by
    simp [world, Machine.ofStep, World.step, World.member, ConnectionManager.generate, hwaiting,
      created, waiting, generated, sid, hown]
  have hcounter : (w.manager.counter + 1).toNat = n + 1 := by
    have hone : (1 : UInt64).toNat = 1 := rfl
    rw [UInt64.toNat_add, h.counter, hone]
    exact Nat.mod_eq_of_lt (by omega)
  refine ⟨generated, i, w.manager.counter, inserting, ?_, h.counter, ?_⟩
  · exact ⟨⟨_, _, (reached.tail hcreate).trans (hgreet.tail hgenerate)⟩, hcounter, h.sessionCount,
      h.ids⟩
  · refine ⟨List.getElem?_set_self hi', greeted_strand.2, rfl, ?_⟩
    intro hmem
    obtain ⟨id, hid, hsame⟩ := h.ids _ hmem
    have hcounter' : w.manager.counter.toNat < 2 ^ 32 := by rw [h.counter]; exact hn
    rw [← generateSessionId_inj hcounter' (by omega) hsame, h.counter] at hid
    exact Nat.lt_irrefl n hid

/-- It is inserted while the registry is below its limit. -/
theorem Inserting.step {w : World} {i : ℕ} {sid : Text} {s : WebsocketSession}
    (h : Inserting w i sid s) (hroom : w.manager.sessionCount < Config.maxConnections) :
    (world clientLib).step w (.emplace i) [.session i (.registered sid)]
      { w with sessions := w.sessions.set i { s with strand := .storeId sid },
               manager := { w.manager with sessions := w.manager.sessions.insert sid i } } := by
  obtain ⟨count, htry⟩ : ∃ count, w.manager.tryEmplace sid i =
      (.success count, { w.manager with sessions := w.manager.sessions.insert sid i }) := by
    rw [ConnectionManager.tryEmplace, if_neg (Nat.not_le.mpr hroom), if_neg h.free]
    exact ⟨_, rfl⟩
  have hown : sessionStep clientLib s (.emplaced (.success count)) =
      some ({ s with strand := .storeId sid }, [.registered sid]) := by
    simp [sessionStep, WebsocketSession.step, WebsocketSession.emplaced, h.live, h.strand]
  simp [world, Machine.ofStep, World.step, World.emplace, World.member, h.get, h.strand, htry,
    hown, ConnectionManager.observe]

theorem sessionCount_insert {m : ConnectionManager} {sid : Text} (hfree : sid ∉ m.sessions) (i : ℕ) :
    ({ m with sessions := m.sessions.insert sid i } : ConnectionManager).sessionCount =
      m.sessionCount + 1 := by
  rw [ConnectionManager.sessionCount, AList.entries_insert_of_notMem hfree, List.length_cons]
  rfl

/-- Any number of sessions up to the constant limit may be registered. -/
theorem exists_registered (n : ℕ) (hn : n ≤ Config.maxConnections) : ∃ w, Registered n n w := by
  induction n with
  | zero => exact ⟨.initial, registered_initial⟩
  | succ n ih =>
      have hlarge : Config.maxConnections < 2 ^ 32 := by decide
      obtain ⟨w, hw⟩ := ih (Nat.le_of_succ_le hn)
      obtain ⟨w', i, id, s, hw', hid, hs⟩ := hw.exists_inserting (by omega)
      obtain ⟨as, es, reached⟩ := hw'.reached
      have hroom : w'.manager.sessionCount < Config.maxConnections := by
        rw [hw'.sessionCount]
        exact hn
      refine ⟨_, ⟨_, _, reached.tail (hs.step hroom)⟩, hw'.counter, ?_, ?_⟩
      · rw [sessionCount_insert hs.free, hw'.sessionCount]
      · intro sid hmem
        rcases (AList.mem_insert _).mp hmem with rfl | hmem
        · exact ⟨id, by omega, rfl⟩
        · obtain ⟨id', hid', hsid⟩ := hw'.ids sid hmem
          exact ⟨id', by omega, hsid⟩

/-- A limit below the constant is passed. -/
theorem le_connections_of_enforced {config : RuntimeConfig} (h : Enforced config)
    (hnonneg : 0 ≤ config.maxConnections.toInt) :
    (Config.maxConnections : ℤ) ≤ config.maxConnections.toInt := by
  by_contra hlow
  obtain ⟨n, hn⟩ := Int.eq_ofNat_of_zero_le hnonneg
  rw [hn] at hlow
  have hlt : n < Config.maxConnections := by omega
  have hlarge : Config.maxConnections < 2 ^ 32 := by decide
  obtain ⟨w, hw⟩ := exists_registered n hlt.le
  obtain ⟨w', i, id, s, hw', -, hs⟩ := hw.exists_inserting (by omega)
  obtain ⟨as, es, reached⟩ := hw'.reached
  have hstep := hs.step (by rw [hw'.sessionCount]; exact hlt)
  have hinForce : StepInForce clientLib config w' (.emplace i) _ _ :=
    ⟨.of_reached reached, trivial, hstep⟩
  have hcount := h.connections hinForce (List.mem_singleton_self _)
  rw [sessionCount_insert hs.free, hw'.sessionCount, hn] at hcount
  omega

/-! ## A client that reloads -/

/-- The client is authenticated, and its handshake response waits to be written. -/
def clientActions : List WorldAction :=
  .create 0 (seconds 10) :: (connectActions []).map (.ofAction 0 0) ++
    [.session 0 .doWrite, .session 0 .resume]

def clientWorld : World × List WorldEvent :=
  (Machine.exec (World.step clientLib) .initial clientActions).get (by decide +kernel)

def clientSession : WebsocketSession := (clientWorld.1.sessions[0]?).get (by decide +kernel)

theorem get_clientSession : clientWorld.1.sessions[0]? = some clientSession :=
  Option.some_get _ |>.symm

theorem serving_clientSession : Serving clientSid clientSession := by
  constructor <;> decide +kernel

theorem clientSession_fresh : clientSession.writeQueue = [] ∧
    clientSession.activity.messageCount.toInt = 1 ∧
      clientSession.activity.lastActivity ≤ clientSession.now := by
  decide +kernel

theorem parse_clientRequest : clientLib.parse (clientRequest.print 4) = .ok clientRequest := by
  rw [clientLib, JsonLib.parse_knowing_cons_self]

theorem parseReload_clientRequest :
    (parseReloadFromEnvelope clientLib clientRequest).value = some ⟨clientSid, maxAmount⟩ := by
  decide +kernel

theorem reloads_client : Reloads clientLib clientSid (clientRequest.print 4) maxAmount where
  accepted s gap logged hstate hsid := by
    have hextract : (extractMessageTypeAndJson clientLib (clientRequest.print 4)).value =
        some ⟨MessageType.reloadRequest, clientRequest⟩ :=
      extractMessageTypeAndJson_eq_some.mpr ⟨parse_clientRequest, rfl, by decide⟩
    refine WebsocketSession.handle_eq_acceptReload.mpr ⟨by simp [hstate], _, hextract, rfl, ?_⟩
    exact WebsocketSession.handleReloadMsg_eq_acceptReload.mpr
      ⟨_, parseReload_clientRequest, hsid.symm, rfl⟩
  printsReload _ := ⟨_, rfl⟩
  printsError _ := ⟨_, rfl⟩

section Client

variable {config : RuntimeConfig}

/-- The client at the start of a window. -/
theorem exists_start (hwindow : seconds 1 ≤ config.window) :
    ∃ w s, InForce clientLib config w ∧ w.sessions[0]? = some s ∧ Serving clientSid s ∧
      s.writeQueue = [] ∧ s.recentCount config.window = 0 ∧ s.activity.messageCount.toInt ≤ 1 ∧
      s.activity.lastActivity ≤ s.now := by
  have reached : WorldRun clientLib clientActions clientWorld.2 clientWorld.1 := Machine.run_get _
  obtain ⟨hempty, hcount, hlast⟩ := clientSession_fresh
  obtain ⟨s, hwait, hserving, hqueue, hrecent, hactivity, hnow⟩ :=
    serving_clientSession.wait clientLib config hwindow
  obtain ⟨as, es, w, run, hget⟩ := exists_run_of_reaches get_clientSession hwait
  have hsecond : 0 ≤ seconds 1 := by decide
  refine ⟨w, s, (InForce.of_reached reached).trans run, hget, hserving, hqueue.trans hempty,
    hrecent, ?_, ?_⟩
  · rw [hactivity]
    exact hcount.le
  · rw [hactivity]
    omega

/-- What a session comes to by itself is a state of the world in force. -/
theorem InForce.exists_reached {w : World} {s t : WebsocketSession}
    (h : InForce clientLib config w) (hget : w.sessions[0]? = some s)
    (hreach : Reaches clientLib config s t) :
    ∃ v, InForce clientLib config v ∧ v.sessions[0]? = some t := by
  obtain ⟨as, es, v, run, hget'⟩ := exists_run_of_reaches hget hreach
  exact ⟨v, h.trans run, hget'⟩

/-- A queue limit below the constant is passed: the client sends one message a window. -/
theorem le_writeQueue_of_enforced (h : Enforced config) (hwindow : seconds 1 ≤ config.window)
    (hmax : 0 < config.maxMessagesPerWindow.toNat) :
    Config.maxWriteQueueSize ≤ config.maxWriteQueueSize.toNat := by
  by_contra hlow
  have hlow' : config.maxWriteQueueSize.toNat < Config.maxWriteQueueSize := Nat.not_le.mp hlow
  obtain ⟨w, s, hw, hget, hserving, hempty, -, -, hlast⟩ := exists_start hwindow
  obtain ⟨t, hreach, hserving', hlength, hlast'⟩ :=
    exists_serving config hserving reloads_client hmax hwindow hempty hlast _ hlow'.le
  obtain ⟨u, hwait, hwaiting, hsame, hrecent, hactivity, hnow⟩ :=
    hserving'.wait clientLib config hwindow
  have hlength' : u.writeQueue.length = config.maxWriteQueueSize.toNat := by rw [hsame, hlength]
  have hquiet : (checkSuspiciousActivity u.now u.activity).2 = false :=
    not_suspicious_of_spaced (by rw [hactivity]; omega)
  obtain ⟨v, v', source, response, hreach', hstep, hqueued⟩ :=
    hwaiting.exists_queueing config reloads_client (by omega) (by omega) hquiet
  obtain ⟨x, hx, hget'⟩ := hw.exists_reached hget (hreach.trans (hwait.trans hreach'))
  have hreads : config.ReadIn (.session 0 .resume) := trivial
  have hbound := h.writeQueue ⟨hx, hreads, World.step_own hget' rfl hstep⟩
    (List.mem_singleton_self _)
    (List.getElem?_set_self (List.getElem?_eq_some_iff.mp hget').1)
  omega

/-- An amount limit below the constant is passed. -/
theorem le_amount_of_enforced (h : Enforced config) (hwindow : seconds 1 ≤ config.window)
    (hmax : 0 < config.maxMessagesPerWindow.toNat) : maxAmount ≤ config.maxAmount := by
  obtain ⟨w, s, hw, hget, hserving, -, hrecent, hcount, -⟩ := exists_start hwindow
  obtain ⟨hread, haccept⟩ := hserving.exists_accepting config reloads_client (by omega)
    (not_suspicious_of_few (by omega))
  obtain ⟨v, hv, hget'⟩ := hw.exists_reached hget hread
  have hamount : HasAmount clientLib (clientRequest.print 4) maxAmount :=
    .reload parse_clientRequest (parseReloadFromEnvelope_eq_some.mp parseReload_clientRequest).1 rfl
  have hreads : config.ReadIn
      (.session 0 (.handleMessage config.maxSequenceGap config.maxSequenceGap)) := ⟨rfl, rfl⟩
  exact h.amounts ⟨hv, hreads, World.step_own hget' rfl haccept⟩ (List.mem_singleton_self _)
    trivial hget' rfl hamount

/-- If a window admits as many messages as the queue holds, some reply finds it full. -/
theorem lt_queue_of_enforced (h : Enforced config) (hwindow : seconds 1 ≤ config.window) :
    config.maxMessagesPerWindow.toNat < Config.maxWriteQueueSize := by
  by_contra hlow
  obtain ⟨w, s, hw, hget, hserving, hempty, hrecent, hcount, hlast⟩ := exists_start hwindow
  obtain ⟨t, hreach, hserving', hlength, hend⟩ := exists_full_within config hserving reloads_client
    hempty hcount hlast hrecent (Nat.not_lt.mp hlow) hwindow
  obtain ⟨u, u', source, line, hreach', hopen, hnow, hstep⟩ :=
    hserving'.exists_refused config reloads_client hlength.ge
  obtain ⟨as, es, v, run, hget'⟩ := exists_run_of_reaches hget (hreach.trans hreach')
  have hunsent : Unsent config 0 (.session 0 .resume) := ⟨trivial, by simp⟩
  have hclosing := h.replies hw hget hserving.strand hempty run hget' (by omega) hunsent
    (World.step_own hget' rfl hstep) (List.mem_singleton_self _)
  rw [hopen] at hclosing
  cases hclosing

end Client

/-! ## Which configurations are enforced -/

theorem RuntimeConfig.Valid.maxMessagesPerWindow_pos {config : RuntimeConfig} (h : config.Valid) :
    0 < config.maxMessagesPerWindow.toNat :=
  UInt64.le_iff_toNat_le.mp h.maxMessagesPerWindow.1

theorem RuntimeConfig.Valid.maxConnections_nonneg {config : RuntimeConfig} (h : config.Valid) :
    0 ≤ config.maxConnections.toInt :=
  le_trans (by decide) (Int32.le_iff_toInt_le.mp h.maxConnections.1)

/-- The limits of a configuration that the loader accepts are enforced exactly if they are
no lower than the constants in the code, and its window admits fewer messages than the
write queue holds. -/
theorem enforced_iff {files : Text → FileContents} {path : Text} {config : RuntimeConfig}
    (hload : configAt files path = some config) :
    Enforced config ↔
      (Config.maxConnections : ℤ) ≤ config.maxConnections.toInt ∧
        Config.maxWriteQueueSize ≤ config.maxWriteQueueSize.toNat ∧
        config.maxAmount = maxAmount ∧
        config.maxMessagesPerWindow.toNat < Config.maxWriteQueueSize := by
  have hvalid := valid_of_configAt hload
  constructor
  · intro h
    refine ⟨le_connections_of_enforced h hvalid.maxConnections_nonneg,
      le_writeQueue_of_enforced h hvalid.window_le hvalid.maxMessagesPerWindow_pos, ?_,
      lt_queue_of_enforced h hvalid.window_le⟩
    exact Int64.le_antisymm hvalid.maxAmount.2
      (le_amount_of_enforced h hvalid.window_le hvalid.maxMessagesPerWindow_pos)
  · rintro ⟨hconnections, hqueue, hamount, hmax⟩
    exact enforced_of_constants hconnections hqueue hamount hmax

/-- A file that raises the limits of the registry and of the write queue, and lets more messages
into a window. -/
def highLimits : Json :=
  .ofFields [(text "max_connections", .unsigned 2000), (text "max_messages_per_window", .unsigned 50),
    (text "max_write_queue_size", .unsigned 500)]

def highConfig : RuntimeConfig :=
  { RuntimeConfig.initial with
    maxConnections := 2000, maxMessagesPerWindow := 50, maxWriteQueueSize := 500 }

/-- They are enforced, being no lower than the constants. -/
theorem enforced_iff_highLimits : Enforced highConfig :=
  have hload : configAt (fun _ => .parsed highLimits) (text "high") = some highConfig := by
    decide +kernel
  (enforced_iff hload).mpr (by decide)

/-- A file that lowers the limit of an amount. -/
def lowAmount : Json := .ofFields [(text "max_amount", .unsigned 1000)]

/-- The file is accepted, and its limit is passed by a RELOAD_REQUEST. -/
theorem lowAmount_not_enforced :
    configAt (fun _ => .parsed lowAmount) (text "low") =
        some { RuntimeConfig.initial with maxAmount := 1000 } ∧
      ¬ Enforced { RuntimeConfig.initial with maxAmount := 1000 } := by
  refine ⟨by decide +kernel, fun h => ?_⟩
  have hle := le_amount_of_enforced h (by decide) (by decide)
  revert hle
  decide

end CppSim.Server
