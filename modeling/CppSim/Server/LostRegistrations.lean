import CppSim.Server.HandshakeGate
import CppSim.Server.Session.RateLimit

/-!
# Sessions that memory runs out on

`strainedWorld` is a world in which an allocation of a session may fail.  What its handler makes
of that is `WebsocketSession.outOfMemory`: mostly the exception comes to the `catch` of `on_read`,
which sends an error and closes the session.  Where the error itself is put together, it may be
sent without the id or with another message (`WebsocketSession.sendAbridgedError`).  A failure
that ends the program, or one in the library that reads and writes, is left out.

`closed_unregistered` says that a session which is closed and at rest is not in the registry, in
every run in which no allocation fails

* after the session was inserted into the registry and before it holds its id;
* where `do_close` copies the id of a registered session;
* where `on_read` copies the id of a registered session whose connection has ended, or puts
  together the line about it.

In each of these the registry keeps its reference and with it the session.
-/

namespace CppSim.Server

open Protocol

/-! ## The model -/

/-- What a handler makes of an allocation that fails. -/
inductive Shortage
  /-- The exception leaves the step. -/
  | thrown
  /-- A parser catches it and takes the message for malformed. -/
  | malformed (errorCode message : Text)
  /-- `validate_session_id` catches it and refuses the message. -/
  | ignored

/-- `on_read`: its `catch`, without the line about the exception. -/
def WebsocketSession.rejecting (s : WebsocketSession) : WebsocketSession :=
  { s with strand := .sendError ErrorCode.protocolError (text "Internal server error") .leave }

/-- The step of the strand in which an allocation fails. -/
def WebsocketSession.outOfMemory (s : WebsocketSession) : Shortage → Option WebsocketSession
  | .thrown =>
      match s.strand with
      -- `on_read`: the copy of the message
      | .idle =>
          match s.reads with
          | 0 => none
          | n + 1 => if s.state = .closed then none else some { s with reads := n }.rejecting
      | .checkBurst _ =>
          some { s with activity := (checkSuspiciousActivity s.now s.activity).1 }.rejecting
      -- `generate_session_id` returns an empty id
      | .generate attempt => some (s.generated attempt []).next
      -- the entry, the line about a refusal
      | .insert _ _ => some s.rejecting
      -- `register_session`: the line about its success; the copy into `session_id_`
      | .storeId _ => some s.rejecting
      | .sendResponse _ | .sendReload _ _ => some s.rejecting
      -- `send_protocol_error` sends nothing
      | .sendError _ _ after => some { s with strand := .close after }
      -- `do_write` closes the session
      | .asyncWrite _ => some { s with writing := false, strand := .close .leave }
      -- `do_close`: `get_session_id_safe` returns an empty id
      | .doCloseUnregister prevState after =>
          some { s with deadline := s.deadline.cancel, strand := .doCloseShutdown prevState after }
      -- `on_read`: the copy of the id, or the line about the end of the connection
      | .unregister _ => some { s with strand := .idle }
      | _ => none
  | .malformed errorCode message =>
      match s.strand with
      | .checkBurst _ =>
          some { s with activity := (checkSuspiciousActivity s.now s.activity).1,
                        strand := .sendError errorCode message .readGuard }
      | _ => none
  | .ignored =>
      match s.strand with
      | .checkBurst _ =>
          if s.state = .authenticated then
            some { s with activity := (checkSuspiciousActivity s.now s.activity).1,
                          strand := .readGuard }
          else none
      | _ => none

/-- `send_protocol_error`, where the copy of the message or that of the id fails: the `catch` puts
another message, and `get_session_id_safe` returns an empty id. -/
def WebsocketSession.sendAbridgedError (lib : JsonLib) (s : WebsocketSession)
    (messageFails idFails : Bool) (errorCode message : Text) (after : After) : Reaction :=
  let message := if messageFails then text "Error processing message" else message
  let sid := if idFails then [] else s.sessionId
  let sessionId := if sid = [] then none else some sid
  match serializeError lib { errorCode, message, sessionId } with
  | .error _ => ⟨{ s with strand := .close after }, [], []⟩
  | .ok err =>
      s.sendOnStrand .error err (.close after) (.close after)
        [.error (text "[WebSocketSession] Failed to send protocol error for session " ++
          sanitizeSessionId sid)]

inductive StrainedAction
  | step (a : WorldAction)
  /-- An allocation of session `i` fails. -/
  | outOfMemory (i : ℕ) (shortage : Shortage)
  /-- One fails in `send_protocol_error`, which sends its error nevertheless. -/
  | abridge (i : ℕ) (messageFails idFails : Bool)

/-- Where the strand calls `generate_session_id`. -/
def Strand.generating : Strand → Bool
  | .generate _ => true
  | _ => false

/-- An allocation of session `i` fails. -/
def World.outOfMemory (w : World) (i : ℕ) (shortage : Shortage) : Option World := do
  let s ← w.sessions[i]?
  if s.destroyed then none
  else
    let t ← s.outOfMemory shortage
    pure { w with
      sessions := w.sessions.set i t,
      manager := if s.strand.generating then w.manager.generateFallback.2 else w.manager }

/-- Session `i` sends an abridged error. -/
def World.abridge (lib : JsonLib) (w : World) (i : ℕ) (messageFails idFails : Bool) :
    Option (World × List WorldEvent) := do
  let s ← w.sessions[i]?
  match s.strand with
  | .sendError errorCode message after =>
      if s.destroyed then none
      else
        let r := s.sendAbridgedError lib messageFails idFails errorCode message after
        pure ({ w with sessions := w.sessions.set i r.next,
                       manager := r.events.foldl .observe w.manager }, r.events.map (.session i))
  | _ => none

/-- One step. -/
def strainedStep (lib : JsonLib) (w : World) : StrainedAction → Option (World × List WorldEvent)
  | .step a => w.step lib a
  | .outOfMemory i shortage => (w.outOfMemory i shortage).map (·, [])
  | .abridge i messageFails idFails => w.abridge lib i messageFails idFails

/-- The machine of a world in which allocations may fail. -/
def strainedWorld (lib : JsonLib) : Machine World StrainedAction WorldEvent :=
  Machine.ofStep (strainedStep lib)

/-- The entry of the session, and the call that removes it, do not depend on the allocation. -/
def WebsocketSession.EntrySafe (s : WebsocketSession) : Prop :=
  match s.strand with
  | .storeId _ | .unregister _ => False
  | .doCloseUnregister _ _ => s.sessionId = []
  | _ => True

/-- No allocation fails on which the entry of a session depends. -/
def KeepsEntries (w : World) : StrainedAction → Prop
  | .step _ | .abridge _ _ _ => True
  | .outOfMemory i _ => ∀ s ∈ w.sessions[i]?, s.EntrySafe

/-! ## One session -/

section Session

variable {lib : JsonLib} {s t : WebsocketSession} {es fs : List Event} {shortage : Shortage}

/-- What is known of the registration of a session. -/
structure Accounted (s : WebsocketSession) (es : List Event) : Prop where
  control : ControlInv s
  calls : UnregisterInv s es
  registration : Registration s es
  unregistration : Unregistration s es

theorem accounted_construct (now handshakeTimeout : ℤ) :
    Accounted (.construct now handshakeTimeout) [] where
  control := controlInv_construct _ _
  calls := unregisterInv_construct
  registration := registration_construct
  unregistration := ⟨by simp, fun _ _ _ _ hregs => by cases hregs⟩

theorem Accounted.step {a : Action} (inv : Accounted s es) (h : (session lib).step s a fs t) :
    Accounted t (es ++ fs) := by
  obtain ⟨hlive, htransition⟩ := transition_of_step h
  exact ⟨inv.control.step h, inv.calls.step htransition hlive inv.control,
    inv.registration.step htransition inv.control,
    inv.unregistration.step htransition hlive inv.control inv.calls inv.registration⟩

/-- The strand gives up what it was at, and is about to request a close or at the end of
`on_read`. -/
structure Diverted (s t : WebsocketSession) : Prop where
  live : s.destroyed = false
  kept : t.sessionId = s.sessionId ∧ t.state = s.state ∧ t.destroyed = s.destroyed ∧
    t.managerAlive = s.managerAlive ∧ t.accepts = s.accepts ∧ t.runPhase = s.runPhase
  reads : t.reads ≤ s.reads
  readers : t.readers ≤ s.readers
  holds : ∀ sid, s.strand.carries sid s.sessionId → s.sessionId = sid
  unregistering : s.strand.unregistering = 0
  strand : t.strand.requestsClose = true ∨ t.strand = .readGuard ∧ s.state = .authenticated

/-- What the invariants ask of the strand that a session is diverted to. -/
structure Strand.Harmless (strand : Strand) (state : SessionState) (closeRequested : Bool) :
    Prop where
  handshaking : strand.handshaking = false
  unregistering : strand.unregistering = 0
  unregistered : strand.unregistered
  leaving : state = .unauthenticated → strand.leaving closeRequested
  carries : ∀ sid, strand.carries sid sid

theorem Diverted.harmless (h : Diverted s t) :
    t.strand.Harmless s.state t.closeRequested := by
  rcases h.strand with hcloses | ⟨hguard, hstate⟩
  · revert hcloses
    cases t.strand with
    | post next =>
        cases next with
        | close after => exact fun _ => ⟨rfl, rfl, trivial, fun _ => trivial, fun _ => rfl⟩
        | authenticate | commit | leave => nofun
    | sendError | close => exact fun _ => ⟨rfl, rfl, trivial, fun _ => trivial, fun _ => rfl⟩
    | _ => nofun
  · rw [hguard, hstate]
    exact ⟨rfl, rfl, trivial, nofun, fun _ => rfl⟩

theorem Accounted.divert (inv : Accounted s es) (h : Diverted s t) : Accounted t es := by
  obtain ⟨hsid, hstate, hdestroyed, halive, haccepts, hphase⟩ := h.kept
  have hharmless := h.harmless
  have hended : t.ended = s.ended := by rw [WebsocketSession.ended, hstate, hdestroyed]; rfl
  refine ⟨⟨h.readers.trans inv.control.readers_le, ?_, ?_⟩, ?_, ?_, ?_⟩
  · simp [hharmless.handshaking]
  · simp [hdestroyed, h.live]
  · have hcalls := inv.calls
    unfold UnregisterInv at hcalls ⊢
    rw [hharmless.unregistering, hended]
    omega
  · cases inv.registration with
    | fresh hregs hnone hopen =>
        exact .fresh hregs (hsid.trans hnone) (hstate ▸ hopen) hharmless.unregistered
    | @held sid hregs hne hcarries hupgraded hleaving =>
        refine .held hregs hne ?_ ⟨haccepts.trans hupgraded.1, hphase.trans hupgraded.2⟩ ?_
        · rw [hsid, h.holds sid hcarries]
          exact hharmless.carries sid
        · intro hstate'
          have hstate'' := hstate ▸ hstate'
          exact ⟨Nat.le_zero.mp ((hleaving hstate'').1 ▸ h.reads), hharmless.leaving hstate''⟩
  · refine ⟨fun sid hmem => ?_, fun halive' hended' _ sid hregs => ?_⟩
    · exact ⟨(inv.unregistration.mine sid hmem).1, hended ▸ (inv.unregistration.mine sid hmem).2⟩
    · exact inv.unregistration.due (halive ▸ halive') (hended ▸ hended') h.unregistering sid hregs

theorem Strand.reading_le (strand : Strand) : strand.reading ≤ 1 := by
  cases strand with
  | post next =>
      cases next with
      | close after => exact after.reading_le
      | authenticate | commit | leave => simp [Strand.reading, Next.reading]
  | sendError _ _ after | close after | closeCheck after | doClose after
  | doCloseUnregister _ after | doCloseShutdown _ after => exact after.reading_le
  | _ => simp [Strand.reading]

theorem diverted_of_mayFail (hlive : s.destroyed = false) (hmay : s.strand.mayFail)
    (activity : Activity) {strand : Strand} (hstrand : strand.requestsClose = true ∨
      strand = .readGuard ∧ s.state = .authenticated) : Diverted s { s with activity, strand } where
  live := hlive
  kept := ⟨rfl, rfl, rfl, rfl, rfl, rfl⟩
  reads := le_rfl
  readers := by
    simp only [WebsocketSession.readers, Strand.reading_of_mayFail hmay]
    exact Nat.add_le_add_left strand.reading_le _
  holds _ := Strand.carries_of_mayFail hmay
  unregistering := by
    revert hmay
    cases s.strand <;> first | exact fun _ => rfl | exact False.elim
  strand := hstrand

/-- The registration of the session is accounted for after an allocation failed on which its entry
does not depend. -/
theorem Accounted.outOfMemory (inv : Accounted s es) (hlive : s.destroyed = false)
    (hsafe : s.EntrySafe) (h : s.outOfMemory shortage = some t) : Accounted t es := by
  unfold WebsocketSession.EntrySafe at hsafe
  unfold WebsocketSession.outOfMemory at h
  cases shortage with
  | thrown =>
      cases hstrand : s.strand with
      -- `on_read` fails before it handles its message
      | idle =>
          rw [hstrand] at h
          cases hreads : s.reads with
          | zero =>
              rw [hreads] at h
              cases h
          | succ n =>
              rw [hreads] at h
              obtain ⟨-, h⟩ := Option.ite_none_left_eq_some.mp h
              obtain rfl := Option.some.inj h
              refine inv.divert ⟨hlive, ⟨rfl, rfl, rfl, rfl, rfl, rfl⟩, ?_, ?_, ?_, ?_, .inl rfl⟩
              · exact hreads ▸ Nat.le_succ n
              · change (if s.runPhase = .returned then 0 else 1) + s.accepts + n + 0 ≤ s.readers
                rw [WebsocketSession.readers, hreads]
                omega
              · rw [hstrand]
                exact fun _ hsid => hsid
              · rw [hstrand]
                rfl
      -- the handler of a message fails before an insertion, or after the id is stored
      | checkBurst | generate | insert | sendResponse | sendReload =>
          have hmay : s.strand.mayFail := hstrand ▸ trivial
          rw [hstrand] at h
          obtain rfl := Option.some.inj h
          exact inv.divert (diverted_of_mayFail hlive hmay _ (.inl rfl))
      | sendError | asyncWrite =>
          rw [hstrand] at h
          obtain rfl := Option.some.inj h
          refine inv.divert ⟨hlive, ⟨rfl, rfl, rfl, rfl, rfl, rfl⟩, le_rfl, ?_, ?_, ?_, .inl rfl⟩
          · simp only [WebsocketSession.readers, hstrand, Strand.reading, After.reading, le_refl]
          · rw [hstrand]
            exact fun _ hsid => hsid
          · rw [hstrand]
            rfl
      -- no id is stored, so that nothing has to be unregistered
      | doCloseUnregister prevState after =>
          rw [hstrand] at hsafe h
          obtain rfl := Option.some.inj h
          have hstep : (session (.knowing [])).step s .resume []
              { s with deadline := s.deadline.cancel, strand := .doCloseShutdown prevState after } := by
            have hsid : s.sessionId = [] := hsafe
            simp [session, Machine.ofStep, sessionStep, WebsocketSession.step, hlive,
              WebsocketSession.resume, hstrand, WebsocketSession.doCloseUnregister,
              WebsocketSession.unregisterEvents, hsid]
          simpa using inv.step hstep
      -- the failures that the condition excludes
      | storeId | unregister =>
          rw [hstrand] at hsafe
          exact hsafe.elim
      | _ =>
          rw [hstrand] at h
          cases h
  -- an exception inside the parser is reported as a malformed message
  | malformed errorCode message =>
      cases hstrand : s.strand with
      | checkBurst =>
          have hmay : s.strand.mayFail := hstrand ▸ trivial
          rw [hstrand] at h
          obtain rfl := Option.some.inj h
          exact inv.divert (diverted_of_mayFail hlive hmay _ (.inl rfl))
      | _ =>
          rw [hstrand] at h
          cases h
  -- an exception inside `validate_session_id` is caught, and the message dropped
  | ignored =>
      cases hstrand : s.strand with
      | checkBurst =>
          have hmay : s.strand.mayFail := hstrand ▸ trivial
          rw [hstrand] at h
          obtain ⟨hstate, h⟩ := Option.ite_none_right_eq_some.mp h
          obtain rfl := Option.some.inj h
          exact inv.divert (diverted_of_mayFail hlive hmay _ (.inr ⟨rfl, hstate⟩))
      | _ =>
          rw [hstrand] at h
          cases h

/-- A session sends an abridged error as one does whose library prints this text. -/
theorem WebsocketSession.step_of_abridged (lib : JsonLib) (messageFails idFails : Bool)
    {errorCode message : Text} {after : After} (hlive : s.destroyed = false)
    (hstrand : s.strand = .sendError errorCode message after) :
    ∃ lib', sessionStep lib' s .resume =
      some ((s.sendAbridgedError lib messageFails idFails errorCode message after).next,
        (s.sendAbridgedError lib messageFails idFails errorCode message after).events) := by
  unfold sendAbridgedError
  dsimp only
  generalize serializeError lib _ = printed
  refine ⟨{ lib with dump := fun _ => printed }, ?_⟩
  simp only [sessionStep, WebsocketSession.step, hlive, resume, hstrand, sendProtocolError,
    serializeError, serializeMessage]
  cases printed with
  | error => rfl
  | ok err =>
      simp only [sendOnStrand]
      cases s.queueMessage err with
      | refused | full => rfl
      | queued s' starts => cases starts <;> rfl

/-- Running out of memory does not drop the manager. -/
theorem WebsocketSession.managerAlive_of_outOfMemory (h : s.outOfMemory shortage = some t) :
    t.managerAlive = s.managerAlive := by
  unfold outOfMemory at h
  repeat' split at h
  all_goals cases h
  all_goals rfl

end Session

/-! ## A world -/

section Worlds

variable {lib : JsonLib} {w w' : World} {a : WorldAction} {es fs : List WorldEvent} {i : ℕ}
  {s t : WebsocketSession} {shortage : Shortage}

/-- What holds of every session and of every entry. -/
structure StrainedInv (w : World) (es : List WorldEvent) : Prop where
  sessions : ∀ (i : ℕ) (s : WebsocketSession), w.sessions[i]? = some s →
    Accounted s (ownEvents i es)
  unborn : ∀ i, w.sessions[i]? = none → ownEvents i es = []
  alive : ∀ s ∈ w.sessions, s.managerAlive = true
  entries : EntriesAgree w es

theorem strainedInv_initial : StrainedInv .initial [] where
  sessions i s hget := by simp [World.initial] at hget
  unborn _ _ := rfl
  alive := by simp [World.initial]
  entries sid i hlookup := by cases hlookup

/-- A session that is yet to be created emits nothing. -/
theorem WorldTransition.ownEvents_of_unborn (h : WorldTransition lib w a fs w')
    (hnone : w.sessions[i]? = none) : ownEvents i fs = [] := by
  have hother {j : ℕ} {s : WebsocketSession} (hget : w.sessions[j]? = some s)
      (gs : List Event) : ownEvents i (gs.map (.session j)) = [] := by
    have hne : j ≠ i := by
      rintro rfl
      rw [hnone] at hget
      cases hget
    rw [ownEvents, flatMap_observe_map_session]
    exact Machine.ownEvents_map_ne hne gs
  cases h with
  | own hget => exact hother hget _
  | @registered _ _ _ sid _ _ hget => exact hother hget [.registered sid]
  | swept =>
      rw [ownEvents, List.flatMap_map]
      simp [WorldEvent.observe, Machine.ownEvents]
  | created | generated | fallback | refused | closing | dispatching | returned => rfl

theorem StrainedInv.step (inv : StrainedInv w es) (h : (world lib).step w a fs w') :
    StrainedInv w' (es ++ fs) := by
  have htransition := worldTransition_of_step h
  refine ⟨fun i t ht => ?_, fun i ht => ?_, htransition.managerAlive inv.alive, ?_⟩
  · rw [ownEvents_append]
    cases hbefore : w.sessions[i]? with
    | some s =>
        have accounted := inv.sessions i s hbefore
        rcases step_on h hbefore with ⟨-, -, hsame, hnone⟩ | ⟨b, u, -, -, -, hown, hafter⟩
        · obtain rfl := Option.some.inj (hsame.symm.trans ht)
          rwa [hnone, List.append_nil]
        · obtain rfl := Option.some.inj (hafter.symm.trans ht)
          exact accounted.step hown
    | none =>
        rw [inv.unborn i hbefore, htransition.ownEvents_of_unborn hbefore]
        rcases session_of_step h ht with ⟨now, handshakeTimeout, rfl⟩ | hsame | ⟨_, _, _, hget, -⟩
        · exact accounted_construct now handshakeTimeout
        · rw [hbefore] at hsame
          cases hsame
        · rw [hbefore] at hget
          cases hget
  · have hbefore : w.sessions[i]? = none := by
      cases hbefore : w.sessions[i]? with
      | none => rfl
      | some s =>
          rcases step_on h hbefore with ⟨-, -, hsame, -⟩ | ⟨_, _, -, -, -, -, hafter⟩
          · exact absurd (hsame.symm.trans ht) (by simp)
          · exact absurd (hafter.symm.trans ht) (by simp)
    rw [ownEvents_append, inv.unborn i hbefore, htransition.ownEvents_of_unborn hbefore]
    rfl
  · refine inv.entries.step htransition fun i s hget => ?_
    have accounted := inv.sessions i s hget
    exact ⟨accounted.control, accounted.registration, accounted.unregistration⟩

theorem World.outOfMemory_eq_some (h : w.outOfMemory i shortage = some w') :
    ∃ s t, w.sessions[i]? = some s ∧ s.destroyed = false ∧ s.outOfMemory shortage = some t ∧
      w'.sessions = w.sessions.set i t ∧ w'.manager.sessions = w.manager.sessions := by
  simp only [World.outOfMemory, Option.bind_eq_bind, Option.bind_eq_some_iff] at h
  obtain ⟨s, hget, h⟩ := h
  obtain ⟨hlive, h⟩ := Option.ite_none_left_eq_some.mp h
  obtain ⟨t, hfails, h⟩ := Option.bind_eq_some_iff.mp h
  cases h
  refine ⟨s, t, hget, by simpa using hlive, hfails, rfl, ?_⟩
  dsimp only
  split <;> rfl

theorem StrainedInv.outOfMemory (inv : StrainedInv w es) (hkeeps : ∀ s ∈ w.sessions[i]?, s.EntrySafe)
    (h : w.outOfMemory i shortage = some w') : StrainedInv w' es := by
  obtain ⟨s, t, hget, hlive, hfails, hsessions, hmanager⟩ := World.outOfMemory_eq_some h
  have hlt := (List.getElem?_eq_some_iff.mp hget).1
  refine ⟨fun j u hu => ?_, fun j hj => ?_, fun u hu => ?_, ?_⟩
  · rw [hsessions] at hu
    by_cases hij : i = j
    · subst hij
      rw [List.getElem?_set_self hlt, Option.some.injEq] at hu
      subst hu
      exact (inv.sessions i s hget).outOfMemory hlive (hkeeps s hget) hfails
    · rw [List.getElem?_set_ne hij] at hu
      exact inv.sessions j u hu
  · rw [hsessions, List.getElem?_eq_none_iff, List.length_set] at hj
    exact inv.unborn j (List.getElem?_eq_none_iff.mpr hj)
  · rw [hsessions] at hu
    rcases List.mem_or_eq_of_mem_set hu with hu | rfl
    · exact inv.alive u hu
    · rw [WebsocketSession.managerAlive_of_outOfMemory hfails]
      exact inv.alive s (List.mem_of_getElem? hget)
  · rw [← List.append_nil es]
    exact inv.entries.of_quiet hmanager (by simp)

theorem World.step_of_abridge {messageFails idFails : Bool}
    (h : w.abridge lib i messageFails idFails = some (w', fs)) :
    ∃ lib', (world lib').step w (.session i .resume) fs w' := by
  simp only [World.abridge, Option.bind_eq_bind, Option.bind_eq_some_iff] at h
  obtain ⟨s, hget, h⟩ := h
  split at h
  · rename_i errorCode message after hstrand
    obtain ⟨hlive, h⟩ := Option.ite_none_left_eq_some.mp h
    rw [Bool.not_eq_true] at hlive
    obtain ⟨lib', hstep⟩ :=
      WebsocketSession.step_of_abridged lib messageFails idFails hlive hstrand
    refine ⟨lib', ?_⟩
    change World.step lib' w (.session i .resume) = some (w', fs)
    rw [← h]
    simp [World.step, World.allows, World.member, hget, hstep]
  · cases h

/-- A session that is closed and at rest has no entry. -/
theorem StrainedInv.not_registered (inv : StrainedInv w es) (hget : w.sessions[i]? = some s)
    (hclosed : s.state = .closed) (hidle : s.strand = .idle) : w.isRegistered i = false := by
  unfold World.isRegistered
  rw [List.any_eq_false]
  rintro ⟨sid, j⟩ hentry hj
  obtain rfl : j = i := by simpa using hj
  obtain ⟨hregistered, hnot⟩ := inv.entries sid j (AList.mem_lookup_iff.mpr hentry)
  have accounted := inv.sessions j s hget
  have hregs := (accounted.registration.sessionId_of_idle hidle (mem_ownEvents.mpr hregistered)).1
  refine hnot (mem_ownEvents.mp (accounted.unregistration.due ?_ ?_ ?_ sid hregs))
  · exact inv.alive s (List.mem_of_getElem? hget)
  · rw [WebsocketSession.ended, hclosed]
    rfl
  · rw [hidle]
    rfl

theorem strainedInv_of_run {as : List StrainedAction}
    (run : ((strainedWorld lib).restrict KeepsEntries).Run .initial as es w) :
    StrainedInv w es := by
  refine run.invariant strainedInv_initial ?_
  rintro es w a fs w' inv ⟨hkeeps, h⟩
  cases a with
  | step a => exact inv.step h
  | outOfMemory i shortage =>
      obtain ⟨_, hfails, hnext⟩ := Option.map_eq_some_iff.mp h
      cases hnext
      rw [List.append_nil]
      exact inv.outOfMemory hkeeps hfails
  | abridge i messageFails idFails =>
      obtain ⟨_, hstep⟩ := World.step_of_abridge h
      exact inv.step hstep

end Worlds

/-- In every run in which no allocation fails on which the entry of a session depends, a session
that is closed and at rest is not in the registry, whatever other allocations fail. -/
theorem closed_unregistered {lib : JsonLib} {as : List StrainedAction} {es : List WorldEvent}
    {w : World} {i : ℕ} {s : WebsocketSession}
    (run : ((strainedWorld lib).restrict KeepsEntries).Run .initial as es w)
    (hget : w.sessions[i]? = some s) (hclosed : s.state = .closed) (hidle : s.strand = .idle) :
    w.isRegistered i = false :=
  (strainedInv_of_run run).not_registered hget hclosed hidle

/-! ## A handshake -/

/-- A client connects, and its session is inserted into the registry. -/
def insertingActions : List StrainedAction :=
  .step (.create 0 (seconds 10)) ::
    ((connectActions []).take 8).map fun a => .step (.ofAction 0 0xdeadbeef a)

/-- The error is sent, and then the session is closed. -/
def rejectingActions : List StrainedAction :=
  ([.resume, .resume, .resume, .resume, .doWrite, .resume, .onWrite none, .resume, .resume,
    .resume] : List Action).map fun a => .step (.session 0 a)

instance (s : WebsocketSession) : Decidable s.EntrySafe := by
  unfold WebsocketSession.EntrySafe
  split <;> infer_instance

instance (w : World) (a : StrainedAction) : Decidable (KeepsEntries w a) := by
  unfold KeepsEntries
  split <;> infer_instance

/-- The response to the handshake cannot be put together. -/
def unansweredActions : List StrainedAction :=
  insertingActions ++ [.step (.session 0 .resume), .outOfMemory 0 .thrown] ++ rejectingActions

def unansweredRun : World × List WorldEvent :=
  (Machine.exec (Machine.guarded KeepsEntries (strainedStep (.knowing [handshakeEnvelope])))
    .initial unansweredActions).get (by decide +kernel)

def unansweredSession : WebsocketSession :=
  (unansweredRun.1.sessions[0]?).get (by decide +kernel)

theorem closed_unregistered_unanswered : unansweredRun.1.isRegistered 0 = false := by
  have run : ((strainedWorld (.knowing [handshakeEnvelope])).restrict KeepsEntries).Run .initial
      unansweredActions unansweredRun.2 unansweredRun.1 := Machine.run_restrict_get _
  have hget : unansweredRun.1.sessions[0]? = some unansweredSession := (Option.some_get _).symm
  exact closed_unregistered run hget (by decide +kernel) (by decide +kernel)

/-- The line about the registration cannot be put together. -/
def unloggedActions : List StrainedAction :=
  insertingActions ++ [.outOfMemory 0 .thrown] ++ rejectingActions

def unloggedRun : World × List WorldEvent :=
  (Machine.exec (strainedStep (.knowing [handshakeEnvelope])) .initial unloggedActions).get
    (by decide +kernel)

def unloggedSession : WebsocketSession :=
  (unloggedRun.1.sessions[0]?).get (by decide +kernel)

/-- The session is closed and stays in the registry. -/
theorem registered_though_closed :
    ¬ ∀ (lib : JsonLib) (as : List StrainedAction) (es : List WorldEvent) (w : World) (i : ℕ)
      (s : WebsocketSession), (strainedWorld lib).Run .initial as es w →
      (∀ a ∈ as, a ≠ .step .stopAll) → w.sessions[i]? = some s → s.state = .closed →
      s.strand = .idle → w.isRegistered i = false := by
  intro hall
  have run : (strainedWorld (.knowing [handshakeEnvelope])).Run .initial unloggedActions
      unloggedRun.2 unloggedRun.1 := Machine.run_get _
  have hget : unloggedRun.1.sessions[0]? = some unloggedSession := (Option.some_get _).symm
  have hnone := hall _ _ _ _ 0 _ run (by
    simp [unloggedActions, insertingActions, rejectingActions, connectActions,
      WorldAction.ofAction]) hget (by decide +kernel) (by decide +kernel)
  exact absurd hnone (by decide +kernel)

end CppSim.Server
