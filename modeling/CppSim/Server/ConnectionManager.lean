import Mathlib.Data.List.AList
import CppSim.Library.Family
import CppSim.Server.SessionId
import CppSim.Server.Session.Registration

/-!
# The connection manager and its sessions

A `ConnectionManager` holds the members of `connection_manager` and the counters of
`generate_session_id`.  A `World` is any number of sessions that share one, with the
calls of `stop_all` that other threads have made.

Each critical section under `sessions_mutex_` is one step: the insertion of
`register_session`, `unregister_session`, and the swap of `stop_all`.  A session takes
its own steps in between; what it reads of the manager, a new id and the result of the
insertion, comes from the manager's state.

`session_of_world` takes the run of a world apart, so that all that holds of every run
of one session holds of each session of a world.
-/

namespace CppSim.Server

/-! ## The registry -/

structure ConnectionManager where
  /-- `sessions_`, from ids to the places of the sessions in the world. -/
  sessions : AList fun _ : Text => ℕ
  counter : UInt64
  fallbackCounter : UInt64

namespace ConnectionManager

def initial : ConnectionManager := ⟨∅, 0, 0⟩

/-- `generate_session_id`. -/
def generate (m : ConnectionManager) (rnd : UInt32) : Text × ConnectionManager :=
  (generateSessionId m.counter rnd, { m with counter := m.counter + 1 })

/-- `generate_session_id` where the random source throws; the counter has moved on. -/
def generateFallback (m : ConnectionManager) : Text × ConnectionManager :=
  (fallbackSessionId m.fallbackCounter,
    { m with counter := m.counter + 1, fallbackCounter := m.fallbackCounter + 1 })

/-- `session_count`. -/
def sessionCount (m : ConnectionManager) : ℕ := m.sessions.entries.length

/-- The critical section of `register_session`. -/
def tryEmplace (m : ConnectionManager) (sid : Text) (i : ℕ) : EmplaceResult × ConnectionManager :=
  if m.sessionCount ≥ Config.maxConnections then (.maxConnections, m)
  else if sid ∈ m.sessions then (.collision, m)
  else
    let m' := { m with sessions := m.sessions.insert sid i }
    (.success m'.sessionCount, m')

/-- `unregister_session`. -/
def unregisterSession (m : ConnectionManager) (sid : Text) : ConnectionManager :=
  { m with sessions := m.sessions.erase sid }

/-- What an event of a session does to the manager. -/
def observe (m : ConnectionManager) : Event → ConnectionManager
  | .unregister sid => m.unregisterSession sid
  | _ => m

end ConnectionManager

/-! ## The world -/

/-- A call of `stop_all` after the swap. -/
structure StopAll where
  /-- `sessions_to_stop`, which refers to the sessions until the call returns. -/
  sessionsToStop : List ℕ
  /-- Those that are yet to be closed. -/
  pending : List ℕ
  /-- The one whose `close` has set its flag and is about to dispatch. -/
  closing : Option ℕ

/-- The call has closed every session it swept. -/
def StopAll.done (c : StopAll) : Bool := c.pending.isEmpty && c.closing.isNone

structure World where
  manager : ConnectionManager
  sessions : List WebsocketSession
  stops : List StopAll

/-- What can happen next in a world. -/
inductive WorldAction
  /-- A session is constructed. -/
  | create (now handshakeTimeout : ℤ)
  /-- A session goes on by itself, or another thread calls one of its methods. -/
  | session (i : ℕ) (a : Action)
  /-- `register_session` of session `i`. -/
  | generate (i : ℕ) (rnd : UInt32)
  | generateFallback (i : ℕ)
  | emplace (i : ℕ)
  /-- `stop_all`: swap, then close the sessions in any order, and return. -/
  | stopAll
  | stopClose (call i : ℕ)
  | stopDispatch (call : ℕ)
  | stopReturn (call : ℕ)

/-- What an observer sees of a world. -/
inductive WorldEvent
  | session (i : ℕ) (e : Event)
  /-- `generate_session_id` returned an id to session `i`. -/
  | generated (i : ℕ) (sid : Text)
  /-- `stop_all` removed an entry. -/
  | swept (sid : Text)
  deriving DecidableEq

namespace World

def initial : World := ⟨.initial, [], []⟩

/-- The session is in the registry. -/
def isRegistered (w : World) (i : ℕ) : Bool :=
  w.manager.sessions.entries.any fun entry => entry.2 == i

/-- The registry or a call of `stop_all` refers to the session. -/
def refers (w : World) (i : ℕ) : Bool :=
  w.isRegistered i || w.stops.any fun c => c.sessionsToStop.contains i

/-- The actions of a session that leave the manager out, apart from `unregister_session`;
the manager outlives the sessions, and they outlive the references to them. -/
def allows (w : World) (i : ℕ) : Action → Bool
  | .generated _ | .emplaced _ | .dropManager => false
  | .destroy => !w.refers i
  | _ => true

/-- One step of session `i`. -/
def member (lib : JsonLib) (w : World) (i : ℕ) (a : Action) : Option (World × List WorldEvent) := do
  let s ← w.sessions[i]?
  let (t, es) ← sessionStep lib s a
  pure ({ w with sessions := w.sessions.set i t, manager := es.foldl .observe w.manager },
    es.map (.session i))

/-- `register_session` of session `i`: the insertion. -/
def emplace (lib : JsonLib) (w : World) (i : ℕ) : Option (World × List WorldEvent) := do
  let s ← w.sessions[i]?
  match s.strand with
  | .insert _ sid =>
      let (result, manager) := w.manager.tryEmplace sid i
      { w with manager }.member lib i (.emplaced result)
  | _ => none

/-- `stop_all`: the swap. -/
def stopAll (w : World) : World :=
  let swept := w.manager.sessions.entries.map fun entry => entry.2
  { w with manager := { w.manager with sessions := ∅ },
           stops := w.stops ++ [{ sessionsToStop := swept, pending := swept, closing := none }] }

/-- One step of a world. -/
def step (lib : JsonLib) (w : World) : WorldAction → Option (World × List WorldEvent)
  | .create now handshakeTimeout =>
      some ({ w with sessions := w.sessions ++ [.construct now handshakeTimeout] }, [])
  | .session i a => if w.allows i a then w.member lib i a else none
  | .generate i rnd => do
      let (sid, manager) := w.manager.generate rnd
      let (w', es) ← { w with manager }.member lib i (.generated sid)
      pure (w', .generated i sid :: es)
  | .generateFallback i => do
      let (sid, manager) := w.manager.generateFallback
      let (w', es) ← { w with manager }.member lib i (.generated sid)
      pure (w', .generated i sid :: es)
  | .emplace i => w.emplace lib i
  | .stopAll => some (w.stopAll, w.manager.sessions.entries.map fun entry => .swept entry.1)
  | .stopClose call i => do
      let c ← w.stops[call]?
      if c.closing = none ∧ i ∈ c.pending then
        let c' := { c with pending := c.pending.erase i, closing := some i }
        { w with stops := w.stops.set call c' }.member lib i .close
      else none
  | .stopDispatch call => do
      let c ← w.stops[call]?
      let i ← c.closing
      { w with stops := w.stops.set call { c with closing := none } }.member lib i .dispatchClose
  | .stopReturn call => do
      let c ← w.stops[call]?
      if c.done then pure ({ w with stops := w.stops.set call { c with sessionsToStop := [] } }, [])
      else none

end World

/-- The machine of a world. -/
def world (lib : JsonLib) : Machine World WorldAction WorldEvent := Machine.ofStep (World.step lib)

/-- The runs of a world from its start. -/
def WorldRun (lib : JsonLib) (as : List WorldAction) (es : List WorldEvent) (w : World) : Prop :=
  (world lib).Run .initial as es w

/-! ## What a step of a world can do -/

/-- The branches of `World.step`. -/
inductive WorldTransition (lib : JsonLib) (w : World) :
    WorldAction → List WorldEvent → World → Prop
  | created (now handshakeTimeout : ℤ) :
      WorldTransition lib w (.create now handshakeTimeout) []
        { w with sessions := w.sessions ++ [.construct now handshakeTimeout] }
  | own {i : ℕ} {a : Action} {s t : WebsocketSession} {fs : List Event} (hget : w.sessions[i]? = some s)
      (hallows : w.allows i a = true) (hstep : sessionStep lib s a = some (t, fs)) :
      WorldTransition lib w (.session i a) (fs.map (.session i))
        { w with sessions := w.sessions.set i t, manager := fs.foldl .observe w.manager }
  | generated {i : ℕ} {rnd : UInt32} {s t : WebsocketSession} (hget : w.sessions[i]? = some s)
      (hstep : sessionStep lib s (.generated (generateSessionId w.manager.counter rnd)) =
        some (t, [])) :
      WorldTransition lib w (.generate i rnd)
        [.generated i (generateSessionId w.manager.counter rnd)]
        { w with sessions := w.sessions.set i t, manager := (w.manager.generate rnd).2 }
  | fallback {i : ℕ} {s t : WebsocketSession} (hget : w.sessions[i]? = some s)
      (hstep : sessionStep lib s (.generated (fallbackSessionId w.manager.fallbackCounter)) =
        some (t, [])) :
      WorldTransition lib w (.generateFallback i)
        [.generated i (fallbackSessionId w.manager.fallbackCounter)]
        { w with sessions := w.sessions.set i t, manager := w.manager.generateFallback.2 }
  | registered {i attempt count : ℕ} {sid : Text} {s t : WebsocketSession}
      (hget : w.sessions[i]? = some s) (hstrand : s.strand = .insert attempt sid)
      (hroom : w.manager.sessionCount < Config.maxConnections) (hfree : sid ∉ w.manager.sessions)
      (hstep : sessionStep lib s (.emplaced (.success count)) = some (t, [.registered sid])) :
      WorldTransition lib w (.emplace i) [.session i (.registered sid)]
        { w with sessions := w.sessions.set i t,
                 manager := { w.manager with sessions := w.manager.sessions.insert sid i } }
  | refused {i : ℕ} {result : EmplaceResult} {s t : WebsocketSession}
      (hget : w.sessions[i]? = some s)
      (hstep : sessionStep lib s (.emplaced result) = some (t, [])) :
      WorldTransition lib w (.emplace i) [] { w with sessions := w.sessions.set i t }
  | swept :
      WorldTransition lib w .stopAll (w.manager.sessions.entries.map fun entry => .swept entry.1)
        w.stopAll
  | closing {call i : ℕ} {c : StopAll} {s t : WebsocketSession} (hget : w.sessions[i]? = some s)
      (hcall : w.stops[call]? = some c) (hpending : i ∈ c.pending)
      (hstep : sessionStep lib s .close = some (t, [])) :
      WorldTransition lib w (.stopClose call i) []
        { w with sessions := w.sessions.set i t,
                 stops := w.stops.set call
                   { c with pending := c.pending.erase i, closing := some i } }
  | dispatching {call i : ℕ} {c : StopAll} {s t : WebsocketSession} (hget : w.sessions[i]? = some s)
      (hcall : w.stops[call]? = some c) (hclosing : c.closing = some i)
      (hstep : sessionStep lib s .dispatchClose = some (t, [])) :
      WorldTransition lib w (.stopDispatch call) []
        { w with sessions := w.sessions.set i t,
                 stops := w.stops.set call { c with closing := none } }
  | returned {call : ℕ} {c : StopAll} (hcall : w.stops[call]? = some c) (hdone : c.done = true) :
      WorldTransition lib w (.stopReturn call) []
        { w with stops := w.stops.set call { c with sessionsToStop := [] } }

section Soundness

variable {lib : JsonLib} {w w' : World} {a : WorldAction} {es : List WorldEvent}

theorem World.member_eq_some {i : ℕ} {a : Action} (h : w.member lib i a = some (w', es)) :
    ∃ s t fs, w.sessions[i]? = some s ∧ sessionStep lib s a = some (t, fs) ∧
      w' = { w with sessions := w.sessions.set i t, manager := fs.foldl .observe w.manager } ∧
      es = fs.map (.session i) := by
  simp only [World.member, Option.bind_eq_bind, Option.bind_eq_some_iff, Option.pure_def,
    Option.some.injEq, Prod.mk.injEq, Prod.exists] at h
  obtain ⟨s, hget, t, fs, hstep, rfl, rfl⟩ := h
  exact ⟨s, t, fs, hget, hstep, rfl, rfl⟩

theorem ConnectionManager.tryEmplace_cases (m : ConnectionManager) (sid : Text) (i : ℕ) :
    (∃ result, m.tryEmplace sid i = (result, m) ∧ ∀ count, result ≠ .success count) ∨
      m.sessionCount < Config.maxConnections ∧ sid ∉ m.sessions ∧
        ∃ count, m.tryEmplace sid i =
          (.success count, { m with sessions := m.sessions.insert sid i }) := by
  unfold tryEmplace
  split
  · exact .inl ⟨_, rfl, by simp⟩
  · rename_i hroom
    split
    · exact .inl ⟨_, rfl, by simp⟩
    · rename_i hfree
      exact .inr ⟨by omega, hfree, _, rfl⟩

/-- A successful insertion is the one the strand holds. -/
theorem events_of_success {s t : WebsocketSession} {attempt count : ℕ} {sid : Text}
    {fs : List Event} (hstrand : s.strand = .insert attempt sid)
    (hstep : sessionStep lib s (.emplaced (.success count)) = some (t, fs)) :
    fs = [.registered sid] := by
  have htransition := (transition_of_step hstep).2
  cases htransition with
  | failing _ hfailed => exact absurd rfl (hfailed _)
  | registered hstrand' =>
      rw [hstrand] at hstrand'
      cases hstrand'
      rfl

/-- A new id, a refused insertion and a close tell the manager nothing. -/
theorem events_eq_nil {s t : WebsocketSession} {a : Action} {fs : List Event}
    (hstep : sessionStep lib s a = some (t, fs))
    (ha : (∃ sid, a = .generated sid) ∨ (∃ result, a = .emplaced result ∧
      ∀ count, result ≠ .success count) ∨ a = .close ∨ a = .dispatchClose) : fs = [] := by
  have htransition := (transition_of_step hstep).2
  rcases ha with ⟨sid, rfl⟩ | ⟨result, rfl, hrefused⟩ | rfl | rfl
  · cases htransition <;> rfl
  · cases htransition with
    | registered => exact absurd rfl (hrefused _)
    | _ => rfl
  · cases htransition <;> rfl
  · cases htransition <;> rfl

/-- Every step of a world is one of the branches. -/
theorem worldTransition_of_step (h : (world lib).step w a es w') : WorldTransition lib w a es w' := by
  replace h : World.step lib w a = some (w', es) := h
  cases a with
  | create now handshakeTimeout =>
      cases h
      exact .created now handshakeTimeout
  | session i a =>
      simp only [World.step, Option.ite_none_right_eq_some] at h
      obtain ⟨s, t, fs, hget, hstep, rfl, rfl⟩ := World.member_eq_some h.2
      exact .own hget h.1 hstep
  | generate i rnd =>
      simp only [World.step, ConnectionManager.generate, Option.bind_eq_bind,
        Option.bind_eq_some_iff, Option.pure_def, Option.some.injEq, Prod.mk.injEq,
        Prod.exists] at h
      obtain ⟨w₁, es₁, hmember, rfl, rfl⟩ := h
      obtain ⟨s, t, fs, hget, hstep, rfl, rfl⟩ := World.member_eq_some hmember
      obtain rfl := events_eq_nil hstep (.inl ⟨_, rfl⟩)
      exact .generated hget hstep
  | generateFallback i =>
      simp only [World.step, ConnectionManager.generateFallback, Option.bind_eq_bind,
        Option.bind_eq_some_iff, Option.pure_def, Option.some.injEq, Prod.mk.injEq,
        Prod.exists] at h
      obtain ⟨w₁, es₁, hmember, rfl, rfl⟩ := h
      obtain ⟨s, t, fs, hget, hstep, rfl, rfl⟩ := World.member_eq_some hmember
      obtain rfl := events_eq_nil hstep (.inl ⟨_, rfl⟩)
      exact .fallback hget hstep
  | emplace i =>
      simp only [World.step, World.emplace, Option.bind_eq_bind, Option.bind_eq_some_iff] at h
      obtain ⟨s, hget, h⟩ := h
      split at h
      · rename_i attempt sid hstrand
        rcases w.manager.tryEmplace_cases sid i with ⟨result, hresult, hrefused⟩ |
          ⟨hroom, hfree, count, hresult⟩ <;> rw [hresult] at h
        · obtain ⟨s', t, fs, hget', hstep, rfl, rfl⟩ := World.member_eq_some h
          obtain rfl := events_eq_nil hstep (.inr (.inl ⟨_, rfl, hrefused⟩))
          exact .refused hget' hstep
        · obtain ⟨s', t, fs, hget', hstep, rfl, rfl⟩ := World.member_eq_some h
          obtain rfl : s = s' := Option.some.inj (hget.symm.trans hget')
          obtain rfl := events_of_success hstrand hstep
          exact .registered hget hstrand hroom hfree hstep
      · cases h
  | stopAll =>
      cases h
      exact .swept
  | stopClose call i =>
      simp only [World.step, Option.bind_eq_bind, Option.bind_eq_some_iff,
        Option.ite_none_right_eq_some] at h
      obtain ⟨c, hcall, ⟨_, hpending⟩, hmember⟩ := h
      obtain ⟨s, t, fs, hget, hstep, rfl, rfl⟩ := World.member_eq_some hmember
      obtain rfl := events_eq_nil hstep (.inr (.inr (.inl rfl)))
      exact .closing hget hcall hpending hstep
  | stopDispatch call =>
      simp only [World.step, Option.bind_eq_bind, Option.bind_eq_some_iff] at h
      obtain ⟨c, hcall, i, hclosing, hmember⟩ := h
      obtain ⟨s, t, fs, hget, hstep, rfl, rfl⟩ := World.member_eq_some hmember
      obtain rfl := events_eq_nil hstep (.inr (.inr (.inr rfl)))
      exact .dispatching hget hcall hclosing hstep
  | stopReturn call =>
      simp only [World.step, Option.bind_eq_bind, Option.bind_eq_some_iff,
        Option.ite_none_right_eq_some, Option.pure_def, Option.some.injEq, Prod.mk.injEq] at h
      obtain ⟨c, hcall, hdone, rfl, rfl⟩ := h
      exact .returned hcall hdone

end Soundness

/-! ## The sessions of a world -/

/-- The events of sessions. -/
def WorldEvent.observe : WorldEvent → List (ℕ × Event)
  | .session i e => [(i, e)]
  | _ => []

/-- The events of session `i`. -/
def ownEvents (i : ℕ) (es : List WorldEvent) : List Event :=
  Machine.ownEvents i (es.flatMap WorldEvent.observe)

section Sessions

variable {lib : JsonLib} {w w' : World} {a : WorldAction} {as : List WorldAction}
  {es fs : List WorldEvent} {i j : ℕ}

@[simp] theorem flatMap_observe_map_session (es : List Event) :
    (es.map (WorldEvent.session i)).flatMap WorldEvent.observe = es.map (i, ·) := by
  rw [List.flatMap_map, List.map_eq_flatMap]
  rfl

@[simp] theorem ownEvents_append : ownEvents i (es ++ fs) = ownEvents i es ++ ownEvents i fs := by
  simp [ownEvents]

theorem mem_ownEvents {e : Event} : e ∈ ownEvents i es ↔ .session i e ∈ es := by
  rw [ownEvents, Machine.mem_ownEvents, List.mem_flatMap]
  constructor
  · rintro ⟨f, hmem, hf⟩
    cases f with
    | session =>
        obtain ⟨rfl, rfl⟩ := Prod.mk.inj (List.mem_singleton.mp hf)
        exact hmem
    | generated | swept => cases hf
  · exact fun hmem => ⟨_, hmem, List.mem_singleton_self _⟩

/-- A session as `websocket_server` creates it. -/
def WebsocketSession.Fresh (s : WebsocketSession) : Prop :=
  ∃ now handshakeTimeout, s = .construct now handshakeTimeout

theorem family_run_member {s t : WebsocketSession} {a : Action} {es : List Event}
    (hget : w.sessions[i]? = some s) (hstep : sessionStep lib s a = some (t, es)) :
    ((session lib).family WebsocketSession.Fresh).Run w.sessions [.member i a] (es.map (i, ·))
      (w.sessions.set i t) :=
  .single (Machine.FamilyStep.member (M := session lib) hget hstep)

/-- A world is a family of sessions. -/
def sessionsOfWorld (lib : JsonLib) :
    Machine.Refinement (world lib) ((session lib).family WebsocketSession.Fresh) fun _ => True where
  view w := w.sessions
  observe := WorldEvent.observe
  preserves _ _ := trivial
  simulates {w a es w'} _ h := by
    cases worldTransition_of_step h with
    | created now handshakeTimeout =>
        exact ⟨_, .single (.join ⟨now, handshakeTimeout, rfl⟩)⟩
    | own hget _ hstep =>
        rw [flatMap_observe_map_session]
        exact ⟨_, family_run_member hget hstep⟩
    | registered hget _ _ _ hstep => exact ⟨_, family_run_member hget hstep⟩
    | generated hget hstep | fallback hget hstep | refused hget hstep =>
        exact ⟨_, family_run_member hget hstep⟩
    | closing hget _ _ hstep | dispatching hget _ _ hstep =>
        exact ⟨_, family_run_member hget hstep⟩
    | returned => exact ⟨[], .refl _⟩
    | swept =>
        refine ⟨[], ?_⟩
        rw [List.flatMap_eq_nil_iff.mpr]
        · exact .refl _
        · intro e he
          obtain ⟨entry, _, rfl⟩ := List.mem_map.mp he
          rfl

/-- Every session of a world has a run of its own. -/
theorem session_of_world (run : WorldRun lib as es w) {s : WebsocketSession}
    (hget : w.sessions[i]? = some s) :
    ∃ now handshakeTimeout bs, SessionRun lib now handshakeTimeout bs (ownEvents i es) s := by
  obtain ⟨_, bs, family⟩ := (sessionsOfWorld lib).run run trivial
  obtain ⟨_, cs, ⟨now, handshakeTimeout, rfl⟩, own⟩ := Machine.family_member family hget
  exact ⟨now, handshakeTimeout, cs, own⟩

/-- Only the sessions of a world emit the events of sessions. -/
theorem session_of_mem (run : WorldRun lib as es w) {e : Event} (hmem : .session i e ∈ es) :
    ∃ s, w.sessions[i]? = some s := by
  obtain ⟨_, bs, family⟩ := (sessionsOfWorld lib).run run trivial
  exact ⟨_, List.getElem?_eq_getElem (Machine.family_lt_of_mem family (mem_ownEvents.mpr hmem))⟩

/-- A session after a step is the one before it, has taken a step of its own, or is new. -/
theorem WorldTransition.session_origin (h : WorldTransition lib w a es w') {t : WebsocketSession}
    (ht : w'.sessions[i]? = some t) :
    w.sessions[i]? = some t ∨
      (∃ s b fs, w.sessions[i]? = some s ∧ b ≠ .dropManager ∧ sessionStep lib s b = some (t, fs)) ∨
      w.sessions.length ≤ i ∧ t.Fresh := by
  have hset {j : ℕ} {s u : WebsocketSession} {b : Action} {fs : List Event}
      (hget : w.sessions[j]? = some s) (hkeep : b ≠ .dropManager)
      (hstep : sessionStep lib s b = some (u, fs)) (hu : (w.sessions.set j u)[i]? = some t) :
      w.sessions[i]? = some t ∨
        (∃ s b fs, w.sessions[i]? = some s ∧ b ≠ .dropManager ∧
          sessionStep lib s b = some (t, fs)) ∨ w.sessions.length ≤ i ∧ t.Fresh := by
    by_cases hij : j = i
    · subst hij
      rw [List.getElem?_set_self (List.getElem?_eq_some_iff.mp hget).1, Option.some.injEq] at hu
      subst hu
      exact .inr (.inl ⟨s, b, fs, hget, hkeep, hstep⟩)
    · rw [List.getElem?_set_ne hij] at hu
      exact .inl hu
  cases h with
  | created now handshakeTimeout =>
      rcases Nat.lt_or_ge i w.sessions.length with hlt | hge
      · rw [List.getElem?_append_left hlt] at ht
        exact .inl ht
      · rw [List.getElem?_append_right hge] at ht
        exact .inr (.inr ⟨hge, _, _, List.mem_singleton.mp (List.mem_of_getElem? ht)⟩)
  | own hget hallows hstep =>
      refine hset hget ?_ hstep ht
      rintro rfl
      cases hallows
  | registered hget _ _ _ hstep | closing hget _ _ hstep | dispatching hget _ _ hstep =>
      exact hset hget (by simp) hstep ht
  | generated hget hstep | fallback hget hstep | refused hget hstep =>
      exact hset hget (by simp) hstep ht
  | swept | returned => exact .inl ht

/-- The manager outlives the sessions. -/
theorem WorldTransition.managerAlive (h : WorldTransition lib w a es w')
    (hall : ∀ s ∈ w.sessions, s.managerAlive = true) : ∀ s ∈ w'.sessions, s.managerAlive = true := by
  intro t ht
  obtain ⟨i, ht⟩ := List.getElem?_of_mem ht
  rcases h.session_origin ht with hsame | ⟨s, b, fs, hget, hkeep, hstep⟩ | ⟨_, _, _, rfl⟩
  · exact hall t (List.mem_of_getElem? hsame)
  · have halive := hall s (List.mem_of_getElem? hget)
    have htransition := (transition_of_step hstep).2
    cases htransition with
    | managerDropped => exact absurd rfl hkeep
    | _ => exact halive
  · rfl

theorem managerAlive_of_world (run : WorldRun lib as es w) :
    ∀ s ∈ w.sessions, s.managerAlive = true :=
  run.preserves (I := fun w => ∀ s ∈ w.sessions, s.managerAlive = true) (by simp [World.initial])
    fun _ _ _ _ hall h => (worldTransition_of_step h).managerAlive hall

end Sessions

/-- The actions of session `i` in a world, with the random word of its id. -/
def WorldAction.ofAction (i : ℕ) (rnd : UInt32) : Action → WorldAction
  | .generated _ => .generate i rnd
  | .emplaced _ => .emplace i
  | a => .session i a

end CppSim.Server
