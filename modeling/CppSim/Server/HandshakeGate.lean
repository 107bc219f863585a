import CppSim.Server.Registry
import CppSim.Server.Session.Gate

/-!
# The first message of a session

The handler of a first message runs in a world: other sessions register and unregister
between its tries, and `stop_all` may sweep the registry.  `handshakeGate` says what the
message comes to, whatever they do, as long as nobody requests a close of the session.

* `tries` are the insertions of the session, each with the registry it finds.
* `Gate` is the outcome.  The session becomes authenticated exactly when the message is a
  HANDSHAKE of version `v1.0`, one of the tries finds the registry below its limit and the
  id unused, and the write queue has room for the response.
* `handshake_crowded_out` is a client whose message and registry are as they should be, and
  which is not authenticated because other threads fill its write queue.
-/

namespace CppSim.Server

open Protocol

/-! ## One session of a world -/

/-- What a step of a world does to session `i`. -/
def World.actionOn (w : World) (i : ℕ) : WorldAction → Option Action
  | .session j a => if j = i then some a else none
  | .generate j rnd =>
      if j = i then some (.generated (generateSessionId w.manager.counter rnd)) else none
  | .generateFallback j =>
      if j = i then some (.generated (fallbackSessionId w.manager.fallbackCounter)) else none
  | .emplace j =>
      if j = i then
        match (w.sessions[i]?).map WebsocketSession.strand with
        | some (.insert _ sid) => some (.emplaced (w.manager.tryEmplace sid i).1)
        | _ => none
      else none
  | .stopClose _ j => if j = i then some .close else none
  | .stopDispatch call =>
      if (w.stops[call]?).bind StopAll.closing = some i then some .dispatchClose else none
  | .create _ _ | .stopAll | .stopReturn _ => none

/-- The condition holds of what the step does to session `i`. -/
def World.On (C : WebsocketSession → Action → Prop) (i : ℕ) (w : World) (a : WorldAction) : Prop :=
  ∀ s b, w.sessions[i]? = some s → w.actionOn i a = some b → C s b

instance (C : WebsocketSession → Action → Prop) [∀ s b, Decidable (C s b)] (i : ℕ) (w : World)
    (a : WorldAction) : Decidable (World.On C i w a) :=
  decidable_of_iff
    ((w.sessions[i]?).all fun s => (w.actionOn i a).all fun b => decide (C s b)) (by
      simp only [World.On, Option.all_eq_true, decide_eq_true_eq]
      exact ⟨fun h s b hs hb => h s hs b hb, fun h s hs b hb => h s b hs hb⟩)

/-- An insertion of `register_session`, with the registry that it finds. -/
structure Try where
  sid : Text
  registry : ConnectionManager

/-- The registry is below its limit, and the id is unused. -/
def Try.Grants (t : Try) : Prop :=
  t.registry.sessionCount < Config.maxConnections ∧ t.sid ∉ t.registry.sessions

instance (t : Try) : Decidable t.Grants := inferInstanceAs (Decidable (_ ∧ _))

def Try.result (i : ℕ) (t : Try) : EmplaceResult := (t.registry.tryEmplace t.sid i).1

/-- The insertion that session `i` tries in a step. -/
def World.tryOf (w : World) (i : ℕ) : WorldAction → List Try
  | .emplace j =>
      if j = i then
        match (w.sessions[i]?).map WebsocketSession.strand with
        | some (.insert _ sid) => [⟨sid, w.manager⟩]
        | _ => []
      else []
  | _ => []

/-- The world after a step, and the insertions up to then. -/
def World.watch (lib : JsonLib) (i : ℕ) : Option World × List Try → WorldAction →
    Option World × List Try
  | (none, ts), _ => (none, ts)
  | (some w, ts), a => ((World.step lib w a).map Prod.fst, ts ++ w.tryOf i a)

/-- The insertions that session `i` tries. -/
def tries (lib : JsonLib) (i : ℕ) (w : World) (as : List WorldAction) : List Try :=
  (as.foldl (World.watch lib i) (some w, [])).2

section Sessions

variable {lib : JsonLib} {w w' : World} {a : WorldAction} {as : List WorldAction}
  {es fs : List WorldEvent} {i j : ℕ} {s t : WebsocketSession} {sid : Text}
  {C : World → WorldAction → Prop}

theorem watch_of_run (run : ((world lib).restrict C).Run w as es w') :
    as.foldl (World.watch lib i) (some w, []) = (some w', tries lib i w as) := by
  refine Prod.ext ?_ rfl
  induction run with
  | refl => rfl
  | @tail v u as a es fs _ hstep ih =>
      have hnext : World.step lib v a = some (u, fs) := hstep.2
      rw [List.foldl_append, List.foldl_cons, List.foldl_nil]
      rcases hwatch : as.foldl (World.watch lib i) (some w, []) with ⟨reached, ts⟩
      rw [hwatch] at ih
      obtain rfl : reached = some v := ih
      simp [World.watch, hnext]

/-- The insertions of a run with one more step. -/
theorem tries_append (run : ((world lib).restrict C).Run w as es w') :
    tries lib i w (as ++ [a]) = tries lib i w as ++ w'.tryOf i a := by
  rw [tries, List.foldl_append, watch_of_run run]
  rfl

/-- A step of some session, as session `i` sees it. -/
theorem World.member_on {b : Action} (h : w.member lib j b = some (w', es))
    (hget : w.sessions[i]? = some s) :
    j = i ∧ (∃ t, sessionStep lib s b = some (t, ownEvents i es) ∧ w'.sessions[i]? = some t) ∨
      j ≠ i ∧ w'.sessions[i]? = some s ∧ ownEvents i es = [] := by
  obtain ⟨s', t, fs, hget', hstep, rfl, rfl⟩ := World.member_eq_some h
  have hown : ownEvents i (fs.map (WorldEvent.session j)) = Machine.ownEvents i (fs.map (j, ·)) := by
    rw [ownEvents, flatMap_observe_map_session]
  rw [hown]
  by_cases hij : j = i
  · subst hij
    rw [hget] at hget'
    obtain rfl := Option.some.inj hget'
    rw [Machine.ownEvents_map_self]
    exact .inl ⟨rfl, t, hstep, List.getElem?_set_self (List.getElem?_eq_some_iff.mp hget).1⟩
  · refine .inr ⟨hij, ?_, Machine.ownEvents_map_ne hij fs⟩
    rw [List.getElem?_set_ne hij]
    exact hget

/-- What a step of a world is for session `i`: nothing, or a step of its own. -/
theorem step_on (h : (world lib).step w a es w') (hget : w.sessions[i]? = some s) :
    w.actionOn i a = none ∧ w.tryOf i a = [] ∧ w'.sessions[i]? = some s ∧ ownEvents i es = [] ∨
      ∃ b t, w.actionOn i a = some b ∧ b.Generates ∧
        b.results = (w.tryOf i a).map (Try.result i) ∧
        (session lib).step s b (ownEvents i es) t ∧ w'.sessions[i]? = some t := by
  replace h : World.step lib w a = some (w', es) := h
  cases a with
  | create now handshakeTimeout =>
      cases h
      refine .inl ⟨rfl, rfl, ?_, rfl⟩
      rw [List.getElem?_append_left (List.getElem?_eq_some_iff.mp hget).1]
      exact hget
  | session j b =>
      simp only [World.step, Option.ite_none_right_eq_some] at h
      rcases World.member_on h.2 hget with ⟨rfl, t, hstep, ht⟩ | ⟨hij, ht, hnone⟩
      · refine .inr ⟨b, t, if_pos rfl, ?_, ?_, hstep, ht⟩
        · cases b with
          | generated => cases h.1
          | _ => trivial
        · cases b with
          | emplaced => cases h.1
          | _ => rfl
      · exact .inl ⟨if_neg hij, rfl, ht, hnone⟩
  | generate j rnd =>
      simp only [World.step, ConnectionManager.generate, Option.bind_eq_bind,
        Option.bind_eq_some_iff, Option.pure_def, Option.some.injEq, Prod.mk.injEq,
        Prod.exists] at h
      obtain ⟨w₁, es₁, hmember, rfl, rfl⟩ := h
      rcases World.member_on hmember hget with ⟨rfl, t, hstep, ht⟩ | ⟨hij, ht, hnone⟩
      · exact .inr ⟨_, t, if_pos rfl, .inl ⟨_, _, rfl⟩, rfl, hstep, ht⟩
      · exact .inl ⟨if_neg hij, rfl, ht, hnone⟩
  | generateFallback j =>
      simp only [World.step, ConnectionManager.generateFallback, Option.bind_eq_bind,
        Option.bind_eq_some_iff, Option.pure_def, Option.some.injEq, Prod.mk.injEq,
        Prod.exists] at h
      obtain ⟨w₁, es₁, hmember, rfl, rfl⟩ := h
      rcases World.member_on hmember hget with ⟨rfl, t, hstep, ht⟩ | ⟨hij, ht, hnone⟩
      · exact .inr ⟨_, t, if_pos rfl, .inr ⟨_, rfl⟩, rfl, hstep, ht⟩
      · exact .inl ⟨if_neg hij, rfl, ht, hnone⟩
  | emplace j =>
      simp only [World.step, World.emplace, Option.bind_eq_bind, Option.bind_eq_some_iff] at h
      obtain ⟨s', hget', h⟩ := h
      split at h
      · rename_i attempt sid hstrand
        rcases World.member_on h hget with ⟨rfl, t, hstep, ht⟩ | ⟨hij, ht, hnone⟩
        · refine .inr ⟨.emplaced (w.manager.tryEmplace sid _).1, t, ?_, trivial, ?_, hstep, ht⟩
          · simp [World.actionOn, hget', hstrand]
          · simp [World.tryOf, hget', hstrand, Action.results, Try.result]
        · exact .inl ⟨if_neg hij, if_neg hij, ht, hnone⟩
      · cases h
  | stopAll =>
      cases h
      refine .inl ⟨rfl, rfl, hget, ?_⟩
      rw [ownEvents, List.flatMap_map]
      simp [WorldEvent.observe, Machine.ownEvents]
  | stopClose call j =>
      simp only [World.step, Option.bind_eq_bind, Option.bind_eq_some_iff,
        Option.ite_none_right_eq_some] at h
      obtain ⟨c, -, -, hmember⟩ := h
      rcases World.member_on hmember hget with ⟨rfl, t, hstep, ht⟩ | ⟨hij, ht, hnone⟩
      · exact .inr ⟨_, t, if_pos rfl, trivial, rfl, hstep, ht⟩
      · exact .inl ⟨if_neg hij, rfl, ht, hnone⟩
  | stopDispatch call =>
      simp only [World.step, Option.bind_eq_bind, Option.bind_eq_some_iff] at h
      obtain ⟨c, hcall, j, hclosing, hmember⟩ := h
      have hbind : (w.stops[call]?).bind StopAll.closing = some j := by
        rw [hcall]
        exact hclosing
      rcases World.member_on hmember hget with ⟨rfl, t, hstep, ht⟩ | ⟨hij, ht, hnone⟩
      · exact .inr ⟨_, t, if_pos hbind, trivial, rfl, hstep, ht⟩
      · refine .inl ⟨?_, rfl, ht, hnone⟩
        rw [World.actionOn, hbind, if_neg (by simpa using hij)]
  | stopReturn call =>
      simp only [World.step, Option.bind_eq_bind, Option.bind_eq_some_iff,
        Option.ite_none_right_eq_some, Option.pure_def, Option.some.injEq, Prod.mk.injEq] at h
      obtain ⟨c, -, -, rfl, rfl⟩ := h
      exact .inl ⟨rfl, rfl, hget, rfl⟩

/-- A session of the next world is new, or did nothing, or took a step of its own. -/
theorem session_of_step (h : (world lib).step w a es w') (hget : w'.sessions[i]? = some t) :
    (∃ now handshakeTimeout, t = .construct now handshakeTimeout) ∨ w.sessions[i]? = some t ∨
      ∃ s b fs, w.sessions[i]? = some s ∧ w.actionOn i a = some b ∧ b.Generates ∧
        (session lib).step s b fs t := by
  cases hbefore : w.sessions[i]? with
  | some s =>
      rcases step_on h hbefore with ⟨-, -, hsame, -⟩ | ⟨b, u, hb, hgenerates, -, hown, hafter⟩
      · rw [hsame] at hget
        exact .inr (.inl hget)
      · rw [hafter] at hget
        cases hget
        exact .inr (.inr ⟨s, b, _, rfl, hb, hgenerates, hown⟩)
  | none =>
      rcases (worldTransition_of_step h).session_origin hget with hsame | ⟨_, _, _, hsome, -⟩ |
        ⟨-, hfresh⟩
      · rw [hbefore] at hsame
        cases hsame
      · rw [hbefore] at hsome
        cases hsome
      · exact .inl hfresh

/-- A step of a world keeps what every id of `generate_session_id` satisfies. -/
theorem idsHold_step {P : Text → Prop} (hnil : P [])
    (hgenerated : ∀ sid, (Action.generated sid).Generates → P sid) (h : (world lib).step w a es w')
    (inv : ∀ s ∈ w.sessions, IdsHold P s) : ∀ s ∈ w'.sessions, IdsHold P s := by
  intro t ht
  obtain ⟨i, hget⟩ := List.getElem?_of_mem ht
  rcases session_of_step h hget with ⟨_, _, rfl⟩ | hsame | ⟨s, b, fs, hbefore, -, hgenerates, hown⟩
  · exact ⟨hnil, by simp [WebsocketSession.construct, Strand.heldId?]⟩
  · exact inv t (List.mem_of_getElem? hsame)
  · have ids := inv s (List.mem_of_getElem? hbefore)
    exact ids.step hgenerated (transition_of_step hown).2 hgenerates

/-! ## The registry -/

theorem Try.grants_iff (t : Try) : t.Grants ↔ ∃ count, t.result i = .success count := by
  unfold Grants result ConnectionManager.tryEmplace
  by_cases hfull : t.registry.sessionCount ≥ Config.maxConnections
  · rw [if_pos hfull]
    simp [Nat.not_lt.mpr hfull]
  · rw [if_neg hfull]
    by_cases hused : t.sid ∈ t.registry.sessions
    · simp [hused]
    · simp [hused, not_le.mp hfull]

theorem Try.full_of_result {t : Try} (h : t.result i = .maxConnections) :
    Config.maxConnections ≤ t.registry.sessionCount := by
  unfold result ConnectionManager.tryEmplace at h
  by_contra hroom
  rw [if_neg hroom] at h
  split at h <;> cases h

/-- The calls of other sessions leave an entry where it is. -/
theorem lookup_foldl_observe {gs : List Event} (m : ConnectionManager)
    (hnone : .unregister sid ∉ gs) :
    (gs.foldl .observe m).sessions.lookup sid = m.sessions.lookup sid := by
  induction gs generalizing m with
  | nil => rfl
  | cons e gs ih =>
      rw [List.foldl_cons, ih _ fun hmem => hnone (List.mem_cons_of_mem _ hmem)]
      cases e with
      | unregister sid' =>
          refine AList.lookup_erase_ne ?_
          rintro rfl
          exact hnone List.mem_cons_self
      | _ => rfl

/-- An entry stays where it is until it is swept or unregistered. -/
theorem WorldTransition.lookup_kept (h : WorldTransition lib w a fs w')
    (hentry : w.manager.sessions.lookup sid = some i) :
    w'.manager.sessions.lookup sid = some i ∨ .swept sid ∈ fs ∨
      ∃ j, .session j (.unregister sid) ∈ fs := by
  cases h with
  | @own j b s t gs hget _ hstep =>
      by_cases hmem : .unregister sid ∈ gs
      · exact .inr (.inr ⟨j, List.mem_map_of_mem hmem⟩)
      · exact .inl ((lookup_foldl_observe w.manager hmem).trans hentry)
  | @registered j attempt count sid' s t _ _ _ hfree =>
      refine .inl ?_
      rw [AList.lookup_insert_ne]
      · exact hentry
      · rintro rfl
        rw [AList.lookup_eq_none.mpr hfree] at hentry
        cases hentry
  | swept =>
      exact .inr (.inl (List.mem_map.mpr ⟨⟨sid, i⟩, AList.mem_lookup_iff.mp hentry, rfl⟩))
  | created | generated | fallback | refused | closing | dispatching | returned =>
      exact .inl hentry

/-- A session that registered has its entry, unless it was swept or unregistered. -/
theorem lookup_of_registered (run : (world lib).Run w as es w')
    (hmem : .session i (.registered sid) ∈ es) :
    w'.manager.sessions.lookup sid = some i ∨ .swept sid ∈ es ∨
      ∃ j, .session j (.unregister sid) ∈ es := by
  refine run.invariant (I := fun v es => .session i (.registered sid) ∈ es →
    v.manager.sessions.lookup sid = some i ∨ .swept sid ∈ es ∨
      ∃ j, .session j (.unregister sid) ∈ es) (by simp) ?_ hmem
  intro es v a fs v' ih hstep hmem
  have htransition := worldTransition_of_step hstep
  rcases List.mem_append.mp hmem with hold | hnew
  · rcases ih hold with hentry | hswept | ⟨j, hgone⟩
    · rcases htransition.lookup_kept hentry with hentry | hswept | ⟨j, hgone⟩
      · exact .inl hentry
      · exact .inr (.inl (List.mem_append_right _ hswept))
      · exact .inr (.inr ⟨j, List.mem_append_right _ hgone⟩)
    · exact .inr (.inl (List.mem_append_left _ hswept))
    · exact .inr (.inr ⟨j, List.mem_append_left _ hgone⟩)
  · cases htransition with
    | registered =>
        cases List.mem_singleton.mp hnew
        exact .inl (AList.lookup_insert _)
    | own _ hallows hown =>
        obtain ⟨e, he, heq⟩ := List.mem_map.mp hnew
        cases heq
        exact absurd he (registered_notMem hallows hown)
    | swept => simp at hnew
    | created | generated | fallback | refused | closing | dispatching | returned => simp at hnew

/-! ## The handler in a world -/

/-- The session in `w` is about to handle its first message. -/
structure FirstMessage (lib : JsonLib) (i : ℕ) (message : Text) (w : World) (es : List WorldEvent)
    (s : WebsocketSession) : Prop where
  reached : ∃ as, WorldRun lib as es w
  get : w.sessions[i]? = some s
  state : s.state = .unauthenticated
  closeRequested : s.closeRequested = false
  strand : s.strand = .checkBurst message

/-- The steps of a world while session `i` handles a message. -/
def WorldHandlerRun (lib : JsonLib) (i : ℕ) : World → List WorldAction → List WorldEvent → World →
    Prop :=
  ((world lib).restrict (World.On Undisturbed i)).Run

/-- The same, where the write queue of the session has room for its reply. -/
def RoomyRun (lib : JsonLib) (i : ℕ) : World → List WorldAction → List WorldEvent → World → Prop :=
  ((world lib).restrict (World.On (fun s b => Undisturbed s b ∧ HasRoom s b) i)).Run

variable {message : Text} {full : Prop} {D : WebsocketSession → Action → Prop}

/-- Before the first message the session has no id. -/
theorem FirstMessage.fresh (first : FirstMessage lib i message w es s) :
    s.sessionId = [] ∧ registrations (ownEvents i es) = [] ∧ s.reads = 0 ∧
      s.destroyed = false := by
  obtain ⟨⟨as, reached⟩, hget, hstate, -, hstrand⟩ := first
  obtain ⟨control, registration, -⟩ := session_invariants reached hget
  have hone := control.readers_le
  rw [WebsocketSession.readers, hstrand] at hone
  simp only [Strand.reading] at hone
  have hlive : s.destroyed = false := by
    by_contra hdestroyed
    have hidle := control.idle_of_destroyed (by simpa using hdestroyed)
    rw [hstrand] at hidle
    cases hidle
  cases registration with
  | fresh hregs hsid => exact ⟨hsid, hregs, by omega, hlive⟩
  | held _ _ _ _ hleaving =>
      have hnot := (hleaving hstate).2
      rw [hstrand] at hnot
      exact hnot.elim

/-- Where the handler of session `i` is after some steps of the world. -/
structure Handling (lib : JsonLib) (i : ℕ) (message : Text) (full : Prop) (s : WebsocketSession)
    (w : World) (as : List WorldAction) (es : List WorldEvent) (v : World)
    (t : WebsocketSession) : Prop where
  get : v.sessions[i]? = some t
  inv : GateInv lib s message full ((tries lib i w as).map (Try.result i)) (ownEvents i es) t
  live : t.destroyed = false

/-- One more step of the world. -/
theorem Handling.step {v v' : World} {gs history : List WorldEvent}
    (hprints : lib.PrintsUtf8) (first : FirstMessage lib i message w history s)
    (run : ((world lib).restrict (World.On D i)).Run w as es v)
    (handling : Handling lib i message full s w as es v t) (hstep : (world lib).step v a gs v')
    (hundisturbed : ∀ b, v.actionOn i a = some b → Undisturbed t b)
    (hfull : ∀ b, v.actionOn i a = some b → ¬ HasRoom t b → full) :
    ∃ u, Handling lib i message full s w (as ++ [a]) (es ++ gs) v' u := by
  obtain ⟨hget, inv, hlive⟩ := handling
  obtain ⟨before, reached⟩ := first.reached
  have halive : t.managerAlive = true :=
    managerAlive_of_world (reached.trans run.of_restrict) t (List.mem_of_getElem? hget)
  rcases step_on hstep hget with ⟨-, hnone, hget', hsilent⟩ |
    ⟨b, u, haction, hgenerates, hresults, hown, hget'⟩
  · refine ⟨t, hget', ?_, hlive⟩
    rw [tries_append run, hnone, List.append_nil, ownEvents_append, hsilent, List.append_nil]
    exact inv
  · refine ⟨u, hget', ?_, destroyed_of_step hown (hundisturbed b haction)⟩
    rw [tries_append run, List.map_append, ← hresults, ownEvents_append]
    exact inv.step hprints first.state first.fresh.1 halive hgenerates (hfull b haction) hown
      (hundisturbed b haction)

theorem FirstMessage.handling {history : List WorldEvent}
    (first : FirstMessage lib i message w history s) :
    Handling lib i message full s w [] [] w s :=
  ⟨first.get, .received ⟨.refl s, rfl, first.closeRequested, first.fresh.2.2.1⟩ first.strand rfl,
    first.fresh.2.2.2⟩

/-- A run in which replies are refused only where `full` allows it. -/
theorem handling_of_run (full : Prop) {history : List WorldEvent} (hprints : lib.PrintsUtf8)
    (first : FirstMessage lib i message w history s)
    (hundisturbed : ∀ t b, D t b → Undisturbed t b) (hfull : ∀ t b, D t b → ¬ HasRoom t b → full)
    (run : ((world lib).restrict (World.On D i)).Run w as es w') :
    ∃ t, Handling lib i message full s w as es w' t := by
  induction run with
  | refl => exact ⟨s, first.handling⟩
  | @tail v v' as a es gs run hstep ih =>
      obtain ⟨t, handling⟩ := ih
      obtain ⟨hD, hstep⟩ := hstep
      exact handling.step hprints first run hstep
        (fun b haction => hundisturbed t b (hD t b handling.get haction))
        (fun b haction => hfull t b (hD t b handling.get haction))

/-- There was room for every reply, or one was refused. -/
theorem roomy_or_refused {history : List WorldEvent} (hprints : lib.PrintsUtf8)
    (first : FirstMessage lib i message w history s) (run : WorldHandlerRun lib i w as es w') :
    RoomyRun lib i w as es w' ∨ ∃ source line, .refused source line ∈ replies (ownEvents i es) := by
  induction run with
  | refl => exact .inl (.refl _)
  | @tail v v' as a es gs run hstep ih =>
      obtain ⟨hD, hstep⟩ := hstep
      rcases ih with roomy | ⟨source, line, hmem⟩
      · obtain ⟨t, handling⟩ := handling_of_run True hprints first (fun _ _ h => h)
          (fun _ _ _ _ => trivial) run
        by_cases hroom : ∀ b, v.actionOn i a = some b → HasRoom t b
        · refine .inl (roomy.tail ⟨fun u b hget haction => ?_, hstep⟩)
          rw [handling.get] at hget
          cases Option.some.inj hget
          exact ⟨hD t b handling.get haction, hroom b haction⟩
        · push Not at hroom
          obtain ⟨b, haction, hno⟩ := hroom
          rcases step_on hstep handling.get with ⟨hnone, -⟩ | ⟨b', u, haction', -, -, hown, -⟩
          · rw [hnone] at haction
            cases haction
          · rw [haction] at haction'
            cases Option.some.inj haction'
            obtain ⟨source, line, hmem⟩ := handling.inv.refused_of_noRoom hprints first.state
              first.fresh.1 hown (hD t b handling.get haction) hno
            refine .inr ⟨source, line, ?_⟩
            rw [ownEvents_append, replies_append]
            exact List.mem_append_right _ hmem
      · refine .inr ⟨source, line, ?_⟩
        rw [ownEvents_append, replies_append]
        exact List.mem_append_left _ hmem

/-! ## The gate -/

/-- The text is a HANDSHAKE of the version. -/
def HandshakeOf (lib : JsonLib) (version message : Text) : Prop :=
  ∃ j payload, lib.parse message = .ok j ∧ IsHandshake version j payload

theorem accepted_iff : Accepted lib message ↔ HandshakeOf lib protocolVersion message := by
  rw [Accepted, exists_parseHandshake_eq_some, HandshakeOf]
  exact and_iff_right (by decide)

/-- What the first message of session `i`, which came in the world `w` and was handled in
the steps up to `w'`, has come to. -/
structure Gate (lib : JsonLib) (i : ℕ) (message : Text) (w : World) (as : List WorldAction)
    (es : List WorldEvent) (w' : World) (t : WebsocketSession) : Prop where
  authenticated_iff : t.state = .authenticated ↔
    HandshakeOf lib protocolVersion message ∧ (∃ u ∈ tries lib i w as, u.Grants) ∧
      RoomyRun lib i w as es w'
  /-- The response carries the id under which the session is registered, and it holds it. -/
  authenticated : t.state = .authenticated → t.closeRequested = false ∧ t.sessionId ≠ [] ∧
    registrations (ownEvents i es) = [t.sessionId] ∧
    (w'.manager.sessions.lookup t.sessionId = some i ∨ .swept t.sessionId ∈ es ∨
      ∃ j, j ≠ i ∧ .session j (.unregister t.sessionId) ∈ es) ∧
    ∃ response, replies (ownEvents i es) = [.queued .handshakeResponse response] ∧
      serializeHandshakeResponse lib
        ⟨t.sessionId, Config.placeholderSeat, Config.placeholderStack⟩ = .ok response
  /-- Without room for the response the session closes under its id. -/
  unanswered : HandshakeOf lib protocolVersion message → (∃ u ∈ tries lib i w as, u.Grants) →
    ¬ RoomyRun lib i w as es w' → t.closeRequested = true ∧ t.sessionId ≠ [] ∧
      registrations (ownEvents i es) = [t.sessionId] ∧
      ∃ response, replies (ownEvents i es) = [.refused .handshakeResponse response]
  /-- Any other message leaves the registry alone and gets one error. -/
  refused : ¬ (HandshakeOf lib protocolVersion message ∧ ∃ u ∈ tries lib i w as, u.Grants) →
    t.closeRequested = true ∧ t.sessionId = [] ∧
    (∀ sid, .session i (.registered sid) ∉ es ∧ .session i (.unregister sid) ∉ es) ∧
    ∃ errorCode line err, serializeError lib ⟨errorCode, line, none⟩ = .ok err ∧
      (RoomyRun lib i w as es w' → replies (ownEvents i es) = [.queued .error err]) ∧
      (¬ RoomyRun lib i w as es w' → replies (ownEvents i es) = [.refused .error err]) ∧
      (errorCode = ErrorCode.incompatibleVersion ↔
        ∃ version, version ≠ [] ∧ version ≠ protocolVersion ∧ HandshakeOf lib version message)
  /-- `register_session` gives up when the registry is full, or after three tries. -/
  tries : (tries lib i w as).length ≤ WebsocketSession.maxSessionIdRetries ∧
    (HandshakeOf lib protocolVersion message → (∃ u ∈ tries lib i w as, u.Grants) ∨
      (∃ u ∈ tries lib i w as, Config.maxConnections ≤ u.registry.sessionCount) ∨
      (tries lib i w as).length = WebsocketSession.maxSessionIdRetries)

theorem exists_grants_iff {ts : List Try} :
    (∃ u ∈ ts, u.Grants) ↔ ∃ count, .success count ∈ ts.map (Try.result i) := by
  simp only [List.mem_map, Try.grants_iff (i := i)]
  constructor
  · rintro ⟨u, hmem, count, hresult⟩
    exact ⟨count, u, hmem, hresult⟩
  · rintro ⟨count, u, hmem, hresult⟩
    exact ⟨u, hmem, count, hresult⟩

/-- The session registered under an id, and the registry granted it. -/
theorem Inserted.grants {ts : List Try} (h : Inserted (ts.map (Try.result i))) :
    ∃ u ∈ ts, u.Grants := exists_grants_iff.mpr h.success_mem

/-- What a handled message says about the tries. -/
theorem GateEnd.tries_cases {ts : List Try} {gs : List Event}
    (h : GateEnd lib s message full (ts.map (Try.result i)) gs t) :
    ts.length ≤ WebsocketSession.maxSessionIdRetries ∧
      (Accepted lib message → (∃ u ∈ ts, u.Grants) ∨
        (∃ u ∈ ts, Config.maxConnections ≤ u.registry.sessionCount) ∨
        ts.length = WebsocketSession.maxSessionIdRetries) := by
  have hlength : (ts.map (Try.result i)).length = ts.length := List.length_map _
  rcases h.cases with hinserted | ⟨errorCode, line, refusal⟩
  · exact ⟨hlength ▸ hinserted.length_le, fun _ => .inl hinserted.grants⟩
  · refine ⟨hlength ▸ refusal.length_le, fun accepted => .inr ?_⟩
    rcases (refusal.exhausted accepted).cases with hfull | hthree
    · obtain ⟨u, hmem, hresult⟩ := List.mem_map.mp hfull
      exact .inl ⟨u, hmem, Try.full_of_result hresult⟩
    · exact .inr (hlength ▸ hthree)

/-- What the run says about the registration of the session. -/
theorem FirstMessage.registrations_cases {history : List WorldEvent}
    (first : FirstMessage lib i message w history s) (run : WorldHandlerRun lib i w as es w')
    (hget : w'.sessions[i]? = some t) (hlive : t.destroyed = false) (hidle : t.strand = .idle) :
    (t.sessionId ≠ [] → registrations (ownEvents i es) = [t.sessionId] ∧
      (t.state = .authenticated → .session i (.unregister t.sessionId) ∉ es)) ∧
      (t.sessionId = [] →
        ∀ sid, .session i (.registered sid) ∉ es ∧ .session i (.unregister sid) ∉ es) := by
  obtain ⟨before, reached⟩ := first.reached
  obtain ⟨-, registration, unregistration⟩ :=
    session_invariants (reached.trans run.of_restrict) hget
  have happend : registrations (ownEvents i (history ++ es)) = registrations (ownEvents i es) := by
    rw [ownEvents_append, registrations_append, first.fresh.2.1, List.nil_append]
  have hmine : ∀ sid, .session i (.unregister sid) ∈ es →
      registrations (ownEvents i es) = [sid] ∧ t.ended = true := by
    intro sid hmem
    rw [← happend]
    exact unregistration.mine sid (mem_ownEvents.mpr (List.mem_append_right _ hmem))
  constructor
  · intro hne
    refine ⟨happend ▸ registration.registrations_of_sessionId hne, fun hstate hmem => ?_⟩
    have hended := (hmine _ hmem).2
    simp [WebsocketSession.ended, hstate, hlive] at hended
  · intro hnil sid
    have hnone : registrations (ownEvents i es) = [] := by
      rw [← happend]
      cases registration with
      | fresh hregs => exact hregs
      | held _ hne hsid =>
          rw [hidle] at hsid
          exact absurd ((show t.sessionId = _ from hsid).symm.trans hnil) hne
    refine ⟨fun hmem => ?_, fun hmem => ?_⟩
    · have hregs := mem_registrations.mpr (mem_ownEvents.mpr hmem)
      rw [hnone] at hregs
      cases hregs
    · have hregs := (hmine sid hmem).1
      rw [hnone] at hregs
      cases hregs

/-- The replies of an end in which one may be refused. -/
theorem roomy_of_queued {source : Source} {line : Text}
    (hcrowded : RoomyRun lib i w as es w' ∨
      ∃ source line, .refused source line ∈ replies (ownEvents i es))
    (hreplies : replies (ownEvents i es) = [.queued source line]) : RoomyRun lib i w as es w' := by
  rcases hcrowded with roomy | ⟨source', line', hmem⟩
  · exact roomy
  · rw [hreplies] at hmem
    simp at hmem

/-- A refused message gets an error that names what is wrong with it. -/
theorem Refusal.incompatible_iff_version {errorCode line : Text} {rs : List EmplaceResult}
    (h : Refusal lib message rs errorCode line) :
    errorCode = ErrorCode.incompatibleVersion ↔
      ∃ version, version ≠ [] ∧ version ≠ protocolVersion ∧ HandshakeOf lib version message := by
  rw [h.incompatible_iff]
  constructor
  · rintro ⟨m, hparsed, hother⟩
    obtain ⟨hne, hhandshake⟩ := exists_parseHandshake_eq_some.mp ⟨m, hparsed, rfl⟩
    exact ⟨m.protocolVersion, hne, hother, hhandshake⟩
  · rintro ⟨version, hne, hother, hhandshake⟩
    obtain ⟨m, hparsed, rfl⟩ := exists_parseHandshake_eq_some.mpr ⟨hne, hhandshake⟩
    exact ⟨m, hparsed, hother⟩

/-- The handler has come to one of its ends, in a world. -/
theorem GateEnd.gate (hend : GateEnd lib s message True ((tries lib i w as).map (Try.result i))
      (ownEvents i es) t) (hstate : s.state ≠ .authenticated) (hsid : s.sessionId = [])
    (run : (world lib).Run w as es w') (hidle : t.strand = .idle)
    (hroomy : RoomyRun lib i w as es w' →
      ∀ source line, .refused source line ∉ replies (ownEvents i es))
    (hcrowded : RoomyRun lib i w as es w' ∨
      ∃ source line, .refused source line ∈ replies (ownEvents i es))
    (hheld : t.sessionId ≠ [] → registrations (ownEvents i es) = [t.sessionId] ∧
      (t.state = .authenticated → .session i (.unregister t.sessionId) ∉ es))
    (hnone : t.sessionId = [] →
      ∀ sid, .session i (.registered sid) ∉ es ∧ .session i (.unregister sid) ∉ es) :
    Gate lib i message w as es w' t := by
  have htries := hend.tries_cases
  cases hend with
  | @authenticated sid response accepted hinserted hne printed reading =>
      obtain ⟨-, -, hsid', hreplies, hauthenticated, hopen, -⟩ := reading
      subst hsid'
      have roomy := roomy_of_queued hcrowded hreplies
      obtain ⟨hregs, hkept⟩ := hheld hne
      have hhandshake := accepted_iff.mp accepted
      refine ⟨?_, ?_, ?_, ?_, ?_⟩
      · exact ⟨fun _ => ⟨hhandshake, hinserted.grants, roomy⟩, fun _ => hauthenticated⟩
      · intro _
        refine ⟨hopen, hne, hregs, ?_, response, hreplies, printed⟩
        have hmem : .session i (.registered t.sessionId) ∈ es :=
          mem_ownEvents.mp (mem_registrations.mp (by rw [hregs]; simp))
        rcases lookup_of_registered run hmem with hentry | hswept | ⟨j, hgone⟩
        · exact .inl hentry
        · exact .inr (.inl hswept)
        · refine .inr (.inr ⟨j, ?_, hgone⟩)
          rintro rfl
          exact hkept hauthenticated hgone
      · exact fun _ _ hno => absurd roomy hno
      · exact fun hno => absurd ⟨hhandshake, hinserted.grants⟩ hno
      · rwa [← accepted_iff]
  | @unanswered sid response accepted hinserted hne _ closing =>
      have hdone := closing.doneReading hidle
      have hsid' : t.sessionId = sid := closing.held.sessionId
      subst hsid'
      have hcrowded' : ¬ RoomyRun lib i w as es w' := by
        intro roomy
        exact hroomy roomy _ _ (by rw [closing.replies]; exact List.mem_singleton_self _)
      have hnot := closing.not_authenticated hstate
      have hhandshake := accepted_iff.mp accepted
      refine ⟨?_, ?_, ?_, ?_, ?_⟩
      · exact ⟨fun h => absurd h hnot, fun h => absurd h.2.2 hcrowded'⟩
      · exact fun h => absurd h hnot
      · exact fun _ _ _ => ⟨hdone.closeRequested, hne, (hheld hne).1, response, closing.replies⟩
      · exact fun hno => absurd ⟨hhandshake, hinserted.grants⟩ hno
      · rwa [← accepted_iff]
  | @rejected sent errorCode line err refusal printed answered closing =>
      have hdone := closing.doneReading hidle
      have hnil : t.sessionId = [] := closing.held.sessionId.trans hsid
      have hnot := closing.not_authenticated hstate
      have hno : ¬ (HandshakeOf lib protocolVersion message ∧ ∃ u ∈ tries lib i w as, u.Grants) := by
        rintro ⟨hhandshake, hgrants⟩
        obtain ⟨count, hmem⟩ := (exists_grants_iff (i := i)).mp hgrants
        exact (refusal.exhausted (accepted_iff.mpr hhandshake)).success_notMem count hmem
      refine ⟨?_, ?_, ?_, ?_, ?_⟩
      · exact ⟨fun h => absurd h hnot, fun h => absurd ⟨h.1, h.2.1⟩ hno⟩
      · exact fun h => absurd h hnot
      · exact fun hhandshake hgrants => absurd ⟨hhandshake, hgrants⟩ hno
      · refine fun _ => ⟨hdone.closeRequested, hnil, hnone hnil, errorCode, line, err, printed,
          fun roomy => ?_, fun crowded => ?_, refusal.incompatible_iff_version⟩
        · cases answered with
          | queued => exact closing.replies
          | refused =>
              refine absurd ?_ (hroomy roomy .error err)
              rw [closing.replies]
              exact List.mem_singleton_self _
        · cases answered with
          | queued => exact absurd (roomy_of_queued hcrowded closing.replies) crowded
          | refused => exact closing.replies
      · rwa [← accepted_iff]

/-- The handshake gate.  While nobody requests a close of the session, its first message
makes it authenticated exactly when it is a HANDSHAKE of version `v1.0`, the registry grants
an id within three tries, and there is room for the response; and nothing but a response
ever makes the stack or the sequence number of a session move. -/
theorem handshakeGate {history : List WorldEvent} (hprints : lib.PrintsUtf8)
    (first : FirstMessage lib i message w history s) (run : WorldHandlerRun lib i w as es w')
    (hget : w'.sessions[i]? = some t) (hidle : t.strand = .idle) :
    Gate lib i message w as es w' t ∧
      ∀ bs gs v k u, WorldRun lib bs gs v → v.sessions[k]? = some u →
        u.currentStack ≠ Config.placeholderStack ∨ u.lastSequenceNumber ≠ -1 →
        ∃ response, .session k (.queued .handshakeResponse response) ∈ gs := by
  -- the handler, first with a queue that may be full and then with one that has room
  have ⟨hend, hlive⟩ : GateEnd lib s message True ((tries lib i w as).map (Try.result i))
      (ownEvents i es) t ∧ t.destroyed = false := by
    obtain ⟨t', handling⟩ := handling_of_run True hprints first (fun _ _ h => h)
      (fun _ _ _ _ => trivial) run
    rw [handling.get] at hget
    cases Option.some.inj hget
    exact ⟨handling.inv.gateEnd hidle, handling.live⟩
  have hroomy : RoomyRun lib i w as es w' →
      ∀ source line, .refused source line ∉ replies (ownEvents i es) := by
    intro roomy
    obtain ⟨t', handling⟩ := handling_of_run False hprints first (fun _ _ h => h.1)
      (fun _ _ h hno => hno h.2) roomy
    rw [handling.get] at hget
    cases Option.some.inj hget
    exact (handling.inv.gateEnd hidle).queued
  have hcrowded := roomy_or_refused hprints first run
  obtain ⟨hheld, hnone⟩ := first.registrations_cases run hget hlive hidle
  refine ⟨hend.gate (by simp [first.state]) first.fresh.1 run.of_restrict hidle hroomy hcrowded
    hheld hnone, ?_⟩
  intro bs gs v k u reached hu hmoved
  obtain ⟨_, _, _, own⟩ := session_of_world reached hu
  rcases ungreeted_or_responded own with ungreeted | ⟨response, hmem⟩
  · rcases hmoved with hstack | hlast
    · exact absurd ungreeted.currentStack hstack
    · exact absurd ungreeted.lastSequenceNumber hlast
  · exact ⟨response, mem_ownEvents.mp hmem⟩

/-! ## Two clients

Both send the same HANDSHAKE to an empty registry.  While the second one is handled, other
threads find its session in the registry and fill its write queue. -/

def gateLib : JsonLib := .knowing [handshakeEnvelope]

def gateMessage : Text := handshakeEnvelope.print 4

/-- Up to the message handler, which the limiter has passed. -/
def gateReached : World × List WorldEvent :=
  (Machine.exec (World.step gateLib) .initial (.create 0 (seconds 10) ::
    [.armDeadline, .startAccept, .onAccept none, .resume,
      .onRead (.message gateMessage (seconds 1) 10 10)].map (.session 0))).get (by decide +kernel)

def gateSession : WebsocketSession := (gateReached.1.sessions[0]?).get (by decide +kernel)

/-- The handler up to the insertion. -/
def gateInsertion : List WorldAction :=
  [.session 0 (.handleMessage 10000 10000), .generate 0 0xcafe, .emplace 0]

/-- The rest of it, when the response is queued. -/
def gateWelcome : List WorldAction :=
  gateInsertion ++ ([.resume, .resume, .resume, .resume, .rearm (seconds 86400), .resume] :
    List Action).map (.session 0)

/-- The rest of it, when the queue is filled before the response is sent. -/
def gateCrowd : List WorldAction :=
  gateInsertion ++
    (List.replicate Config.maxWriteQueueSize (.send (text "news")) ++
      [.resume, .resume, .resume, .resume, .rearm (seconds 86400)] : List Action).map (.session 0)

def gateWelcomed : World × List WorldEvent :=
  (Machine.exec (Machine.guarded (World.On Undisturbed 0) (World.step gateLib)) gateReached.1
    gateWelcome).get (by decide +kernel)

def gateCrowded : World × List WorldEvent :=
  (Machine.exec (Machine.guarded (World.On Undisturbed 0) (World.step gateLib)) gateReached.1
    gateCrowd).get (by decide +kernel)

theorem gate_firstMessage :
    FirstMessage gateLib 0 gateMessage gateReached.1 gateReached.2 gateSession where
  reached := ⟨_, Machine.run_get _⟩
  get := (Option.some_get _).symm
  state := by decide +kernel
  closeRequested := by decide +kernel
  strand := by decide +kernel

/-- The first client is welcome. -/
theorem handshakeGate_welcomed :
    Gate gateLib 0 gateMessage gateReached.1 gateWelcome gateWelcomed.2 gateWelcomed.1
      ((gateWelcomed.1.sessions[0]?).get (by decide +kernel)) :=
  (handshakeGate (JsonLib.printsUtf8_knowing _) gate_firstMessage (Machine.run_restrict_get _)
    (Option.some_get _).symm (by decide +kernel)).1

/-- The second client is not authenticated, although its message is a HANDSHAKE of version
`v1.0` and the registry grants it an id at the first try. -/
theorem handshake_crowded_out : ∃ t, gateCrowded.1.sessions[0]? = some t ∧
    FirstMessage gateLib 0 gateMessage gateReached.1 gateReached.2 gateSession ∧
    WorldHandlerRun gateLib 0 gateReached.1 gateCrowd gateCrowded.2 gateCrowded.1 ∧
    t.strand = .idle ∧ ¬ (t.state = .authenticated ↔
      HandshakeOf gateLib protocolVersion gateMessage ∧
        ∃ u ∈ tries gateLib 0 gateReached.1 gateCrowd, u.Grants) := by
  refine ⟨_, (Option.some_get (by decide +kernel)).symm, gate_firstMessage,
    Machine.run_restrict_get _, by decide +kernel, ?_⟩
  have haccepted : Accepted gateLib gateMessage := ⟨⟨protocolVersion, none⟩, by decide +kernel, rfl⟩
  have hgranted : ∃ u ∈ tries gateLib 0 gateReached.1 gateCrowd, u.Grants := by decide +kernel
  intro hiff
  exact absurd (hiff.mpr ⟨accepted_iff.mp haccepted, hgranted⟩) (by decide +kernel)

end Sessions

end CppSim.Server
