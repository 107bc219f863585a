import CppSim.Server.Session.Barred
import CppSim.Server.WebsocketServer

/-!
# Shutting down

`stop` reaches sessions through the registry only.  A session that is still upgrading or
in its handshake is not in it, and `stop_all` passes it over: it goes on, and may be
authenticated and registered after `stop` has returned.

`shutdown_complete` says when this cannot happen: the swap of `stop_all` finds every
session registered or closing, none that may yet enter the registry or become
authenticated, and no connection in between the guard of `on_accept` and its session.
Then the registry stays empty from the swap on (`Swept`), and once `stop` has returned
every session is closing.
-/

namespace CppSim.Server

open Protocol

/-! ## Steps of the server -/

/-- The branches of `WebsocketServer.step`, by what they do to the world, to the way to a
new session, and to `stop`. -/
inductive ServerTransition (lib : JsonLib) (v : WebsocketServer) :
    ServerAction → List WorldEvent → WebsocketServer → Prop
  /-- The world, `alive_`, `stopped_` and `stop` stay as they are. -/
  | accepting {a : ServerAction} {v' : WebsocketServer} (hworld : v'.world = v.world)
      (halive : v'.alive = v.alive) (hstopped : v'.stopped = v.stopped)
      (hphase : v'.stopPhase = v.stopPhase)
      (hcreate : v'.strand = .create → v.strand = .create ∨ v.alive = true) :
      ServerTransition lib v a [] v'
  | created {now : ℤ} {world' : World} {es : List WorldEvent} (hstrand : v.strand = .create)
      (hstep : (world lib).step v.world (.create now v.handshakeTimeout) es world') :
      ServerTransition lib v (.create now) es
        { v with world := world', strand := .running v.world.sessions.length }
  | stopRequested (hstopped : v.stopped = false) :
      ServerTransition lib v .stop [] { v with stopped := true, stopPhase := .requested }
  | aliveCleared (hphase : v.stopPhase = .requested) :
      ServerTransition lib v .stopNext [] { v with alive := false, stopPhase := .notAlive }
  | timerReleased (hphase : v.stopPhase = .notAlive) :
      ServerTransition lib v .stopNext []
        { v with backoffTimer := none, stopPhase := .timerReleased }
  | acceptorClosed (hphase : v.stopPhase = .timerReleased) :
      ServerTransition lib v .stopNext []
        { v with acceptorOpen := false, stopPhase := .acceptorClosed }
  | swept {world' : World} {es : List WorldEvent} (hphase : v.stopPhase = .acceptorClosed)
      (hstep : (world lib).step v.world .stopAll es world') :
      ServerTransition lib v .stopNext es
        { v with world := world', stopPhase := .sweeping v.world.stops.length }
  | returned {call : ℕ} {world' : World} {es : List WorldEvent}
      (hphase : v.stopPhase = .sweeping call)
      (hstep : (world lib).step v.world (.stopReturn call) es world') :
      ServerTransition lib v .stopNext es { v with world := world', stopPhase := .returned }
  | within {a : WorldAction} {world' : World} {es : List WorldEvent}
      (hcreate : ∀ now timeout, a ≠ .create now timeout) (hstop : a ≠ .stopAll)
      (hstep : (world lib).step v.world a es world') :
      ServerTransition lib v (.world a) es { v with world := world' }

section Steps

variable {lib : JsonLib} {v v' : WebsocketServer} {a : ServerAction} {es : List WorldEvent}

theorem serverTransition_inLoop {b : AcceptAction} (h : v.inLoop b = some (v', es))
    (hstop : b ≠ .stop) (hnext : ∀ call, b ≠ .stopNext call) :
    ServerTransition lib v a es v' := by
  obtain ⟨loop, fs, hstep, rfl, rfl⟩ := WebsocketServer.inLoop_eq_some h
  obtain ⟨halive, hstopped, hphase, hcreate⟩ :=
    (acceptTransition_of_step hstep).accepting hstop hnext
  exact .accepting rfl halive hstopped hphase hcreate

theorem serverTransition_resume (h : v.resume = some (v', es)) :
    ServerTransition lib v .resume es v' := by
  unfold WebsocketServer.resume at h
  split at h
  · split at h
    · obtain ⟨-, h⟩ := Option.ite_none_right_eq_some.mp h
      exact serverTransition_inLoop h nofun nofun
    · cases h
  · exact serverTransition_inLoop h nofun nofun
  · exact serverTransition_inLoop h nofun nofun

theorem serverTransition_stop (h : v.inLoop .stop = some (v', es)) :
    ServerTransition lib v .stop es v' := by
  obtain ⟨loop, fs, hstep, rfl, rfl⟩ := WebsocketServer.inLoop_eq_some h
  cases acceptTransition_of_step hstep with
  | stopRequested hstopped => exact .stopRequested hstopped
  | stopAgain => exact .accepting rfl rfl rfl rfl .inl
  | went hgoes => rcases hgoes with hgoes | ⟨_, hgoes⟩ <;> cases hgoes

theorem serverTransition_stopNext (h : v.stopNext lib = some (v', es)) :
    ServerTransition lib v .stopNext es v' := by
  unfold WebsocketServer.stopNext at h
  split at h
  · obtain ⟨world', hstep, rfl⟩ := WebsocketServer.inWorld_eq_some h
    exact .swept ‹_› hstep
  · obtain ⟨world', hstep, rfl⟩ := WebsocketServer.inWorld_eq_some h
    exact .returned ‹_› hstep
  · rename_i hopen hsweeping
    obtain ⟨loop, fs, hstep, rfl, rfl⟩ := WebsocketServer.inLoop_eq_some h
    obtain ⟨next, hnext, heq⟩ := Option.map_eq_some_iff.mp hstep
    cases heq
    unfold AcceptLoop.stopNext at hnext
    split at hnext
    · cases hnext
    · cases hnext
    · cases hnext
      exact .aliveCleared ‹_›
    · cases hnext
      exact .timerReleased ‹_›
    · cases hnext
      exact .acceptorClosed ‹_›
    · exact absurd ‹_› hopen
    · exact absurd ‹_› (hsweeping _)

/-- Every step of a server is one of the branches. -/
theorem serverTransition_of_step (h : (server lib).step v a es v') :
    ServerTransition lib v a es v' := by
  replace h : WebsocketServer.step lib v a = some (v', es) := h
  cases a with
  | run | onAccept | onBackoff => exact serverTransition_inLoop h nofun nofun
  | resume => exact serverTransition_resume h
  | stop => exact serverTransition_stop h
  | stopNext => exact serverTransition_stopNext h
  | create now =>
      obtain ⟨hstrand, h⟩ := Option.ite_none_right_eq_some.mp h
      obtain ⟨world', hstep, rfl⟩ := WebsocketServer.inWorld_eq_some h
      exact .created hstrand hstep
  | world b =>
      simp only [WebsocketServer.step] at h
      split at h
      · cases h
      · cases h
      · rename_i hcreate hstop
        obtain ⟨world', hstep, rfl⟩ := WebsocketServer.inWorld_eq_some h
        exact .within hcreate hstop hstep

/-- A server is a world, whose sessions it creates. -/
def worldOfServer (lib : JsonLib) : Machine.Refinement (server lib) (world lib) fun _ => True where
  view v := v.world
  observe e := [e]
  preserves _ _ := trivial
  simulates {v a es v'} _ h := by
    rw [List.flatMap_singleton']
    cases serverTransition_of_step h with
    | accepting hworld =>
        rw [hworld]
        exact ⟨[], .refl _⟩
    | created _ hstep | swept _ hstep | returned _ hstep => exact ⟨_, .single hstep⟩
    | within _ _ hstep => exact ⟨_, .single hstep⟩
    | stopRequested | aliveCleared | timerReleased | acceptorClosed => exact ⟨[], .refl _⟩

/-- The world of a server has a run of its own. -/
theorem world_of_server {handshakeTimeout : ℤ} {as : List ServerAction}
    (run : ServerRun lib handshakeTimeout as es v) : ∃ bs, WorldRun lib bs es v.world := by
  obtain ⟨_, bs, worldRun⟩ := (worldOfServer lib).run run trivial
  exact ⟨bs, by rwa [show (worldOfServer lib).observe = fun e => [e] from rfl,
    List.flatMap_singleton'] at worldRun⟩

end Steps

/-! ## After the swap -/

/-- After the swap of `stop_all`: the registry is empty, no session may enter it or become
authenticated, and every session is closing or one of those that are yet to be closed. -/
structure Swept (lib : JsonLib) (pending : ℕ → Prop) (w : World) : Prop where
  empty : w.manager.sessions = ∅
  barred : ∀ s ∈ w.sessions, s.Barred lib
  closing : ∀ (i : ℕ) (s : WebsocketSession), w.sessions[i]? = some s →
    s.isClosing = true ∨ pending i

/-- The sessions that a call of `stop_all` has yet to close. -/
def World.pending (w : World) (call i : ℕ) : Prop :=
  ∃ c, w.stops[call]? = some c ∧ i ∈ c.pending

section AfterSwap

variable {lib : JsonLib} {w w' : World} {a : WorldAction} {as : List WorldAction}
  {es fs : List WorldEvent} {P P' : ℕ → Prop}

theorem observe_empty {m : ConnectionManager} (h : m.sessions = ∅) (fs : List Event) :
    (fs.foldl .observe m).sessions = ∅ := by
  induction fs generalizing m with
  | nil => exact h
  | cons e fs ih =>
      refine ih ?_
      cases e with
      | unregister sid =>
          rw [ConnectionManager.observe, ConnectionManager.unregisterSession, h]
          rfl
      | _ => exact h

/-- A step of one session after the swap. -/
private theorem Swept.set {i : ℕ} {s t : WebsocketSession} {b : Action} {gs : List Event}
    (swept : Swept lib P w) (control : ∀ s ∈ w.sessions, ControlInv s)
    (hget : w.sessions[i]? = some s) (hkeep : b ≠ .dropManager)
    (hstep : sessionStep lib s b = some (t, gs)) (hsessions : w'.sessions = w.sessions.set i t)
    (hempty : w'.manager.sessions = ∅) (hpending : ∀ j, P j → P' j ∨ j = i ∧ t.isClosing = true) :
    Swept lib P' w' := by
  have htransition := (transition_of_step hstep).2
  have hmem := List.mem_of_getElem? hget
  refine ⟨hempty, fun u hu => ?_, fun j u hu => ?_⟩
  · rw [hsessions] at hu
    rcases List.mem_or_eq_of_mem_set hu with hold | rfl
    · exact swept.barred u hold
    · exact htransition.barred hkeep (swept.barred s hmem)
  · rw [hsessions] at hu
    by_cases hij : i = j
    · subst hij
      rw [List.getElem?_set_self (List.getElem?_eq_some_iff.mp hget).1, Option.some.injEq] at hu
      subst hu
      rcases swept.closing i s hget with hclosing | hwaiting
      · exact .inl (htransition.isClosing (control s hmem) hclosing)
      · exact (hpending i hwaiting).symm.imp_left And.right
    · rw [List.getElem?_set_ne hij] at hu
      rcases swept.closing j u hu with hclosing | hwaiting
      · exact .inl hclosing
      · rcases hpending j hwaiting with hwaiting' | ⟨rfl, _⟩
        · exact .inr hwaiting'
        · exact absurd rfl hij

theorem closeRequested_of_close {s t : WebsocketSession} {gs : List Event}
    (hstep : sessionStep lib s .close = some (t, gs)) : t.closeRequested = true := by
  obtain ⟨r, hr, heq⟩ := Option.map_eq_some_iff.mp hstep
  unfold WebsocketSession.step at hr
  split at hr
  · cases hr
  · cases hr
    cases heq
    rfl

/-- What is swept stays swept, while no session is created. -/
theorem Swept.step (h : WorldTransition lib w a fs w') (swept : Swept lib P w)
    (control : ∀ s ∈ w.sessions, ControlInv s)
    (hcreate : ∀ now timeout, a ≠ .create now timeout) (hstop : a ≠ .stopAll)
    (hpending : ∀ j, P j → P' j ∨ ∃ call, a = .stopClose call j) : Swept lib P' w' := by
  have hstay (hclose : ∀ call j, a ≠ .stopClose call j) (i : ℕ) (t : WebsocketSession) (j : ℕ)
      (hj : P j) : P' j ∨ j = i ∧ t.isClosing = true :=
    .inl ((hpending j hj).resolve_right fun ⟨call, ha⟩ => hclose call j ha)
  cases h with
  | created => exact absurd rfl (hcreate _ _)
  | swept => exact absurd rfl hstop
  | own hget hallows hstep =>
      refine swept.set control hget ?_ hstep rfl (observe_empty swept.empty _)
        (hstay (by simp) _ _)
      rintro rfl
      cases hallows
  | generated hget hstep | fallback hget hstep | refused hget hstep =>
      exact swept.set control hget (by simp) hstep rfl swept.empty (hstay (by simp) _ _)
  | registered hget hstrand _ _ hstep =>
      have hmem := List.mem_of_getElem? hget
      exact absurd hstrand ((swept.barred _ hmem).not_inserting (control _ hmem))
  | dispatching hget _ _ hstep =>
      exact swept.set control hget (by simp) hstep rfl swept.empty (hstay (by simp) _ _)
  | @closing call i c s t hget _ _ hstep =>
      refine swept.set control hget (by simp) hstep rfl swept.empty fun j hj => ?_
      rcases hpending j hj with hwaiting | ⟨call', ha⟩
      · exact .inl hwaiting
      · cases ha
        exact .inr ⟨rfl, WebsocketSession.isClosing_of_closeRequested (closeRequested_of_close hstep)⟩
  | returned =>
      refine ⟨swept.empty, swept.barred, fun j s hget => ?_⟩
      rcases swept.closing j s hget with hclosing | hwaiting
      · exact .inl hclosing
      · exact .inr ((hpending j hwaiting).resolve_right (by simp))

/-- A call of `stop_all` forgets no session that it has yet to close. -/
theorem WorldTransition.pending {call j : ℕ} (h : WorldTransition lib w a fs w')
    (hpending : w.pending call j) : w'.pending call j ∨ ∃ call, a = .stopClose call j := by
  obtain ⟨c, hcall, hj⟩ := hpending
  have hlt := (List.getElem?_eq_some_iff.mp hcall).1
  cases h with
  | created | own | generated | fallback | registered | refused => exact .inl ⟨c, hcall, hj⟩
  | swept => exact .inl ⟨c, by rw [World.stopAll, List.getElem?_append_left hlt, hcall], hj⟩
  | @closing call' i c' s t hget hcall' hi =>
      by_cases hsame : call' = call
      · subst hsame
        obtain rfl : c = c' := Option.some.inj (hcall.symm.trans hcall')
        by_cases hij : j = i
        · exact .inr ⟨_, by rw [hij]⟩
        · exact .inl ⟨_, List.getElem?_set_self hlt, (List.mem_erase_of_ne hij).mpr hj⟩
      · exact .inl ⟨c, by rw [List.getElem?_set_ne hsame, hcall], hj⟩
  | @dispatching call' i c' s t hget hcall' hi =>
      by_cases hsame : call' = call
      · subst hsame
        obtain rfl : c = c' := Option.some.inj (hcall.symm.trans hcall')
        exact .inl ⟨_, List.getElem?_set_self hlt, hj⟩
      · exact .inl ⟨c, by rw [List.getElem?_set_ne hsame, hcall], hj⟩
  | @returned call' c' hcall' hdone =>
      by_cases hsame : call' = call
      · subst hsame
        obtain rfl : c = c' := Option.some.inj (hcall.symm.trans hcall')
        exact .inl ⟨_, List.getElem?_set_self hlt, hj⟩
      · exact .inl ⟨c, by rw [List.getElem?_set_ne hsame, hcall], hj⟩

end AfterSwap

/-! ## Complete shutdown -/

/-- The swap finds no accepted connection without a session, and no session that it does
not reach or that may yet enter. -/
def SweepsSettled (lib : JsonLib) (v : WebsocketServer) : ServerAction → Prop
  | .stopNext => v.stopPhase = .acceptorClosed → v.strand ≠ .create ∧
      ∀ i (hi : i < v.world.sessions.length), v.world.sessions[i].Barred lib ∧
        (v.world.sessions[i].isClosing = true ∨ v.world.isRegistered i = true)
  | _ => True

instance (lib : JsonLib) (v : WebsocketServer) : (a : ServerAction) → Decidable (SweepsSettled lib v a)
  | .stopNext => inferInstanceAs (Decidable (_ → _))
  | .run | .onAccept _ | .onBackoff _ _ | .resume | .create _ | .stop | .world _ =>
      inferInstanceAs (Decidable True)

/-- The shutdown is complete: every session is closing, the registry is empty, and no session
becomes authenticated. -/
structure ShutDown (lib : JsonLib) (v : WebsocketServer) : Prop where
  closing : ∀ s ∈ v.world.sessions, s.isClosing = true
  empty : v.world.manager.sessionCount = 0
  final : ∀ (a : ServerAction) (es : List WorldEvent) (v' : WebsocketServer) (i : ℕ)
    (s t : WebsocketSession), (server lib).step v a es v' → v.world.sessions[i]? = some s →
      v'.world.sessions[i]? = some t → t.state = .authenticated → s.state = .authenticated

section Shutdown

variable {lib : JsonLib} {v v' : WebsocketServer} {a : ServerAction} {as : List ServerAction}
  {es fs : List WorldEvent} {handshakeTimeout : ℤ}

/-- How far `stop` has come, and what follows for the flags, the acceptor and the world. -/
structure ShutdownInv (lib : JsonLib) (v : WebsocketServer) : Prop where
  stopped : v.stopPhase ≠ .notCalled → v.stopped = true
  dead : v.stopPhase ≠ .notCalled → v.stopPhase ≠ .requested → v.alive = false
  sweeping : ∀ call, v.stopPhase = .sweeping call →
    v.strand ≠ .create ∧ Swept lib (v.world.pending call) v.world
  returned : v.stopPhase = .returned → v.strand ≠ .create ∧ Swept lib (fun _ => False) v.world

/-- The control invariant of every session of a world. -/
theorem controlInv_of_world {w : World} {bs : List WorldAction} (run : WorldRun lib bs es w) :
    ∀ s ∈ w.sessions, ControlInv s := by
  intro s hs
  obtain ⟨i, hget⟩ := List.getElem?_of_mem hs
  obtain ⟨_, _, _, own⟩ := session_of_world run hget
  exact controlInv_of_run own

/-- The swap, where every session is settled. -/
theorem swept_stopAll {w : World}
    (hsettled : ∀ i (hi : i < w.sessions.length), w.sessions[i].Barred lib ∧
      (w.sessions[i].isClosing = true ∨ w.isRegistered i = true)) :
    Swept lib (w.stopAll.pending w.stops.length) w.stopAll := by
  refine ⟨rfl, fun s hs => ?_, fun i s hget => ?_⟩
  · obtain ⟨i, hi, rfl⟩ := List.getElem_of_mem hs
    exact (hsettled i hi).1
  · obtain ⟨hi, rfl⟩ := List.getElem?_eq_some_iff.mp hget
    rcases (hsettled i hi).2 with hclosing | hregistered
    · exact .inl hclosing
    · refine .inr ⟨_, List.getElem?_concat_length, ?_⟩
      simpa [World.isRegistered] using hregistered

theorem ShutdownInv.step (h : ServerTransition lib v a fs v') (hsettled : SweepsSettled lib v a)
    (control : ∀ s ∈ v.world.sessions, ControlInv s) (inv : ShutdownInv lib v) :
    ShutdownInv lib v' := by
  obtain ⟨hstopped, hdead, hsweeping, hreturned⟩ := inv
  cases h with
  | accepting hworld halive hstop hphase hcreate =>
      have hnot (hphase : v.stopPhase ≠ .notCalled) (hphase' : v.stopPhase ≠ .requested)
          (hstrand : v.strand ≠ .create) : v'.strand ≠ .create := by
        intro hstrand'
        rcases hcreate hstrand' with hbefore | hrunning
        · exact hstrand hbefore
        · rw [hdead hphase hphase'] at hrunning
          cases hrunning
      constructor <;> rw [hphase]
      · rwa [hstop]
      · rwa [halive]
      · intro call hcall
        obtain ⟨hstrand, swept⟩ := hsweeping call hcall
        rw [hworld]
        exact ⟨hnot (by simp [hcall]) (by simp [hcall]) hstrand, swept⟩
      · intro hdone
        obtain ⟨hstrand, swept⟩ := hreturned hdone
        rw [hworld]
        exact ⟨hnot (by simp [hdone]) (by simp [hdone]) hstrand, swept⟩
  | created hstrand =>
      exact ⟨hstopped, hdead, fun call hcall => absurd hstrand (hsweeping call hcall).1,
        fun hdone => absurd hstrand (hreturned hdone).1⟩
  | stopRequested =>
      exact ⟨fun _ => rfl, fun _ h => absurd rfl h, nofun, nofun⟩
  | aliveCleared hphase =>
      exact ⟨fun _ => hstopped (by simp [hphase]), fun _ _ => rfl, nofun,
        nofun⟩
  | timerReleased hphase | acceptorClosed hphase =>
      exact ⟨fun _ => hstopped (by simp [hphase]), fun _ _ => hdead (by simp [hphase])
        (by simp [hphase]), nofun, nofun⟩
  | swept hphase hstep =>
      obtain ⟨hstrand, hsettled⟩ := hsettled hphase
      cases hstep
      refine ⟨fun _ => hstopped (by simp [hphase]), fun _ _ => hdead (by simp [hphase])
        (by simp [hphase]), fun call hcall => ?_, nofun⟩
      cases hcall
      exact ⟨hstrand, swept_stopAll hsettled⟩
  | @returned call world' es hphase hstep =>
      obtain ⟨hstrand, swept⟩ := hsweeping call hphase
      have htransition := worldTransition_of_step hstep
      refine ⟨fun _ => hstopped (by simp [hphase]), fun _ _ => hdead (by simp [hphase])
        (by simp [hphase]), nofun, fun _ => ⟨hstrand, ?_⟩⟩
      refine swept.step htransition control (by simp) (by simp) fun j hj => ?_
      exfalso
      obtain ⟨c, hcall, hmem⟩ := hj
      cases htransition with
      | @returned _ c' hcall' hdone =>
          obtain rfl : c = c' := Option.some.inj (hcall.symm.trans hcall')
          simp only [StopAll.done, Bool.and_eq_true, List.isEmpty_iff] at hdone
          rw [hdone.1] at hmem
          cases hmem
  | within hcreate hstop hstep =>
      have htransition := worldTransition_of_step hstep
      refine ⟨hstopped, hdead, fun call hcall => ?_, fun hdone => ?_⟩
      · obtain ⟨hstrand, swept⟩ := hsweeping call hcall
        exact ⟨hstrand, swept.step htransition control hcreate hstop
          fun j hj => htransition.pending hj⟩
      · obtain ⟨hstrand, swept⟩ := hreturned hdone
        exact ⟨hstrand, swept.step htransition control hcreate hstop fun _ h => h.elim⟩

theorem shutdownInv_construct : ShutdownInv lib (.construct handshakeTimeout) :=
  ⟨fun h => absurd rfl h, fun h => absurd rfl h, nofun, nofun⟩

/-- A step after the swap authenticates nobody. -/
theorem Swept.not_authenticated {w w' : World} {b : WorldAction} {P : ℕ → Prop} {i : ℕ}
    {s t : WebsocketSession} (swept : Swept lib P w) (control : ∀ s ∈ w.sessions, ControlInv s)
    (h : WorldTransition lib w b fs w') (hs : w.sessions[i]? = some s)
    (ht : w'.sessions[i]? = some t) (hstate : t.state = .authenticated) :
    s.state = .authenticated := by
  have hmem := List.mem_of_getElem? hs
  rcases h.session_origin ht with hsame | ⟨u, b, gs, hget, _, hstep⟩ | ⟨hge, _⟩
  · rw [hs, Option.some.injEq] at hsame
    rwa [hsame]
  · obtain rfl : s = u := Option.some.inj (hs.symm.trans hget)
    exact (swept.barred s hmem).not_authenticated (control s hmem) (transition_of_step hstep).2 hstate
  · exact absurd (List.getElem?_eq_some_iff.mp hs).1 (Nat.not_lt.mpr hge)

/-- In every run in which the swap finds the sessions settled, the shutdown is complete once
`stop` has returned, and stays so. -/
theorem shutdown_complete
    (run : ((server lib).restrict (SweepsSettled lib)).Run (.construct handshakeTimeout) as es v)
    (hreturned : v.stopPhase = .returned) : ShutDown lib v := by
  have hinit : ∃ bs es', WorldRun lib bs es' (WebsocketServer.construct handshakeTimeout).world :=
    ⟨[], [], .refl _⟩
  obtain ⟨⟨bs, es', worldRun⟩, inv⟩ : (∃ bs es', WorldRun lib bs es' v.world) ∧ ShutdownInv lib v := by
    refine run.invariant (I := fun v es =>
      (∃ bs es', WorldRun lib bs es' v.world) ∧ ShutdownInv lib v)
      ⟨hinit, shutdownInv_construct⟩ ?_
    intro es v a fs v' ⟨⟨bs, es', worldRun⟩, inv⟩ ⟨hsettled, hstep⟩
    obtain ⟨_, cs, next⟩ := (worldOfServer lib).run (Machine.Run.single hstep) trivial
    exact ⟨⟨_, _, worldRun.trans next⟩, inv.step (serverTransition_of_step hstep) hsettled
      (controlInv_of_world worldRun)⟩
  obtain ⟨hstrand, swept⟩ := inv.returned hreturned
  have control := controlInv_of_world worldRun
  refine ⟨fun s hs => ?_, ?_, fun a fs v' i s t hstep hs ht hstate => ?_⟩
  · obtain ⟨i, hget⟩ := List.getElem?_of_mem hs
    exact (swept.closing i s hget).resolve_right id
  · rw [ConnectionManager.sessionCount, swept.empty]
    rfl
  · have hkept (hsame : v'.world = v.world) : s.state = .authenticated := by
      rw [hsame, hs, Option.some.injEq] at ht
      rwa [ht]
    cases serverTransition_of_step hstep with
    | accepting hworld => exact hkept hworld
    | stopRequested | aliveCleared | timerReleased | acceptorClosed =>
        exact hkept rfl
    | created _ hworld | swept _ hworld | returned _ hworld =>
        exact swept.not_authenticated control (worldTransition_of_step hworld) hs ht hstate
    | within _ _ hworld =>
        exact swept.not_authenticated control (worldTransition_of_step hworld) hs ht hstate

/-! ## A client in its handshake -/

/-- The library knows the one text that the clients below send. -/
def handshakeLib : JsonLib := .knowing [handshakeEnvelope]

/-- A server accepts a connection, creates its session and runs it. -/
def acceptActions : List ServerAction :=
  [.run, .onAccept .accepted, .resume, .resume, .resume, .create 0,
    .world (.session 0 .armDeadline), .world (.session 0 .startAccept), .resume, .resume]

/-- The session is upgraded, and its client authenticated. -/
def upgradeActions : List ServerAction :=
  [.world (.session 0 (.onAccept none)), .world (.session 0 .resume)]

def handshakeActions : List ServerAction :=
  ((connectActions []).drop 4).map fun a => .world (.ofAction 0 0xdeadbeef a)

/-- `stop`, up to the swap of `stop_all`. -/
def sweepActions : List ServerAction := [.stop, .stopNext, .stopNext, .stopNext, .stopNext]

/-- The client is authenticated when the server stops. -/
def settledRun : WebsocketServer × List WorldEvent :=
  (Machine.exec
    (Machine.guarded (SweepsSettled handshakeLib) (WebsocketServer.step handshakeLib))
    (.construct (seconds 10))
    (acceptActions ++ upgradeActions ++ handshakeActions ++ sweepActions ++
      [.world (.stopClose 0 0), .world (.stopDispatch 0), .stopNext])).get (by decide +kernel)

theorem shutdown_complete_settled : ShutDown handshakeLib settledRun.1 := by
  have run : ((server handshakeLib).restrict (SweepsSettled handshakeLib)).Run _ _ settledRun.2
      settledRun.1 := Machine.run_restrict_get _
  exact shutdown_complete run (by decide +kernel)

/-- The client sends its handshake after the server has stopped. -/
def lateHandshakeRun : WebsocketServer × List WorldEvent :=
  (Machine.exec (WebsocketServer.step handshakeLib) (.construct (seconds 10))
    (acceptActions ++ upgradeActions ++ sweepActions ++ [.stopNext] ++ handshakeActions)).get
    (by decide +kernel)

/-- It is authenticated, and the registry holds its session. -/
theorem not_shutDown :
    ¬ ∀ (lib : JsonLib) (handshakeTimeout : ℤ) (as : List ServerAction) (es : List WorldEvent)
      (v : WebsocketServer), ServerRun lib handshakeTimeout as es v → v.stopPhase = .returned →
      ShutDown lib v := by
  intro hall
  have run : ServerRun handshakeLib (seconds 10) _ lateHandshakeRun.2 lateHandshakeRun.1 :=
    Machine.run_get _
  have hdown := hall _ _ _ _ _ run (by decide +kernel)
  exact absurd hdown.empty (by decide +kernel)

end Shutdown

end CppSim.Server
