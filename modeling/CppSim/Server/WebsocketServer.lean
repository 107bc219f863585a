import CppSim.Server.AcceptLoop
import CppSim.Server.ConnectionManager

/-!
# The server

A `WebsocketServer` is an accept loop, in which nothing throws, with the world of its
sessions.  Between any two steps of a handler of the acceptor or of `stop` the sessions,
and the other of the two, may step.

Every step of a server is a step of its world or none, so that what holds of every run of
a world holds of the world of every server; and it is a step of its accept loop or none
(`AcceptLoop.run_of_server`).
-/

namespace CppSim.Server

structure WebsocketServer extends AcceptLoop where
  /-- `conn_mgr_`, with the sessions of the server. -/
  world : World
  handshakeTimeout : ℤ

/-- What can happen next to a server. -/
inductive ServerAction
  /-- `run`. -/
  | run
  /-- Completions, which start on an idle strand. -/
  | onAccept (result : AcceptResult)
  | onBackoff (timer : ℕ) (failed : Bool)
  /-- The handler on the strand goes on. -/
  | resume
  | create (now : ℤ)
  /-- A thread calls `stop`, and the one that stops the server goes on. -/
  | stop
  | stopNext
  /-- A session goes on, or the call of `stop_all` of `stop`. -/
  | world (a : WorldAction)

namespace WebsocketServer

/-- The constructor. -/
def construct (handshakeTimeout : ℤ) : WebsocketServer where
  toAcceptLoop := .construct
  world := .initial
  handshakeTimeout := handshakeTimeout

/-- A step of the accept loop. -/
def inLoop (v : WebsocketServer) (a : AcceptAction) : Option (WebsocketServer × List WorldEvent) :=
  (v.toAcceptLoop.step a).map fun (loop, _) => ({ v with toAcceptLoop := loop }, [])

/-- A step of the world. -/
def inWorld (lib : JsonLib) (v : WebsocketServer) (a : WorldAction) :
    Option (WebsocketServer × List WorldEvent) :=
  (v.world.step lib a).map fun (world, es) => ({ v with world }, es)

/-- The next step of the handler on the strand; the `run` of a session is a step of its own. -/
def resume (v : WebsocketServer) : Option (WebsocketServer × List WorldEvent) :=
  match v.strand with
  | .running i =>
      match v.world.sessions[i]? with
      | some s => if s.runPhase = .returned then v.inLoop .resume else none
      | none => none
  | .doAccept => v.inLoop (.doAccept false)
  | _ => v.inLoop .resume

/-- The next step of `stop`. -/
def stopNext (lib : JsonLib) (v : WebsocketServer) : Option (WebsocketServer × List WorldEvent) :=
  match v.stopPhase with
  | .acceptorClosed =>
      { v with stopPhase := .sweeping v.world.stops.length }.inWorld lib .stopAll
  | .sweeping call => { v with stopPhase := .returned }.inWorld lib (.stopReturn call)
  | _ => v.inLoop (.stopNext v.world.stops.length)

/-- One step of a server. -/
def step (lib : JsonLib) (v : WebsocketServer) : ServerAction →
    Option (WebsocketServer × List WorldEvent)
  | .run => v.inLoop (.run false)
  | .onAccept result => v.inLoop (.onAccept result)
  | .onBackoff timer failed => v.inLoop (.onBackoff timer failed)
  | .resume => v.resume
  | .create now =>
      if v.strand = .create then
        { v with strand := .running v.world.sessions.length }.inWorld lib
          (.create now v.handshakeTimeout)
      else none
  | .stop => v.inLoop .stop
  | .stopNext => v.stopNext lib
  | .world a =>
      match a with
      | .create _ _ | .stopAll => none
      | a => v.inWorld lib a

end WebsocketServer

/-- The machine of a server. -/
def server (lib : JsonLib) : Machine WebsocketServer ServerAction WorldEvent :=
  Machine.ofStep (WebsocketServer.step lib)

/-- The runs of a server from its construction. -/
def ServerRun (lib : JsonLib) (handshakeTimeout : ℤ) (as : List ServerAction)
    (es : List WorldEvent) (v : WebsocketServer) : Prop :=
  (server lib).Run (.construct handshakeTimeout) as es v

section Steps

variable {lib : JsonLib} {v v' : WebsocketServer} {a : ServerAction} {es : List WorldEvent}

theorem WebsocketServer.inLoop_eq_some {b : AcceptAction} (h : v.inLoop b = some (v', es)) :
    ∃ loop fs, acceptLoop.step v.toAcceptLoop b fs loop ∧
      v' = { v with toAcceptLoop := loop } ∧ es = [] := by
  obtain ⟨⟨loop, fs⟩, hstep, heq⟩ := Option.map_eq_some_iff.mp h
  obtain ⟨rfl, rfl⟩ := Prod.mk.inj heq
  exact ⟨loop, fs, hstep, rfl, rfl⟩

theorem WebsocketServer.inWorld_eq_some {b : WorldAction} (h : v.inWorld lib b = some (v', es)) :
    ∃ world', (CppSim.Server.world lib).step v.world b es world' ∧ v' = { v with world := world' } := by
  obtain ⟨⟨world', es'⟩, hstep, heq⟩ := Option.map_eq_some_iff.mp h
  obtain ⟨rfl, rfl⟩ := Prod.mk.inj heq
  exact ⟨world', hstep, rfl⟩

/-! ## The accept loop of a server -/

def ServerAction.isRun : ServerAction → Bool
  | .run => true
  | _ => false

/-- A step of the accept loop, or one that it does not see. -/
inductive LoopStep (v v' : WebsocketServer) : ServerAction → Prop
  | unseen {a : ServerAction} (hloop : v'.toAcceptLoop = v.toAcceptLoop) : LoopStep v v' a
  | seen {a : ServerAction} {b : AcceptAction} {fs : List AcceptEvent}
      (hrun : a.isRun = false → b.isRun = false)
      (hloop : acceptLoop.step v.toAcceptLoop b fs v'.toAcceptLoop) : LoopStep v v' a

theorem loopStep_inLoop {b : AcceptAction} (hrun : a.isRun = false → b.isRun = false)
    (h : v.inLoop b = some (v', es)) : LoopStep v v' a := by
  obtain ⟨loop, fs, hstep, rfl, -⟩ := WebsocketServer.inLoop_eq_some h
  exact .seen hrun hstep

/-- A step of the world, after which the loop goes on as in a step of its own. -/
theorem loopStep_inWorld {b : AcceptAction} {c : WorldAction} {loop : AcceptLoop}
    (hrun : a.isRun = false → b.isRun = false)
    (hloop : acceptLoop.step v.toAcceptLoop b [] loop)
    (h : { v with toAcceptLoop := loop }.inWorld lib c = some (v', es)) : LoopStep v v' a := by
  obtain ⟨world', -, rfl⟩ := WebsocketServer.inWorld_eq_some h
  exact .seen hrun hloop

theorem loopStep_resume (h : v.resume = some (v', es)) : LoopStep v v' .resume := by
  unfold WebsocketServer.resume at h
  split at h
  · split at h
    · obtain ⟨-, h⟩ := Option.ite_none_right_eq_some.mp h
      exact loopStep_inLoop (fun _ => rfl) h
    · cases h
  · exact loopStep_inLoop (fun _ => rfl) h
  · exact loopStep_inLoop (fun _ => rfl) h

theorem loopStep_stopNext (h : v.stopNext lib = some (v', es)) : LoopStep v v' .stopNext := by
  unfold WebsocketServer.stopNext at h
  split at h
  · rename_i hphase
    refine loopStep_inWorld (b := .stopNext v.world.stops.length) (fun _ => rfl) ?_ h
    change (v.toAcceptLoop.stopNext _).map _ = some _
    rw [AcceptLoop.stopNext, hphase]
    rfl
  · rename_i hphase
    refine loopStep_inWorld (b := .stopNext 0) (fun _ => rfl) ?_ h
    change (v.toAcceptLoop.stopNext _).map _ = some _
    rw [AcceptLoop.stopNext, hphase]
    rfl
  · exact loopStep_inLoop (fun _ => rfl) h

/-- Every step of a server is one of these. -/
theorem loopStep_of_step (h : (server lib).step v a es v') : LoopStep v v' a := by
  replace h : WebsocketServer.step lib v a = some (v', es) := h
  cases a with
  | run => exact loopStep_inLoop nofun h
  | onAccept | onBackoff | stop => exact loopStep_inLoop (fun _ => rfl) h
  | resume => exact loopStep_resume h
  | stopNext => exact loopStep_stopNext h
  | create now =>
      obtain ⟨hstrand, h⟩ := Option.ite_none_right_eq_some.mp h
      refine loopStep_inWorld (b := .create (some v.world.sessions.length)) (fun _ => rfl) ?_ h
      exact if_pos hstrand
  | world b =>
      simp only [WebsocketServer.step] at h
      split at h
      · cases h
      · cases h
      · obtain ⟨world', -, rfl⟩ := WebsocketServer.inWorld_eq_some h
        exact .unseen rfl

/-- The runs of a server are runs of its accept loop. -/
theorem AcceptLoop.run_of_server {as : List ServerAction} (run : (server lib).Run v as es v') :
    ∃ bs fs, acceptLoop.Run v.toAcceptLoop bs fs v'.toAcceptLoop ∧
      ((∀ a ∈ as, a.isRun = false) → ∀ b ∈ bs, b.isRun = false) := by
  induction run with
  | refl => exact ⟨[], [], .refl _, by simp⟩
  | tail _ hstep ih =>
      obtain ⟨bs, fs, run, hruns⟩ := ih
      cases loopStep_of_step hstep with
      | unseen hloop =>
          rw [hloop]
          exact ⟨bs, fs, run, fun h => hruns fun a ha => h a (by simp [ha])⟩
      | @seen b gs hrun hloop =>
          refine ⟨bs ++ [b], fs ++ gs, run.tail hloop, ?_⟩
          intro h
          refine List.forall_mem_append.mpr ⟨hruns fun a ha => h a (by simp [ha]), ?_⟩
          simpa using hrun (h _ (by simp))

end Steps

end CppSim.Server
