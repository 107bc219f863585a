import CppSim.Server.Session.Control

/-!
# How an upgraded connection is closed

Once `on_accept` has completed, the connection speaks WebSocket, and it should end with
a close frame.  `do_close` chooses between the frame and the raw socket by `state_`,
which says whether the client was authenticated, not whether the upgrade had completed:
a client that is upgraded and not yet authenticated is cut off.

`UpgradedSession` is a session that remembers the upgrade, and its events say whether
they came after it.  The shutdown of a session is two steps, which `ShutdownStep` tells
apart from all others:

* `begun`: `do_close` takes the old value of `state_`;
* `done`: it closes the frame or the socket, by that value.

`upgraded_closes_iff` says which runs end every upgraded connection with a frame: those in
which no shutdown begins between the upgrade and the authentication, and no upgraded
session is destroyed without a shutdown.
-/

namespace CppSim.Server

open Protocol

/-! ## Sessions that remember their upgrade -/

/-- A session, and whether its WebSocket upgrade has completed. -/
structure UpgradedSession where
  session : WebsocketSession
  upgraded : Bool

/-- `async_accept` completes without an error, before the session is shut down. -/
def Action.upgrades (s : WebsocketSession) : Action → Bool
  | .onAccept none => s.state != .closed
  | _ => false

/-- The step of a session that remembers its upgrade; an event says whether it came after it. -/
def upgradedStep (lib : JsonLib) (v : UpgradedSession) (a : Action) :
    Option (UpgradedSession × List (Bool × Event)) :=
  (sessionStep lib v.session a).map fun r =>
    (⟨r.1, v.upgraded || a.upgrades v.session⟩, r.2.map fun e => (v.upgraded, e))

def upgradedSession (lib : JsonLib) : Machine UpgradedSession Action (Bool × Event) :=
  Machine.ofStep (upgradedStep lib)

/-- A session that was just constructed. -/
def UpgradedSession.construct (now handshakeTimeout : ℤ) : UpgradedSession :=
  ⟨.construct now handshakeTimeout, false⟩

/-- An operation on the transport completes with an error. -/
def Action.isTransportError : Action → Bool
  | .onAccept (some _) | .onRead (.failed _) | .onWrite (some _) => true
  | _ => false

/-- The shutdown that the strand is in, by the state it found. -/
def Strand.prevState? : Strand → Option SessionState
  | .doCloseUnregister prevState _ | .doCloseShutdown prevState _ => some prevState
  | _ => none

/-- The session is at its end: it was shut down, or destroyed. -/
def WebsocketSession.Over (s : WebsocketSession) : Prop :=
  s.destroyed = true ∨ s.state = .closed ∧ s.strand.prevState? = none

/-- The socket of an upgraded connection is not cut off, and at its end it was sent a close
frame. -/
def EndsWithFrame (es : List (Bool × Event)) (v : UpgradedSession) : Prop :=
  (true, Event.socketClosed) ∉ es ∧
    (v.upgraded = true → v.session.Over → (true, Event.asyncClosed) ∈ es)

/-- The strand is at the guards of `do_close`. -/
def Strand.entersDoClose : Strand → Bool
  | .doClose _ => true
  | _ => false

/-- After the upgrade no shutdown begins before the client is authenticated, and the session is
not destroyed before a shutdown. -/
def ShutsDownAuthenticated (v : UpgradedSession) : Action → Prop
  | .resume => v.upgraded = true → v.session.strand.entersDoClose = true →
      v.session.closeInitiated = false → v.session.state ≠ .unauthenticated
  | .destroy => v.upgraded = true → v.session.state = .closed
  | _ => True

instance (v : UpgradedSession) : (a : Action) → Decidable (ShutsDownAuthenticated v a)
  | .resume | .destroy => inferInstanceAs (Decidable (_ → _))
  | .tick _ | .elapse | .timerError | .armDeadline | .startAccept | .onAccept _ | .onRead _
  | .onWrite _ | .doWrite | .closeLambda | .onDeadline _ _ | .handleMessage _ _ | .generated _
  | .emplaced _ | .rearm _ | .send _ | .postWrite | .close | .dispatchClose | .dropManager =>
      inferInstanceAs (Decidable True)

/-! ## The steps of a shutdown -/

@[simp] theorem After.prevState?_strand (after : After) : after.strand.prevState? = none := by
  cases after <;> rfl

@[simp] theorem Next.prevState?_strand (next : Next) : next.strand.prevState? = none := by
  cases next <;> rfl

/-- An event of the shutdown. -/
def Event.closesTransport : Event → Bool
  | .socketClosed | .asyncClosed => true
  | _ => false

/-- What a step means for the shutdown. -/
inductive ShutdownStep (s t : WebsocketSession) : Action → List Event → Prop
  | quiet {a : Action} {es : List Event} (hes : ∀ e ∈ es, e.closesTransport = false)
      (hprev : t.strand.prevState? = s.strand.prevState?)
      (hstate : t.state = .closed ↔ s.state = .closed) (hlive : t.destroyed = false) :
      ShutdownStep s t a es
  | begun {after : After} (hstrand : s.strand = .doClose after) (hfirst : s.closeInitiated = false)
      (hopen : s.state ≠ .closed) (hstate : t.state = .closed)
      (hprev : t.strand.prevState? = some s.state) (hlive : t.destroyed = false) :
      ShutdownStep s t .resume []
  | done {prevState : SessionState} (hprev : s.strand.prevState? = some prevState)
      (hover : t.strand.prevState? = none) (hstate : t.state = s.state)
      (hlive : t.destroyed = false) :
      ShutdownStep s t .resume
        [if prevState = .unauthenticated then .socketClosed else .asyncClosed]
  | destroyed {es : List Event} (hes : ∀ e ∈ es, e.closesTransport = false)
      (hidle : s.strand = .idle) (hstrand : t.strand = s.strand) (hstate : t.state = s.state)
      (hdestroyed : t.destroyed = true) : ShutdownStep s t .destroy es

section Steps

variable {lib : JsonLib} {s t : WebsocketSession} {a : Action} {es : List Event}

theorem closesTransport_unregisterEvents (sid : Text) :
    ∀ e ∈ s.unregisterEvents sid, e.closesTransport = false := by
  intro e he
  rw [(WebsocketSession.mem_unregisterEvents he).1]
  rfl

/-- Every step without a transport error is one of these. -/
theorem shutdownStep_of_step (control : ControlInv s) (h : (session lib).step s a es t)
    (herror : a.isTransportError = false) : ShutdownStep s t a es := by
  obtain ⟨hlive, htransition⟩ := transition_of_step h
  cases htransition with
  | acceptFailed | readFailed | writeFailed => cases herror
  | destroyed hrest hes =>
      refine .destroyed ?_ ?_ rfl rfl rfl
      · rw [hes]
        split
        · simp
        · exact closesTransport_unregisterEvents _
      · simp only [WebsocketSession.unreferenced, Bool.and_eq_true, beq_iff_eq] at hrest
        exact hrest.1.1.1.1.1.1.1.2
  | closeBegun hstrand hfirst hopen => exact .begun hstrand hfirst hopen rfl rfl hlive
  | shutdown hstrand he =>
      rw [he]
      exact .done (by rw [hstrand]; rfl) (After.prevState?_strand _) rfl hlive
  | closeUnregistered hstrand =>
      exact .quiet (closesTransport_unregisterEvents _) (by rw [hstrand]; rfl) Iff.rfl hlive
  | unregistered hstrand =>
      exact .quiet (closesTransport_unregisterEvents _) (by rw [hstrand]; rfl) Iff.rfl hlive
  | authenticated hstrand =>
      have hstate := control.unauthenticated (by rw [hstrand]; rfl)
      exact .quiet (by simp) (by rw [hstrand]; rfl) (by simp [hstate]) hlive
  | failing hmay =>
      refine .quiet (by simp) ?_ Iff.rfl hlive
      generalize s.strand = strand at hmay
      cases strand <;> first | rfl | exact hmay.elim
  | queuedStart hsends | queuedJoin hsends | sendRefused hsends =>
      refine .quiet (by simp [Event.closesTransport]) ?_ Iff.rfl hlive
      cases hsends with
      | error hstrand | response hstrand | reload hstrand =>
          rw [hstrand]
          rfl
  | posted hstrand =>
      exact .quiet (by simp) (by rw [hstrand, Next.prevState?_strand]; rfl) Iff.rfl hlive
  | closeClosed hstrand | checkBusy hstrand | closeSkipped hstrand =>
      exact .quiet (by simp) (by rw [hstrand, After.prevState?_strand]; rfl) Iff.rfl hlive
  | accepted hidle | readLimited hidle | readPassed hidle | lambdaBusy hidle | lambdaIdle hidle
  | writeTaken hidle | writtenClosing hidle | writtenMore hidle | timedOut hidle =>
      exact .quiet (by simp [Event.closesTransport]) (by simp [hidle, Strand.prevState?]) Iff.rfl
        hlive
  | actionAccepted hstrand | reloadAccepted hstrand | disconnecting hstrand | registering hstrand
  | generated hstrand | collided hstrand | registered hstrand | idStored hstrand
  | committed hstrand | guardStopped hstrand | rearmed hstrand | readStopped hstrand
  | reading hstrand | errorUnprinted hstrand | closeOpen hstrand | checkIdle hstrand
  | handed hstrand =>
      exact .quiet (by simp [Event.closesTransport]) (by rw [hstrand]; rfl) Iff.rfl hlive
  | _ => exact .quiet (by simp [Event.closesTransport]) rfl Iff.rfl hlive

/-- A shutdown that begins keeps the state it finds. -/
theorem prevState?_of_entersDoClose (h : (session lib).step s .resume es t)
    (henters : s.strand.entersDoClose = true) (hfirst : s.closeInitiated = false)
    (hopen : s.state ≠ .closed) : t.strand.prevState? = some s.state := by
  obtain ⟨after, hstrand⟩ : ∃ after, s.strand = .doClose after := by
    generalize s.strand = strand at henters
    cases strand <;> first | exact ⟨_, rfl⟩ | cases henters
  obtain ⟨r, hr, hnext⟩ := Option.map_eq_some_iff.mp h
  obtain ⟨rfl, rfl⟩ := Prod.mk.inj hnext
  simp only [WebsocketSession.step, WebsocketSession.resume, hstrand, WebsocketSession.doClose,
    hfirst, hopen, Bool.false_eq_true, if_false, Option.ite_none_left_eq_some,
    Option.some.injEq] at hr
  rw [← hr.2]
  rfl

theorem destroyed_of_destroy (h : (session lib).step s .destroy es t) :
    t.destroyed = true ∧ t.state = s.state := by
  obtain ⟨r, hr, hnext⟩ := Option.map_eq_some_iff.mp h
  obtain ⟨rfl, rfl⟩ := Prod.mk.inj hnext
  simp only [WebsocketSession.step, Option.ite_none_left_eq_some, Option.ite_none_right_eq_some,
    Option.some.injEq] at hr
  rw [← hr.2.2]
  exact ⟨rfl, rfl⟩

end Steps

/-! ## A shutdown happens once -/

/-- A shutdown runs in a closed session, and its last event ends it. -/
structure DoCloseInv (s : WebsocketSession) (es : List (Bool × Event)) : Prop where
  control : ControlInv s
  closed_of_prevState : ∀ p, s.strand.prevState? = some p → s.state = .closed
  over_of_mem : ∀ e ∈ es, e.2.closesTransport = true →
    s.state = .closed ∧ s.strand.prevState? = none

section Runs

variable {lib : JsonLib} {v w : UpgradedSession} {a : Action} {es es' : List (Bool × Event)}
  {es₀ : List Event}

theorem session_of_upgradedStep (h : (upgradedSession lib).step v a es w) :
    ∃ es', (session lib).step v.session a es' w.session ∧ es = es'.map (Prod.mk v.upgraded) ∧
      w.upgraded = (v.upgraded || a.upgrades v.session) := by
  obtain ⟨⟨t, es'⟩, hstep, hnext⟩ := Option.map_eq_some_iff.mp h
  obtain ⟨rfl, rfl⟩ := Prod.mk.inj hnext
  exact ⟨es', hstep, rfl, rfl⟩

theorem doCloseInv_construct (now handshakeTimeout : ℤ) :
    DoCloseInv (.construct now handshakeTimeout) [] where
  control := controlInv_construct now handshakeTimeout
  closed_of_prevState := by
    intro p hprev
    cases hprev
  over_of_mem := by simp

theorem DoCloseInv.step (inv : DoCloseInv v.session es) (h : (upgradedSession lib).step v a es' w)
    (herror : a.isTransportError = false) : DoCloseInv w.session (es ++ es') := by
  obtain ⟨es', hstep, rfl, -⟩ := session_of_upgradedStep h
  refine ⟨inv.control.step hstep, ?_, ?_⟩
  · intro p hp
    cases shutdownStep_of_step inv.control hstep herror with
    | quiet _ hprev hstate => exact hstate.mpr (inv.closed_of_prevState p (hprev ▸ hp))
    | begun _ _ _ hstate => exact hstate
    | done _ hover =>
        rw [hover] at hp
        cases hp
    | destroyed _ hidle hstrand =>
        rw [hstrand, hidle] at hp
        cases hp
  · intro e he hcloses
    cases shutdownStep_of_step inv.control hstep herror with
    | quiet hes hprev hstate =>
        rcases List.mem_append.mp he with he | he
        · obtain ⟨hclosed, hnone⟩ := inv.over_of_mem e he hcloses
          exact ⟨hstate.mpr hclosed, hprev.trans hnone⟩
        · obtain ⟨e, hmem, rfl⟩ := List.mem_map.mp he
          exact absurd hcloses (by simp [hes e hmem])
    | begun _ _ hopen =>
        rw [List.map_nil, List.append_nil] at he
        exact absurd (inv.over_of_mem e he hcloses).1 hopen
    | done hprev hover hstate =>
        exact ⟨hstate.trans (inv.closed_of_prevState _ hprev), hover⟩
    | destroyed hes hidle hstrand hstate =>
        rcases List.mem_append.mp he with he | he
        · obtain ⟨hclosed, hnone⟩ := inv.over_of_mem e he hcloses
          exact ⟨hstate.trans hclosed, hstrand ▸ hnone⟩
        · obtain ⟨e, hmem, rfl⟩ := List.mem_map.mp he
          exact absurd hcloses (by simp [hes e hmem])

/-- An upgrade does not happen in a shutdown. -/
theorem open_of_upgrades (inv : DoCloseInv v.session es)
    (h : (session lib).step v.session a es₀ w.session) (hupgrades : a.upgrades v.session = true) :
    w.session.state ≠ .closed ∧ w.session.strand.prevState? = none ∧
      w.session.destroyed = false := by
  obtain ⟨rfl, hopen⟩ : a = .onAccept none ∧ v.session.state ≠ .closed := by
    unfold Action.upgrades at hupgrades
    split at hupgrades
    · exact ⟨rfl, by simpa using hupgrades⟩
    · cases hupgrades
  cases shutdownStep_of_step inv.control h rfl with
  | quiet _ hprev hstate hlive =>
      refine ⟨fun hclosed => hopen (hstate.mp hclosed), ?_, hlive⟩
      rw [hprev, Option.eq_none_iff_forall_ne_some]
      exact fun p hp => hopen (inv.closed_of_prevState p hp)

/-! ## Runs that keep to the condition -/

/-- An upgraded session is not being cut off, and it is framed once it is shut down. -/
structure Framed (s : WebsocketSession) (es : List (Bool × Event)) : Prop where
  authenticated : s.strand.prevState? ≠ some .unauthenticated
  framed : s.state = .closed → s.strand.prevState? = none → (true, Event.asyncClosed) ∈ es
  closed_of_destroyed : s.destroyed = true → s.state = .closed

structure FramedInv (v : UpgradedSession) (es : List (Bool × Event)) : Prop where
  shutdown : DoCloseInv v.session es
  uncut : (true, Event.socketClosed) ∉ es
  framed : v.upgraded = true → Framed v.session es

theorem Framed.step {s t : WebsocketSession} (hframed : Framed s es) (h : ShutdownStep s t a es₀)
    (hbegins : a = .resume → s.strand.entersDoClose = true → s.closeInitiated = false →
      s.state ≠ .unauthenticated)
    (hdestroys : a = .destroy → s.state = .closed) :
    Event.socketClosed ∉ es₀ ∧ Framed t (es ++ es₀.map (Prod.mk true)) := by
  cases h with
  | quiet hes hprev hstate hlive =>
      refine ⟨fun hmem => absurd (hes _ hmem) (by decide), ?_, ?_, by simp [hlive]⟩
      · rw [hprev]
        exact hframed.authenticated
      · rw [hprev, hstate]
        intro hclosed hnone
        exact List.mem_append_left _ (hframed.framed hclosed hnone)
  | begun hstrand hfirst _ _ hprev hlive =>
      refine ⟨List.not_mem_nil, ?_, ?_, by simp [hlive]⟩
      · rw [hprev]
        intro hunauthenticated
        exact hbegins rfl (by rw [hstrand]; rfl) hfirst (Option.some.inj hunauthenticated)
      · rw [hprev]
        intro _ hnone
        cases hnone
  | @done prevState hprev hover _ hlive =>
      have hne : prevState ≠ .unauthenticated := by
        rintro rfl
        exact hframed.authenticated hprev
      rw [if_neg hne]
      refine ⟨by simp, ?_, ?_, by simp [hlive]⟩
      · rw [hover]
        simp
      · intro _ _
        exact List.mem_append_right _ (by simp)
  | destroyed hes hidle hstrand hstate =>
      refine ⟨fun hmem => absurd (hes _ hmem) (by decide), ?_, ?_, ?_⟩
      · rw [hstrand]
        exact hframed.authenticated
      · rw [hstrand, hstate]
        intro hclosed hnone
        exact List.mem_append_left _ (hframed.framed hclosed hnone)
      · rw [hstate]
        exact fun _ => hdestroys rfl

theorem framedInv_construct (now handshakeTimeout : ℤ) :
    FramedInv (.construct now handshakeTimeout) [] where
  shutdown := doCloseInv_construct now handshakeTimeout
  uncut := List.not_mem_nil
  framed := by
    intro hupgraded
    cases hupgraded

theorem FramedInv.step (inv : FramedInv v es) (h : (upgradedSession lib).step v a es' w)
    (herror : a.isTransportError = false) (hkeeps : ShutsDownAuthenticated v a) :
    FramedInv w (es ++ es') := by
  have hshutdown := inv.shutdown.step h herror
  obtain ⟨es₀, hstep, rfl, hw⟩ := session_of_upgradedStep h
  by_cases hv : v.upgraded = true
  · have hbegins : a = .resume → v.session.strand.entersDoClose = true →
        v.session.closeInitiated = false → v.session.state ≠ .unauthenticated := by
      rintro rfl
      exact hkeeps hv
    have hdestroys : a = .destroy → v.session.state = .closed := by
      rintro rfl
      exact hkeeps hv
    obtain ⟨huncut, hframed⟩ := (inv.framed hv).step
      (shutdownStep_of_step inv.shutdown.control hstep herror) hbegins hdestroys
    rw [hv] at hshutdown ⊢
    refine ⟨hshutdown, ?_, fun _ => hframed⟩
    rw [List.mem_append, not_or]
    exact ⟨inv.uncut, by simpa using huncut⟩
  · rw [Bool.not_eq_true] at hv
    refine ⟨hshutdown, ?_, ?_⟩
    · rw [List.mem_append, not_or]
      exact ⟨inv.uncut, by simp [hv]⟩
    · intro hwUpgraded
      rw [hw, hv, Bool.false_or] at hwUpgraded
      obtain ⟨hopen, hprev, hlive⟩ := open_of_upgrades inv.shutdown hstep hwUpgraded
      exact ⟨by simp [hprev], fun hclosed => absurd hclosed hopen, by simp [hlive]⟩

theorem FramedInv.endsWithFrame (inv : FramedInv v es) : EndsWithFrame es v := by
  refine ⟨inv.uncut, ?_⟩
  rintro hv (hdestroyed | ⟨hclosed, hnone⟩)
  · have hidle := inv.shutdown.control.idle_of_destroyed hdestroyed
    exact (inv.framed hv).framed ((inv.framed hv).closed_of_destroyed hdestroyed)
      (by rw [hidle]; rfl)
  · exact (inv.framed hv).framed hclosed hnone

/-! ## Runs that do not -/

/-- An upgraded session that was cut off or is being cut off, or that was destroyed without a
frame. -/
def Unframed (v : UpgradedSession) (es : List (Bool × Event)) : Prop :=
  (true, Event.socketClosed) ∈ es ∨ v.upgraded = true ∧
    (v.session.strand.prevState? = some .unauthenticated ∨
      v.session.destroyed = true ∧ (true, Event.asyncClosed) ∉ es)

theorem Unframed.step (hunframed : Unframed v es) (inv : DoCloseInv v.session es)
    (h : (upgradedSession lib).step v a es' w) (herror : a.isTransportError = false) :
    Unframed w (es ++ es') := by
  obtain ⟨es₀, hstep, rfl, hw⟩ := session_of_upgradedStep h
  rcases hunframed with hcut | ⟨hv, hprev | ⟨hdestroyed, -⟩⟩
  · exact .inl (List.mem_append_left _ hcut)
  · have hwUpgraded : w.upgraded = true := by rw [hw, hv, Bool.true_or]
    cases shutdownStep_of_step inv.control hstep herror with
    | quiet _ hprev' => exact .inr ⟨hwUpgraded, .inl (hprev'.trans hprev)⟩
    | begun hstrand =>
        rw [hstrand] at hprev
        cases hprev
    | done hprev' =>
        cases hprev'.symm.trans hprev
        exact .inl (List.mem_append_right _ (by simp [hv]))
    | destroyed _ hidle =>
        rw [hidle] at hprev
        cases hprev
  · exact absurd (transition_of_step hstep).1 (by simp [hdestroyed])

theorem unframed_of_leaves (inv : DoCloseInv v.session es)
    (h : (upgradedSession lib).step v a es' w) (herror : a.isTransportError = false)
    (hleaves : ¬ ShutsDownAuthenticated v a) : Unframed w (es ++ es') := by
  have hshutdown := inv.step h herror
  obtain ⟨es₀, hstep, rfl, hw⟩ := session_of_upgradedStep h
  cases a with
  | resume =>
      simp only [ShutsDownAuthenticated, Classical.not_imp, not_not] at hleaves
      obtain ⟨hv, henters, hfirst, hstate⟩ := hleaves
      have hprev := prevState?_of_entersDoClose hstep henters hfirst (by simp [hstate])
      exact .inr ⟨by rw [hw, hv, Bool.true_or], .inl (hprev.trans (by rw [hstate]))⟩
  | destroy =>
      simp only [ShutsDownAuthenticated, Classical.not_imp] at hleaves
      obtain ⟨hv, hopen⟩ := hleaves
      obtain ⟨hdestroyed, hstate⟩ := destroyed_of_destroy hstep
      refine .inr ⟨by rw [hw, hv, Bool.true_or], .inr ⟨hdestroyed, ?_⟩⟩
      -- a frame was sent by a shutdown, and the destructor does not store `state_`
      intro hmem
      exact hopen (hstate ▸ (hshutdown.over_of_mem _ hmem rfl).1)
  | _ => exact absurd trivial hleaves

theorem Unframed.never_ends (hunframed : Unframed v es) (control : ControlInv v.session)
    (hover : v.session.Over) : ¬ EndsWithFrame es v := by
  rintro ⟨huncut, hframed⟩
  rcases hunframed with hcut | ⟨hv, hprev | ⟨-, hnot⟩⟩
  · exact huncut hcut
  · rcases hover with hdestroyed | ⟨-, hnone⟩
    · rw [control.idle_of_destroyed hdestroyed] at hprev
      cases hprev
    · rw [hnone] at hprev
      cases hprev
  · exact hnot (hframed hv hover)

theorem doCloseInv_of_run {now handshakeTimeout : ℤ} {as : List Action}
    (run : (upgradedSession lib).Run (.construct now handshakeTimeout) as es v)
    (herrors : ∀ a ∈ as, a.isTransportError = false) : DoCloseInv v.session es :=
  (run.restrict_of_forall herrors).invariant (I := fun v es => DoCloseInv v.session es)
    (doCloseInv_construct _ _) fun _ _ _ _ _ inv h => inv.step h.2 h.1

theorem framedInv_of_run {now handshakeTimeout : ℤ} {as : List Action}
    (run : ((upgradedSession lib).restrict ShutsDownAuthenticated).Run
      (.construct now handshakeTimeout) as es v)
    (herrors : ∀ a ∈ as, a.isTransportError = false) : FramedInv v es :=
  (run.restrict_of_forall herrors).invariant (I := FramedInv) (framedInv_construct _ _)
    fun _ _ _ _ _ inv h => inv.step h.2.2 h.1 h.2.1

/-- What is unframed at the end of a run stays so. -/
theorem Unframed.run {as : List Action} (hunframed : Unframed v es)
    (inv : DoCloseInv v.session es) (run : (upgradedSession lib).Run v as es' w)
    (herrors : ∀ a ∈ as, a.isTransportError = false) : Unframed w (es ++ es') := by
  suffices h : DoCloseInv w.session (es ++ es') ∧ Unframed w (es ++ es') from h.2
  refine (run.restrict_of_forall herrors).invariant
    (I := fun w es' => DoCloseInv w.session (es ++ es') ∧ Unframed w (es ++ es')) ?_ ?_
  · rw [List.append_nil]
    exact ⟨inv, hunframed⟩
  · rintro es₁ t a es₂ u ⟨inv, hunframed⟩ ⟨herror, h⟩
    rw [← List.append_assoc]
    exact ⟨inv.step h herror, hunframed.step inv h herror⟩

end Runs

/-- Without transport errors, every upgraded connection that is at its end has ended with a
close frame exactly in those runs that keep to the condition. -/
theorem upgraded_closes_iff {lib : JsonLib} {now handshakeTimeout : ℤ} {as : List Action}
    {es : List (Bool × Event)} {v : UpgradedSession}
    (run : (upgradedSession lib).Run (.construct now handshakeTimeout) as es v)
    (herrors : ∀ a ∈ as, a.isTransportError = false) :
    (((upgradedSession lib).restrict ShutsDownAuthenticated).Run (.construct now handshakeTimeout)
        as es v → EndsWithFrame es v) ∧
      (v.session.Over → EndsWithFrame es v →
        ((upgradedSession lib).restrict ShutsDownAuthenticated).Run
          (.construct now handshakeTimeout) as es v) := by
  refine ⟨fun kept => (framedInv_of_run kept herrors).endsWithFrame, ?_⟩
  intro hover hends
  rcases run.restrict_or_leaves (C := ShutsDownAuthenticated) with kept |
    ⟨before, esBefore, mid, a, esStep, next, after, esAfter, kept, hleaves, hstep, rest, rfl, rfl⟩
  · exact kept
  · exfalso
    have hbefore := doCloseInv_of_run kept.of_restrict fun b hb => herrors b (by simp [hb])
    have herror := herrors a (by simp)
    have hunframed := (unframed_of_leaves hbefore hstep herror hleaves).run
      (hbefore.step hstep herror) rest fun b hb => herrors b (by simp [hb])
    rw [List.append_assoc] at hunframed
    exact hunframed.never_ends (doCloseInv_of_run run herrors).control hover hends

/-! ## A client that is authenticated, and one that is not -/

/-- A client is authenticated, and the server closes its session. -/
def framedActions : List Action :=
  connectActions (text "sess_a") ++ [.doWrite, .resume, .onWrite none, .close, .dispatchClose,
    .closeLambda, .resume, .resume, .resume]

def framedRun : UpgradedSession × List (Bool × Event) :=
  (Machine.exec
    (Machine.guarded ShutsDownAuthenticated (upgradedStep (.knowing [handshakeEnvelope])))
    (.construct 0 (seconds 10)) framedActions).get (by decide +kernel)

theorem upgraded_closes_iff_framedRun :
    framedRun.1.session.Over ∧ EndsWithFrame framedRun.2 framedRun.1 := by
  have kept : ((upgradedSession (.knowing [handshakeEnvelope])).restrict
      ShutsDownAuthenticated).Run (.construct 0 (seconds 10)) framedActions framedRun.2
      framedRun.1 := Machine.run_restrict_get _
  have hclosed : framedRun.1.session.Over := .inr (by decide +kernel)
  exact ⟨hclosed, (upgraded_closes_iff kept.of_restrict (by decide +kernel)).1 kept⟩

/-- A handshake of an earlier version is rejected, and the session is shut down once the error is
written. -/
def rejectedActions : List Action :=
  [.armDeadline, .startAccept, .onAccept none, .resume,
    .onRead (.message (outdatedEnvelope.print 4) (seconds 1) 10 10), .handleMessage 10000 10000,
    .resume, .resume, .resume, .resume, .rearm (seconds 86400), .doWrite, .resume, .onWrite none,
    .resume, .resume, .resume]

def rejectedRun : UpgradedSession × List (Bool × Event) :=
  (Machine.exec (upgradedStep (.knowing [outdatedEnvelope])) (.construct 0 (seconds 10))
    rejectedActions).get (by decide +kernel)

/-- Its socket is cut off, though the connection was upgraded. -/
theorem not_endsWithFrame :
    ¬ ∀ (lib : JsonLib) (now handshakeTimeout : ℤ) (as : List Action)
      (es : List (Bool × Event)) (v : UpgradedSession),
      (upgradedSession lib).Run (.construct now handshakeTimeout) as es v →
      (∀ a ∈ as, a.isTransportError = false) → EndsWithFrame es v := by
  intro hall
  have run : (upgradedSession (.knowing [outdatedEnvelope])).Run (.construct 0 (seconds 10))
      rejectedActions rejectedRun.2 rejectedRun.1 := Machine.run_get _
  exact absurd (hall _ _ _ _ _ _ run (by decide +kernel)).1 (by decide +kernel)

end CppSim.Server
