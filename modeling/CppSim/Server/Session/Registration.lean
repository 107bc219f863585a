import CppSim.Server.Session.Closing

/-!
# Registration of one session

Registering, storing the id, sending the response and becoming authenticated are four
steps of one handler, and a close may be requested between any two.  `Registration`
follows a session through them.

* Before the insertion the session has no id and is not authenticated.
* Between the insertion and the store of the id the strand holds the id.
* From then on the session holds the id it was registered under.  While it is not
  authenticated it is either still in the handshake or about to close, and reads no
  further message; so it never registers again.

`Unregistration` adds where the entry is removed: never before the session is closed or
destroyed, and at the latest when the handler that closes it ends.
-/

namespace CppSim.Server

section Registration

variable {lib : JsonLib} {now handshakeTimeout : ℤ} {s t : WebsocketSession} {a : Action}
  {as : List Action} {es fs : List Event}

/-- The ids a session was registered under. -/
def registrations (es : List Event) : List Text :=
  es.filterMap fun | .registered sid => some sid | _ => none

theorem registrations_append : registrations (es ++ fs) = registrations es ++ registrations fs :=
  List.filterMap_append

theorem mem_registrations {sid : Text} : sid ∈ registrations es ↔ .registered sid ∈ es := by
  simp only [registrations, List.mem_filterMap]
  constructor
  · rintro ⟨e, hmem, he⟩
    cases e <;> simp at he
    exact he ▸ hmem
  · exact fun hmem => ⟨_, hmem, rfl⟩

theorem registrations_unregisterEvents (sid : Text) : registrations (s.unregisterEvents sid) = [] :=
  WebsocketSession.filterMap_unregisterEvents (fun _ => rfl) sid

/-! ## The stages -/

/-- Where the strand is before a registration. -/
def Strand.unregistered : Strand → Prop
  | .storeId _ | .sendResponse _ | .authenticate _ | .post (.authenticate _) | .unregister _ => False
  | .insert _ newSessionId => newSessionId ≠ []
  | _ => True

/-- The session is registered under `sid`, and holds the id unless it is about to store it. -/
def Strand.carries (sid sessionId : Text) : Strand → Prop
  | .storeId newSessionId => newSessionId = sid ∧ sessionId = []
  | .unregister sid' => sid' = sid ∧ sessionId = sid
  | _ => sessionId = sid

/-- Where the strand of a registered session is that is not authenticated: still in the
handshake, about to request a close, or anywhere but in a message handler once the close
is requested. -/
def Strand.leaving (closeRequested : Bool) : Strand → Prop
  | .storeId _ | .sendResponse _ | .authenticate _ | .post (.authenticate _) | .post (.close _)
  | .sendError _ _ _ | .close _ => True
  | .checkBurst _ | .generate _ | .insert _ _ | .sendReload _ _ | .commitReload _
  | .post (.commit _) | .doRead => False
  | _ => closeRequested = true

@[simp] theorem After.unregistered_strand (after : After) : after.strand.unregistered := by
  cases after <;> exact trivial

@[simp] theorem After.carries_strand (after : After) (sid sessionId : Text) :
    after.strand.carries sid sessionId ↔ sessionId = sid := by
  cases after <;> rfl

theorem After.leaving_strand (after : After) : after.strand.leaving true := by
  cases after <;> rfl

/-- The stages of a registration. -/
inductive Registration (s : WebsocketSession) (es : List Event) : Prop
  | fresh (hregs : registrations es = []) (hsid : s.sessionId = [])
      (hstate : s.state ≠ .authenticated) (hstrand : s.strand.unregistered)
  | held {sid : Text} (hregs : registrations es = [sid]) (hne : sid ≠ [])
      (hsid : s.strand.carries sid s.sessionId)
      (hupgraded : s.accepts = 0 ∧ s.runPhase = .returned)
      (hleaving : s.state = .unauthenticated →
        s.reads = 0 ∧ s.strand.leaving s.closeRequested)

theorem registration_construct : Registration (.construct now handshakeTimeout) [] :=
  .fresh rfl rfl (by simp [WebsocketSession.construct]) trivial

/-- A step before the registration that does not register. -/
private theorem Registration.of_fresh (hregs : registrations es = []) (hnone : registrations fs = [])
    (hsid : t.sessionId = []) (hstate : t.state ≠ .authenticated)
    (hstrand : t.strand.unregistered) : Registration t (es ++ fs) :=
  .fresh (by rw [registrations_append, hregs, hnone]; rfl) hsid hstate hstrand

/-- A session that inserts itself reads and accepts nothing else. -/
theorem ControlInv.chain_of_reading (control : ControlInv s) (hreading : s.strand.reading = 1) :
    s.accepts = 0 ∧ s.reads = 0 ∧ s.runPhase = .returned := by
  have hone := control.readers_le
  unfold WebsocketSession.readers at hone
  rw [hreading] at hone
  split at hone
  · exact ⟨by omega, by omega, ‹_›⟩
  · omega

private theorem Registration.step_of_fresh (h : Transition lib s a fs t) (control : ControlInv s)
    (hregs : registrations es = []) (hsid : s.sessionId = []) (hstate : s.state ≠ .authenticated)
    (hfresh : s.strand.unregistered) : Registration t (es ++ fs) := by
  cases h with
  | registered hstrand =>
      have hchain := control.chain_of_reading (by rw [hstrand]; rfl)
      rw [hstrand] at hfresh
      exact .held (by rw [registrations_append, hregs]; rfl) hfresh ⟨rfl, hsid⟩
        ⟨hchain.1, hchain.2.2⟩ fun _ => ⟨hchain.2.1, trivial⟩
  | idStored hstrand | authenticated hstrand | unregistered hstrand =>
      rw [hstrand] at hfresh
      exact hfresh.elim
  | generated hstrand hne => exact .of_fresh hregs rfl hsid hstate hne
  | queuedStart hsends =>
      cases hsends with
      | response hstrand =>
          rw [hstrand] at hfresh
          exact hfresh.elim
      | error | reload => exact .of_fresh hregs rfl hsid hstate trivial
  | queuedJoin hsends =>
      cases hsends with
      | response hstrand =>
          rw [hstrand] at hfresh
          exact hfresh.elim
      | error | reload => exact .of_fresh hregs rfl hsid hstate trivial
  | sendRefused hsends =>
      refine .of_fresh hregs rfl hsid hstate ?_
      cases hsends <;> exact trivial
  | posted hstrand =>
      refine .of_fresh hregs rfl hsid hstate ?_
      rename_i next
      rw [hstrand] at hfresh
      cases next with
      | authenticate => exact hfresh.elim
      | close | commit | leave => exact trivial
  | readFailed =>
      refine .of_fresh hregs rfl hsid (by simp) ?_
      rw [if_pos hsid]
      exact trivial
  | acceptFailed => exact .of_fresh hregs rfl hsid (by simp) hfresh
  | closeBegun => exact .of_fresh hregs rfl hsid (by simp) trivial
  | closeUnregistered =>
      exact .of_fresh hregs (registrations_unregisterEvents _) hsid hstate trivial
  | destroyed _ hes =>
      refine .of_fresh hregs ?_ hsid hstate hfresh
      rw [hes]
      split
      · rfl
      · exact registrations_unregisterEvents _
  | shutdown _ he =>
      refine .of_fresh hregs ?_ hsid hstate (After.unregistered_strand _)
      rw [he]
      split <;> rfl
  | closeClosed | checkBusy | closeSkipped =>
      exact .of_fresh hregs rfl hsid hstate (After.unregistered_strand _)
  | tick | elapsed | timerFailed | managerDropped | deadlineStopped | deadlineRewaited
  | callerStart | callerJoin | callerRefused | callerPosted | closeCalled | closeForgotten
  | closeDispatched | writeAbandoned | writtenLast | armed | accepting | acceptDropped
  | readDropped => exact .of_fresh hregs rfl hsid hstate hfresh
  | _ => exact .of_fresh hregs rfl hsid hstate trivial

/-- A step of a registered session, which does not register again. -/
private theorem Registration.of_held {sid : Text} (hregs : registrations es = [sid])
    (hnone : registrations fs = []) (hne : sid ≠ []) (hsid : t.strand.carries sid t.sessionId)
    (hupgraded : t.accepts = 0 ∧ t.runPhase = .returned)
    (hleaving : t.state = .unauthenticated → t.reads = 0 ∧ t.strand.leaving t.closeRequested) :
    Registration t (es ++ fs) :=
  .held (by rw [registrations_append, hregs, hnone]; rfl) hne hsid hupgraded hleaving

theorem Strand.leaving_true {closeRequested : Bool} {strand : Strand}
    (h : strand.leaving closeRequested) : strand.leaving true := by
  cases strand with
  | post next => cases next <;> first | exact trivial | exact h.elim | rfl
  | _ => first | exact trivial | exact h.elim | rfl

theorem Strand.carries_of_mayFail {strand : Strand} {sid sessionId : Text} (h : strand.mayFail)
    (hsid : strand.carries sid sessionId) : sessionId = sid := by
  cases strand <;> first | exact hsid | exact h.elim

private theorem Registration.step_of_held {sid : Text} (h : Transition lib s a fs t)
    (control : ControlInv s) (hregs : registrations es = [sid]) (hne : sid ≠ [])
    (hsid : s.strand.carries sid s.sessionId) (hupgraded : s.accepts = 0 ∧ s.runPhase = .returned)
    (hleaving : s.state = .unauthenticated → s.reads = 0 ∧ s.strand.leaving s.closeRequested) :
    Registration t (es ++ fs) := by
  cases h with
  | armed hphase | accepting hphase =>
      rw [hupgraded.2] at hphase
      cases hphase
  | acceptDropped _ haccepts | acceptFailed _ haccepts | accepted _ haccepts =>
      rw [hupgraded.1] at haccepts
      cases haccepts
  -- the message handlers: the session is authenticated, or it would not have read
  | readDropped _ _ hclosed =>
      refine .of_held hregs rfl hne hsid hupgraded fun hstate => ?_
      rw [hclosed] at hstate
      cases hstate
  | readFailed hidle _ hopen =>
      rw [hidle] at hsid
      refine .of_held hregs rfl hne ?_ hupgraded fun hstate => ?_
      · rw [if_neg (by rw [hsid]; exact hne)]
        exact ⟨hsid, hsid⟩
      · cases hstate
  | readLimited hidle hreads | readPassed hidle hreads =>
      rw [hidle] at hsid
      refine .of_held hregs rfl hne hsid hupgraded fun hstate => ?_
      rw [(hleaving hstate).1] at hreads
      cases hreads
  | failing hmay =>
      exact .of_held hregs rfl hne (Strand.carries_of_mayFail hmay hsid) hupgraded
        fun hstate => ⟨(hleaving hstate).1, trivial⟩
  | actionAccepted hstrand | reloadAccepted hstrand | disconnecting hstrand
  | committed hstrand | reading hstrand | readStopped hstrand =>
      rw [hstrand] at hsid hleaving
      exact .of_held hregs rfl hne hsid hupgraded fun hstate => (hleaving hstate).2.elim
  -- an unauthenticated session that holds an id is leaving, so it registers no other
  | registering hstrand _ hverdict =>
      rw [hstrand] at hleaving
      exact (hleaving (WebsocketSession.state_of_register hverdict)).2.elim
  | generated hstrand | collided hstrand | registered hstrand =>
      have hstate := control.unauthenticated (by rw [hstrand]; rfl)
      rw [hstrand] at hleaving
      exact (hleaving hstate).2.elim
  | idStored hstrand =>
      rw [hstrand] at hsid
      exact .of_held hregs rfl hne hsid.1 hupgraded fun hstate => ⟨(hleaving hstate).1, trivial⟩
  | authenticated hstrand =>
      rw [hstrand] at hsid
      exact .of_held hregs rfl hne hsid hupgraded fun hstate => by cases hstate
  | rearmed hstrand hopen =>
      rw [hstrand] at hsid hleaving
      refine .of_held hregs rfl hne hsid hupgraded fun hstate => ?_
      rw [WebsocketSession.isClosing_of_closeRequested (hleaving hstate).2] at hopen
      cases hopen
  -- sending and closing
  | queuedStart hsends | queuedJoin hsends | sendRefused hsends =>
      cases hsends with
      | error hstrand | response hstrand =>
          rw [hstrand] at hsid
          exact .of_held hregs rfl hne hsid hupgraded fun hstate => ⟨(hleaving hstate).1, trivial⟩
      | reload hstrand =>
          rw [hstrand] at hsid hleaving
          exact .of_held hregs rfl hne hsid hupgraded fun hstate => (hleaving hstate).2.elim
  | posted hstrand =>
      rename_i next
      rw [hstrand] at hsid hleaving
      cases next with
      | close | authenticate | leave => exact .of_held hregs rfl hne hsid hupgraded hleaving
      | commit =>
          exact .of_held hregs rfl hne hsid hupgraded fun hstate => (hleaving hstate).2.elim
  | errorUnprinted hstrand =>
      rw [hstrand] at hsid
      exact .of_held hregs rfl hne hsid hupgraded fun hstate => ⟨(hleaving hstate).1, trivial⟩
  | closeOpen hstrand =>
      rw [hstrand] at hsid
      exact .of_held hregs rfl hne hsid hupgraded fun hstate => ⟨(hleaving hstate).1, rfl⟩
  | closeClosed hstrand hclosed =>
      rw [hstrand] at hsid
      refine .of_held hregs rfl hne ((After.carries_strand _ _ _).mpr hsid) hupgraded
        fun hstate => ?_
      rw [hclosed] at hstate
      cases hstate
  | checkBusy hstrand | closeSkipped hstrand =>
      rw [hstrand] at hsid hleaving
      refine .of_held hregs rfl hne ((After.carries_strand _ _ _).mpr hsid) hupgraded
        fun hstate => ⟨(hleaving hstate).1, ?_⟩
      rw [show s.closeRequested = true from (hleaving hstate).2]
      exact After.leaving_strand _
  | shutdown hstrand he =>
      rw [hstrand] at hsid hleaving
      refine .of_held hregs ?_ hne ((After.carries_strand _ _ _).mpr hsid) hupgraded
        fun hstate => ⟨(hleaving hstate).1, ?_⟩
      · rw [he]
        split <;> rfl
      · rw [show s.closeRequested = true from (hleaving hstate).2]
        exact After.leaving_strand _
  | closeBegun hstrand =>
      rw [hstrand] at hsid
      exact .of_held hregs rfl hne hsid hupgraded fun hstate => by cases hstate
  | closeUnregistered hstrand =>
      rw [hstrand] at hsid hleaving
      exact .of_held hregs (registrations_unregisterEvents _) hne hsid hupgraded hleaving
  | unregistered hstrand =>
      rw [hstrand] at hsid hleaving
      exact .of_held hregs (registrations_unregisterEvents _) hne hsid.2 hupgraded hleaving
  -- what is left concerns neither the id nor the reader
  | destroyed _ hes =>
      refine .of_held hregs ?_ hne hsid hupgraded hleaving
      rw [hes]
      split
      · rfl
      · exact registrations_unregisterEvents _
  | closeCalled =>
      exact .of_held hregs rfl hne hsid hupgraded
        fun hstate => ⟨(hleaving hstate).1, Strand.leaving_true (hleaving hstate).2⟩
  | guardStopped hstrand | checkIdle hstrand | handed hstrand =>
      rw [hstrand] at hsid hleaving
      exact .of_held hregs rfl hne hsid hupgraded hleaving
  | lambdaBusy hidle | lambdaIdle hidle | writeTaken hidle | writtenClosing hidle
  | writtenMore hidle =>
      rw [hidle] at hsid hleaving
      exact .of_held hregs rfl hne hsid hupgraded hleaving
  | writeFailed hidle =>
      rw [hidle] at hsid
      exact .of_held hregs rfl hne hsid hupgraded fun hstate => ⟨(hleaving hstate).1, rfl⟩
  | timedOut hidle =>
      rw [hidle] at hsid
      exact .of_held hregs rfl hne hsid hupgraded fun hstate => ⟨(hleaving hstate).1, trivial⟩
  | _ => exact .of_held hregs rfl hne hsid hupgraded hleaving

theorem Registration.step (h : Transition lib s a fs t) (control : ControlInv s)
    (inv : Registration s es) : Registration t (es ++ fs) := by
  cases inv with
  | fresh hregs hsid hstate hstrand => exact step_of_fresh h control hregs hsid hstate hstrand
  | held hregs hne hsid hupgraded hleaving =>
      exact step_of_held h control hregs hne hsid hupgraded hleaving

theorem registration_of_run (run : SessionRun lib now handshakeTimeout as es s) :
    Registration s es := by
  refine (run.invariant (I := fun s es => ControlInv s ∧ Registration s es)
    ⟨controlInv_construct _ _, registration_construct⟩ ?_).2
  intro es t a fs u ⟨control, inv⟩ hstep
  exact ⟨control.step hstep, inv.step (transition_of_step hstep).2 control⟩

/-! ## Unregistering -/

/-- The entry is removed by the session itself, once it has ended, and not later than at
the end of the handler that ends it. -/
structure Unregistration (s : WebsocketSession) (es : List Event) : Prop where
  mine : ∀ sid, .unregister sid ∈ es → registrations es = [sid] ∧ s.ended = true
  due : s.managerAlive = true → s.ended = true → s.strand.unregistering = 0 →
    ∀ sid, registrations es = [sid] → .unregister sid ∈ es

theorem WebsocketSession.unregister_mem {sid : Text} (halive : s.managerAlive = true)
    (hne : sid ≠ []) : .unregister sid ∈ s.unregisterEvents sid := by
  simp [unregisterEvents, halive, hne]

/-- No step reopens a session. -/
theorem Transition.ended_mono (h : Transition lib s a fs t) (control : ControlInv s)
    (hended : s.ended = true) : t.ended = true := by
  cases h with
  | authenticated hstrand =>
      have hstate := control.unauthenticated (by rw [hstrand]; rfl)
      simpa [WebsocketSession.ended, hstate] using hended
  | readFailed | acceptFailed | closeBegun | destroyed => simp [WebsocketSession.ended]
  | _ => exact hended

/-- Where `unregister_session` is called. -/
theorem Transition.of_unregister (h : Transition lib s a fs t) {sid : Text}
    (he : .unregister sid ∈ fs) :
    sid ≠ [] ∧ (s.strand = .unregister sid ∨
      s.sessionId = sid ∧ ((∃ prevState after, s.strand = .doCloseUnregister prevState after) ∨
        s.strand = .idle ∧ t.destroyed = true)) := by
  cases h with
  | unregistered hstrand =>
      obtain ⟨heq, hne, _⟩ := WebsocketSession.mem_unregisterEvents he
      cases heq
      exact ⟨hne, .inl hstrand⟩
  | closeUnregistered hstrand =>
      obtain ⟨heq, hne, _⟩ := WebsocketSession.mem_unregisterEvents he
      cases heq
      exact ⟨hne, .inr ⟨rfl, .inl ⟨_, _, hstrand⟩⟩⟩
  | destroyed hrest hes =>
      rw [hes] at he
      split at he
      · cases he
      · obtain ⟨heq, hne, _⟩ := WebsocketSession.mem_unregisterEvents he
        cases heq
        simp only [WebsocketSession.unreferenced, Bool.and_eq_true, beq_iff_eq] at hrest
        exact ⟨hne, .inr ⟨rfl, .inr ⟨hrest.1.1.1.1.1.1.1.2, rfl⟩⟩⟩
  | shutdown _ hshutdown =>
      rw [List.mem_singleton, hshutdown] at he
      split at he <;> cases he
  | _ => simp at he

/-- A call that is due stays due until it is made. -/
theorem Transition.unregistering (h : Transition lib s a fs t) :
    s.strand.unregistering ≤ t.strand.unregistering ∨
      (∃ prevState after, s.strand = .doCloseUnregister prevState after) ∧
        fs = s.unregisterEvents s.sessionId ∨
      ∃ sid, s.strand = .unregister sid ∧ fs = s.unregisterEvents sid := by
  cases h with
  | closeUnregistered hstrand => exact .inr (.inl ⟨⟨_, _, hstrand⟩, rfl⟩)
  | unregistered hstrand => exact .inr (.inr ⟨_, hstrand, rfl⟩)
  | tick | elapsed | timerFailed | managerDropped | destroyed | deadlineStopped
  | deadlineRewaited | callerStart | callerJoin | callerRefused | callerPosted | closeCalled
  | closeForgotten | closeDispatched | writeAbandoned | writtenLast | armed | accepting
  | acceptDropped | acceptFailed | readDropped => exact .inl le_rfl
  | queuedStart hsends | queuedJoin hsends | sendRefused hsends =>
      cases hsends with
      | error hstrand | response hstrand | reload hstrand =>
          exact .inl (by rw [hstrand]; exact Nat.zero_le _)
  | failing hmay =>
      refine .inl ?_
      revert hmay
      cases s.strand <;> simp [Strand.mayFail, Strand.unregistering]
  | accepted hidle | readFailed hidle | readLimited hidle | readPassed hidle | lambdaBusy hidle
  | lambdaIdle hidle | writeTaken hidle | writeFailed hidle | writtenClosing hidle
  | writtenMore hidle | timedOut hidle => exact .inl (by simp [hidle, Strand.unregistering])
  | actionAccepted hstrand | reloadAccepted hstrand | disconnecting hstrand
  | registering hstrand | generated hstrand | collided hstrand | registered hstrand
  | idStored hstrand | authenticated hstrand | committed hstrand | guardStopped hstrand
  | rearmed hstrand | readStopped hstrand | reading hstrand | errorUnprinted hstrand
  | posted hstrand | closeClosed hstrand | closeOpen hstrand | checkBusy hstrand
  | checkIdle hstrand | closeSkipped hstrand | closeBegun hstrand | shutdown hstrand
  | handed hstrand => exact .inl (by rw [hstrand]; exact Nat.zero_le _)

/-- A session registers once. -/
theorem Registration.length_le (inv : Registration s es) : (registrations es).length ≤ 1 := by
  cases inv with
  | fresh hregs | held hregs => rw [hregs]; simp

theorem Registration.registrations_of_append {sid : Text} (inv : Registration t (es ++ fs))
    (hregs : registrations es = [sid]) : registrations (es ++ fs) = [sid] := by
  have hone := inv.length_le
  rw [registrations_append, hregs] at hone ⊢
  simpa using hone

/-- The id that a call of `unregister_session` names is the session's. -/
theorem Registration.registrations_of_unregister {sid : Text} (inv : Registration s es)
    (h : Transition lib s a fs t) (he : .unregister sid ∈ fs) : registrations es = [sid] := by
  obtain ⟨hne, hplace⟩ := h.of_unregister he
  cases inv with
  | fresh _ hsid _ hstrand =>
      rcases hplace with hplace | ⟨heq, _⟩
      · rw [hplace] at hstrand
        exact hstrand.elim
      · exact absurd (heq.symm.trans hsid) hne
  | held hregs _ hsid =>
      rw [hregs]
      rcases hplace with hplace | ⟨heq, ⟨_, _, hplace⟩ | ⟨hplace, _⟩⟩ <;> rw [hplace] at hsid
      · rw [hsid.1]
      · rw [← heq, show s.sessionId = _ from hsid]
      · rw [← heq, show s.sessionId = _ from hsid]

/-- Only an insertion registers. -/
theorem Transition.of_registered {sid : Text} (h : Transition lib s a fs t)
    (hmem : .registered sid ∈ fs) : ∃ attempt count, s.strand = .insert attempt sid ∧
      a = .emplaced (.success count) ∧ t = { s with strand := .storeId sid } := by
  cases h with
  | registered hstrand =>
      cases List.mem_singleton.mp hmem
      exact ⟨_, _, hstrand, rfl, rfl⟩
  | destroyed _ hes =>
      rw [hes] at hmem
      split at hmem
      · cases hmem
      · cases (WebsocketSession.mem_unregisterEvents hmem).1
  | closeUnregistered | unregistered => cases (WebsocketSession.mem_unregisterEvents hmem).1
  | shutdown _ hshutdown =>
      rw [List.mem_singleton, hshutdown] at hmem
      split at hmem <;> cases hmem
  | _ => simp at hmem

/-- A session that registers has not ended. -/
theorem Transition.ended_of_registered {sid : Text} (h : Transition lib s a fs t)
    (hlive : s.destroyed = false) (control : ControlInv s) (hmem : .registered sid ∈ fs) :
    t.ended = false := by
  obtain ⟨_, _, hstrand, _, rfl⟩ := h.of_registered hmem
  have hopen := control.unauthenticated (by rw [hstrand]; rfl)
  simp [WebsocketSession.ended, hopen, hlive]

/-- The step that ends a registered session calls `unregister_session` or leaves the call
due. -/
theorem Transition.unregister_of_ended {sid : Text} (h : Transition lib s a fs t)
    (hlive : s.destroyed = false) (halive : s.managerAlive = true) (hne : sid ≠ [])
    (hsid : s.strand.carries sid s.sessionId) (hupgraded : s.accepts = 0)
    (hbefore : s.ended = false) (hended : t.ended = true) (hdone : t.strand.unregistering = 0) :
    .unregister sid ∈ fs := by
  cases h with
  | acceptFailed _ haccepts =>
      rw [hupgraded] at haccepts
      cases haccepts
  | readFailed hidle =>
      rw [hidle] at hsid
      dsimp only at hdone
      rw [if_neg (by rw [show s.sessionId = sid from hsid]; exact hne)] at hdone
      cases hdone
  | closeBegun => cases hdone
  | destroyed hrest hes =>
      simp only [WebsocketSession.unreferenced, Bool.and_eq_true, beq_iff_eq] at hrest
      rw [hrest.1.1.1.1.1.1.1.2] at hsid
      rw [hes, if_neg (by intro hclosed; simp [WebsocketSession.ended, hclosed] at hbefore),
        show s.sessionId = sid from hsid]
      exact WebsocketSession.unregister_mem halive hne
  | authenticated => simp [WebsocketSession.ended, hlive] at hended
  | _ => exact absurd (hbefore.symm.trans hended) Bool.false_ne_true

private theorem Unregistration.due_step (h : Transition lib s a fs t) (hlive : s.destroyed = false)
    (control : ControlInv s) (registration : Registration s es) (inv : Unregistration s es)
    (halive : t.managerAlive = true) (hended : t.ended = true)
    (hdone : t.strand.unregistering = 0) {sid : Text} (hregs : registrations (es ++ fs) = [sid]) :
    .unregister sid ∈ es ++ fs := by
  have halive' : s.managerAlive = true := by
    cases h with
    | managerDropped => cases halive
    | _ => exact halive
  rw [registrations_append] at hregs
  cases registration with
  | fresh hnone =>
      rw [hnone, List.nil_append] at hregs
      have hmem : .registered sid ∈ fs := mem_registrations.mp (by rw [hregs]; simp)
      rw [h.ended_of_registered hlive control hmem] at hended
      cases hended
  | @held sid' hone hne hsid hupgraded =>
      have hsame : sid' = sid := by
        rw [hone] at hregs
        exact (List.cons.inj hregs).1
      subst hsame
      cases hbefore : s.ended with
      | false =>
          exact List.mem_append_right _
            (h.unregister_of_ended hlive halive' hne hsid hupgraded.1 hbefore hended hdone)
      | true =>
          rcases h.unregistering with hle | ⟨⟨_, _, hstrand⟩, rfl⟩ | ⟨_, hstrand, rfl⟩
          · exact List.mem_append_left _ (inv.due halive' hbefore (by omega) _ hone)
          · rw [hstrand] at hsid
            rw [show s.sessionId = sid' from hsid]
            exact List.mem_append_right _ (WebsocketSession.unregister_mem halive' hne)
          · rw [hstrand] at hsid
            rw [hsid.1]
            exact List.mem_append_right _ (WebsocketSession.unregister_mem halive' hne)

theorem UnregisterInv.ended_of_unregistering (calls : UnregisterInv s es)
    (hpos : 0 < s.strand.unregistering) : s.ended = true := by
  unfold UnregisterInv at calls
  cases hended : s.ended with
  | true => rfl
  | false =>
      rw [hended, Bool.toNat_false] at calls
      omega

/-- The id that a session holds is the one it was registered under. -/
theorem Registration.registrations_of_sessionId (inv : Registration s es) (hne : s.sessionId ≠ []) :
    registrations es = [s.sessionId] := by
  cases inv with
  | fresh _ hsid => exact absurd hsid hne
  | held hregs _ hsid =>
      rw [hregs]
      revert hsid
      cases s.strand <;> rintro hsid
      case storeId => exact absurd hsid.2 hne
      case unregister => rw [hsid.2]
      all_goals exact congrArg (fun sid => [sid]) (Eq.symm hsid)

/-- A registered session at rest holds its id. -/
theorem Registration.sessionId_of_idle {sid : Text} (inv : Registration s es)
    (hidle : s.strand = .idle) (hmem : .registered sid ∈ es) :
    registrations es = [sid] ∧ s.sessionId = sid := by
  rw [← mem_registrations] at hmem
  cases inv with
  | fresh hregs =>
      rw [hregs] at hmem
      cases hmem
  | held hregs _ hsid =>
      rw [hregs, List.mem_singleton] at hmem
      subst hmem
      rw [hidle] at hsid
      exact ⟨hregs, hsid⟩

/-- An authenticated session holds an id. -/
theorem Registration.sessionId_ne_nil (inv : Registration s es) (hidle : s.strand = .idle)
    (hstate : s.state = .authenticated) : s.sessionId ≠ [] := by
  cases inv with
  | fresh _ _ hopen => exact absurd hstate hopen
  | held _ hne hsid =>
      rw [hidle] at hsid
      rw [show s.sessionId = _ from hsid]
      exact hne

theorem Unregistration.step (h : Transition lib s a fs t) (hlive : s.destroyed = false)
    (control : ControlInv s) (calls : UnregisterInv s es) (registration : Registration s es)
    (inv : Unregistration s es) : Unregistration t (es ++ fs) := by
  have registration' := registration.step h control
  refine ⟨fun sid hmem => ?_, fun halive hended hdone sid hregs =>
    inv.due_step h hlive control registration halive hended hdone hregs⟩
  rcases List.mem_append.mp hmem with hold | hnew
  · obtain ⟨hregs, hended⟩ := inv.mine sid hold
    exact ⟨registration'.registrations_of_append hregs, h.ended_mono control hended⟩
  · refine ⟨registration'.registrations_of_append
      (registration.registrations_of_unregister h hnew), ?_⟩
    rcases (h.of_unregister hnew).2 with hplace | ⟨_, ⟨_, _, hplace⟩ | ⟨_, hdestroyed⟩⟩
    · exact h.ended_mono control
        (calls.ended_of_unregistering (by rw [hplace]; exact Nat.one_pos))
    · exact h.ended_mono control
        (calls.ended_of_unregistering (by rw [hplace]; exact Nat.one_pos))
    · simp [WebsocketSession.ended, hdestroyed]

/-- The invariants of one session's registration. -/
theorem unregistration_of_run (run : SessionRun lib now handshakeTimeout as es s) :
    Unregistration s es := by
  refine (run.invariant (I := fun s es =>
    (ControlInv s ∧ UnregisterInv s es) ∧ Registration s es ∧ Unregistration s es)
    ⟨⟨controlInv_construct _ _, unregisterInv_construct⟩,
      registration_construct, ⟨by simp, fun _ _ _ _ hregs => by cases hregs⟩⟩ ?_).2.2
  intro es t a fs u ⟨⟨control, calls⟩, registration, inv⟩ hstep
  obtain ⟨hlive, htransition⟩ := transition_of_step hstep
  exact ⟨⟨control.step hstep, calls.step htransition hlive control⟩,
    registration.step htransition control, inv.step htransition hlive control calls registration⟩

end Registration

end CppSim.Server
