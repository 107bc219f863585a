import CppSim.Server.Session.Replay

/-!
# What still happens after a close was requested

`close` sets a flag, and the session goes on until the pending write is over.
`on_accept`, `do_read` and `queue_message` look at the flag; `on_read` does not, so a
message read in the meantime is handled.  Most of it comes to nothing, since no reply
can be queued.  Two things do not depend on a reply: an ACTION is accepted, and a
HANDSHAKE registers the session.

`FinalInv.step` says that these are the only two: after a requested close the session's sequence
number, stack, id and registration stay what they are if no acceptable action is handled and the
registry does not let the session in.  `Final.harmless` is the converse.
-/

namespace CppSim.Server

open Protocol

section Finality

variable {lib : JsonLib} {s t u : WebsocketSession} {a : Action} {as : List Action}
  {es fs : List Event}

/-- What a run from `s` to `t` with the events `fs` leaves as it was: the sequence number,
the stack, the id and the registry, but for the removal of the session's own entry. -/
structure Final (s : WebsocketSession) (fs : List Event) (t : WebsocketSession) : Prop where
  lastSequenceNumber : t.lastSequenceNumber = s.lastSequenceNumber
  currentStack : t.currentStack = s.currentStack
  sessionId : t.sessionId = s.sessionId
  unregistered : ∀ sid, .registered sid ∉ fs
  own : ∀ sid, .unregister sid ∈ fs → sid = s.sessionId

/-- The message parses as an ACTION of the session with a sequence number that is new and
not too far ahead. -/
def AcceptableAction (lib : JsonLib) (s : WebsocketSession) (message : Text) (gap : Int64) : Prop :=
  ∃ action, WellFormedAction lib s message action ∧
    s.lastSequenceNumber < action.sequenceNumber ∧
    action.sequenceNumber.toUInt64 - s.lastSequenceNumber.toUInt64 ≤ gap.toUInt64

/-- The step handles no acceptable action, unless as part of a burst. -/
def HandlesNone (lib : JsonLib) (s : WebsocketSession) (a : Action) : Prop :=
  match a with
  | .handleMessage gap _ => ∀ message, s.strand = .checkBurst message →
      (checkSuspiciousActivity s.now s.activity).2 = false → ¬ AcceptableAction lib s message gap
  | _ => True

/-- Besides, the registry does not let the session in. -/
def Harmless (lib : JsonLib) (s : WebsocketSession) (a : Action) : Prop :=
  HandlesNone lib s a ∧ ∀ count, a ≠ .emplaced (.success count)

theorem acceptableAction_iff {message : Text} {gap logged : Int64} :
    AcceptableAction lib s message gap ↔
      ∃ seq, (s.handle lib message gap logged).verdict = .acceptAction seq := by
  constructor
  · rintro ⟨action, ⟨hstate, ⟨header, hheader, htype, hparse⟩, hsid⟩, hnew, hnear⟩
    exact ⟨_, WebsocketSession.handle_eq_acceptAction.mpr ⟨hstate, header, hheader, htype,
      WebsocketSession.handleAction_eq_acceptAction.mpr ⟨action, hparse, hsid, rfl, hnew, hnear⟩⟩⟩
  · rintro ⟨seq, hverdict⟩
    obtain ⟨hstate, header, hheader, htype, haction⟩ :=
      WebsocketSession.handle_eq_acceptAction.mp hverdict
    obtain ⟨action, hparse, hsid, rfl, hnew, hnear⟩ :=
      WebsocketSession.handleAction_eq_acceptAction.mp haction
    exact ⟨action, ⟨hstate, ⟨header, hheader, htype, hparse⟩, hsid⟩, hnew, hnear⟩

/-! ## Harmless steps -/

/-- Where the strand can be while a close is requested and nothing but harmless steps are
taken: it stores no sequence number, no id, no state and no stack. -/
def Strand.inert (sid : Text) : Strand → Prop
  | .post (.close _) | .post .leave => True
  | .post _ | .storeId _ | .sendResponse _ | .authenticate _ | .commitReload _ | .doRead => False
  | .unregister sid' => sid' = sid
  | _ => True

@[simp] theorem After.inert_strand (after : After) (sid : Text) : after.strand.inert sid := by
  cases after <;> exact trivial

/-- What harmless steps preserve once a close is requested at an idle strand of `s`. -/
structure FinalInv (s : WebsocketSession) (fs : List Event) (t : WebsocketSession) : Prop where
  final : Final s fs t
  closeRequested : t.closeRequested = true
  inert : t.strand.inert t.sessionId

/-- The events of a harmless step. -/
def Event.Inert (sid : Text) : Event → Prop
  | .registered _ => False
  | .unregister sid' => sid' = sid
  | _ => True

/-- A step that stores none of the members and emits nothing but inert events. -/
private theorem FinalInv.of_inert (inv : FinalInv s fs t) (hes : ∀ e ∈ es, e.Inert t.sessionId)
    (hlast : u.lastSequenceNumber = t.lastSequenceNumber)
    (hstack : u.currentStack = t.currentStack) (hsid : u.sessionId = t.sessionId)
    (hclose : u.closeRequested = true) (hinert : u.strand.inert u.sessionId) :
    FinalInv s (fs ++ es) u := by
  obtain ⟨⟨hlast', hstack', hsid', hnone, hown⟩, _, _⟩ := inv
  refine ⟨⟨hlast.trans hlast', hstack.trans hstack', hsid.trans hsid', ?_, ?_⟩, hclose, hinert⟩
  · intro sid hmem
    rcases List.mem_append.mp hmem with hold | hnew
    · exact hnone sid hold
    · exact hes _ hnew
  · intro sid hmem
    rcases List.mem_append.mp hmem with hold | hnew
    · exact hown sid hold
    · exact (show sid = t.sessionId from hes _ hnew).trans hsid'

theorem Event.inert_of_mem_unregisterEvents {e : Event} {sid : Text}
    (h : e ∈ s.unregisterEvents sid) : e.Inert sid := by
  rw [(WebsocketSession.mem_unregisterEvents h).1]
  exact rfl

theorem FinalInv.step (h : Transition lib t a es u) (hharmless : Harmless lib t a)
    (inv : FinalInv s fs t) : FinalInv s (fs ++ es) u := by
  have hclose := inv.closeRequested
  have hinert := inv.inert
  have hclosing := WebsocketSession.isClosing_of_closeRequested hclose
  cases h with
  | accepted _ _ hopen | rearmed _ hopen | reading _ hopen | queuedStart _ hopen
  | queuedJoin _ hopen | callerStart hopen | callerJoin hopen | deadlineRewaited _ _ hopen =>
      rw [hclosing] at hopen
      cases hopen
  | actionAccepted hstrand hquiet hverdict =>
      exact absurd (acceptableAction_iff.mpr ⟨_, hverdict⟩)
        (hharmless.1 _ hstrand (by rw [hquiet]))
  | registered => exact absurd rfl (hharmless.2 _)
  | idStored hstrand | authenticated hstrand | committed hstrand =>
      rw [hstrand] at hinert
      exact hinert.elim
  | tick | elapsed | timerFailed | managerDropped | deadlineStopped | callerPosted
  | closeForgotten | closeDispatched | writeAbandoned | armed | accepting | acceptDropped
  | acceptFailed | readDropped => exact inv.of_inert (by simp) rfl rfl rfl hclose hinert
  | writtenLast | callerRefused =>
      exact inv.of_inert (by simp [Event.Inert]) rfl rfl rfl hclose hinert
  | closeCalled => exact inv.of_inert (by simp) rfl rfl rfl rfl hinert
  | destroyed _ hes =>
      refine inv.of_inert ?_ rfl rfl rfl hclose hinert
      intro e he
      rw [hes] at he
      split at he
      · cases he
      · exact Event.inert_of_mem_unregisterEvents he
  | readFailed =>
      refine inv.of_inert (by simp) rfl rfl rfl hclose ?_
      dsimp only
      split <;> trivial
  | readLimited | readPassed | failing | reloadAccepted | disconnecting | registering
  | generated | collided | guardStopped | readStopped | errorUnprinted | checkIdle
  | lambdaBusy | lambdaIdle | closeBegun | writeTaken =>
      exact inv.of_inert (by simp [Event.Inert]) rfl rfl rfl hclose trivial
  | timedOut | handed | writtenClosing | writtenMore =>
      exact inv.of_inert (by simp [Event.Inert]) rfl rfl rfl hclose trivial
  | closeOpen | writeFailed =>
      exact inv.of_inert (by simp [Event.Inert]) rfl rfl rfl rfl trivial
  | sendRefused hsends =>
      refine inv.of_inert (by simp [Event.Inert]) rfl rfl rfl hclose ?_
      cases hsends <;> trivial
  | posted hstrand =>
      refine inv.of_inert (by simp) rfl rfl rfl hclose ?_
      rw [hstrand] at hinert
      rename_i next
      cases next with
      | close | leave => trivial
      | authenticate | commit => exact hinert.elim
  | closeClosed => exact inv.of_inert (by simp) rfl rfl rfl rfl (After.inert_strand _ _)
  | checkBusy | closeSkipped =>
      exact inv.of_inert (by simp) rfl rfl rfl hclose (After.inert_strand _ _)
  | closeUnregistered =>
      exact inv.of_inert (fun e he => Event.inert_of_mem_unregisterEvents he) rfl rfl rfl hclose
        trivial
  | shutdown _ he =>
      refine inv.of_inert ?_ rfl rfl rfl hclose (After.inert_strand _ _)
      intro e hmem
      rw [List.mem_singleton.mp hmem, he]
      split <;> trivial
  | unregistered hstrand =>
      rw [hstrand] at hinert
      refine inv.of_inert ?_ rfl rfl rfl hclose trivial
      intro e he
      exact (show _ = t.sessionId from hinert) ▸ Event.inert_of_mem_unregisterEvents he

/-- The start: the strand is idle and a close is requested. -/
theorem finalInv_refl (hidle : s.strand = .idle) (hclose : s.closeRequested = true) :
    FinalInv s [] s :=
  ⟨⟨rfl, rfl, rfl, by simp, by simp⟩, hclose, by rw [hidle]; trivial⟩

/-! ## The two steps that are not -/

/-- Sequence numbers never go back. -/
theorem Transition.lastSequenceNumber_le (h : Transition lib s a es t) :
    s.lastSequenceNumber ≤ t.lastSequenceNumber := by
  cases h with
  | actionAccepted _ _ hverdict =>
      exact Int64.le_of_lt (WebsocketSession.lastSequenceNumber_lt_of_acceptAction hverdict)
  | _ => exact Int64.le_refl _

/-- Handling an acceptable action stores its sequence number. -/
theorem lastSequenceNumber_lt_of_acceptable {gap logged : Int64} {message : Text}
    (hstep : (session lib).step s (.handleMessage gap logged) es t)
    (hstrand : s.strand = .checkBurst message)
    (hquiet : (checkSuspiciousActivity s.now s.activity).2 = false)
    (hacceptable : AcceptableAction lib s message gap) :
    s.lastSequenceNumber < t.lastSequenceNumber := by
  obtain ⟨seq, hverdict⟩ : ∃ seq, (s.handle lib message gap logged).verdict = .acceptAction seq :=
    acceptableAction_iff.mp hacceptable
  have hlive := (transition_of_step hstep).1
  have hquiet' : checkSuspiciousActivity s.now s.activity =
      ((checkSuspiciousActivity s.now s.activity).1, false) := Prod.ext rfl hquiet
  obtain ⟨t', hstep'⟩ := (step_actionAccepted_iff hlive hstrand hquiet').mpr hverdict
  obtain ⟨rfl, _⟩ := Prod.mk.inj (Option.some.inj (hstep.symm.trans hstep'))
  have htransition := (transition_of_step hstep').2
  cases htransition with
  | actionAccepted => exact WebsocketSession.lastSequenceNumber_lt_of_acceptAction hverdict

/-- If everything is final at the end of a run, each step of it is harmless: an acceptable action
moves the sequence number, and what is stored later is no less. -/
theorem Final.harmless {esAfter : List Event} (hfinal : Final s (fs ++ (es ++ esAfter)) u)
    (inv : FinalInv s fs t) {next : WebsocketSession} (hstep : (session lib).step t a es next)
    (hle : next.lastSequenceNumber ≤ u.lastSequenceNumber) : Harmless lib t a := by
  refine ⟨?_, ?_⟩
  · cases a with
    | handleMessage gap logged =>
        intro message hstrand hquiet hacceptable
        have hlt := lastSequenceNumber_lt_of_acceptable hstep hstrand hquiet hacceptable
        rw [hfinal.lastSequenceNumber, ← inv.final.lastSequenceNumber] at hle
        exact Int64.lt_irrefl (Int64.lt_of_lt_of_le hlt hle)
    | _ => trivial
  · rintro count rfl
    have htransition := (transition_of_step hstep).2
    cases htransition with
    | failing _ hfailed => exact hfailed _ rfl
    | @registered _ _ sid => exact hfinal.unregistered sid (by simp)

end Finality

end CppSim.Server
