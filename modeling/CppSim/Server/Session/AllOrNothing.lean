import CppSim.Server.Session.Handling
import CppSim.Server.Session.Printing

/-!
# Messages of an authenticated session are handled all or not at all

A dozen checks stand between the text a client sends and the one member it may change.
`allOrNothing` says what the handling of one message, from the burst detector to the guard
at the end of `on_read`, comes to: an ACTION stores its sequence number, a RELOAD_REQUEST
stores the stack and is answered, a DISCONNECT closes the session, and everything else
changes nothing, is answered with one ERROR and closes the session.

`AuthInv` follows a handler through its steps, with the steps of other threads in between.
Those can fill the write queue, so a reply may be refused; `full` stands for the times at
which that happens.
-/

namespace CppSim.Server

open Protocol

section AllOrNothing

variable {lib : JsonLib} {s t u : WebsocketSession} {message : Text} {a : Action}
  {as : List Action} {es fs : List Event} {gap logged : Int64} {full : Prop}

/-- The text is an envelope of the type and of version `v1.0` whose payload decodes to `m`. -/
def Carried {T : Type} (lib : JsonLib) (fromJson : Json → Except Exn T) (messageType : Text)
    (message : Text) (m : T) : Prop :=
  ∃ j, lib.parse message = .ok j ∧ Carries fromJson messageType protocolVersion j m

/-! ## What a message can come to -/

inductive MessageKind
  | action
  | reload
  | disconnect
  | rejected
  deriving DecidableEq

/-- What a message that was received in `s` has come to in `t`, when the handler is over. -/
inductive Outcome (lib : JsonLib) (s : WebsocketSession) (message : Text) (es : List Event)
    (t : WebsocketSession) : MessageKind → Prop
  | action {m : ActionMessage}
      (carried : Carried lib ActionMessage.fromJson MessageType.action message m) (valid : m.Valid)
      (own : m.sessionId = s.sessionId) (new : s.lastSequenceNumber < m.sequenceNumber)
      (reading : ReadingInv m.sequenceNumber s.currentStack s.sessionId [] es t) :
      Outcome lib s message es t .action
  | reload {m : ReloadRequestMessage} {newStack : Int64} {response : Text}
      (carried : Carried lib ReloadRequestMessage.fromJson MessageType.reloadRequest message m)
      (valid : m.Valid) (own : m.sessionId = s.sessionId)
      (stack : newStack = min (s.currentStack + m.requestedAmount) maxAmount)
      (printed : serializeReloadResponse lib ⟨true, newStack⟩ = .ok response)
      (reading : ReadingInv s.lastSequenceNumber newStack s.sessionId
        [.queued (.reloadResponse m.requestedAmount newStack) response] es t) :
      Outcome lib s message es t .reload
  | reloadRefused {m : ReloadRequestMessage} {newStack : Int64} {response : Text}
      (carried : Carried lib ReloadRequestMessage.fromJson MessageType.reloadRequest message m)
      (valid : m.Valid) (own : m.sessionId = s.sessionId) (held : Held s t)
      (closeRequested : t.closeRequested = true)
      (replies : replies es =
        [.refused (.reloadResponse m.requestedAmount newStack) response]) :
      Outcome lib s message es t .reload
  | disconnect {m : DisconnectMessage}
      (carried : Carried lib DisconnectMessage.fromJson MessageType.disconnect message m)
      (valid : m.Valid) (own : m.sessionId = s.sessionId) (held : Held s t)
      (closeRequested : t.closeRequested = true) (replies : replies es = []) :
      Outcome lib s message es t .disconnect
  | rejected {errorCode line err : Text}
      (printed : serializeError lib ⟨errorCode, line,
        if s.sessionId = [] then none else some s.sessionId⟩ = .ok err)
      (held : Held s t) (closeRequested : t.closeRequested = true)
      (replies : replies es = [.queued .error err] ∨ replies es = [.refused .error err])
      (last : ∀ as' fs u, (session lib).Run t as' fs u →
        ∀ gap logged, .handleMessage gap logged ∉ as') :
      Outcome lib s message es t .rejected

/-- What a message came to shows in the replies and in the close. -/
def MessageKind.observed (closeRequested : Bool) : List Event → MessageKind
  | [] => if closeRequested then .disconnect else .action
  | .queued (.reloadResponse _ _) _ :: _ | .refused (.reloadResponse _ _) _ :: _ => .reload
  | _ => .rejected

theorem Outcome.kind_eq {kind : MessageKind} (h : Outcome lib s message es t kind) :
    kind = .observed t.closeRequested (replies es) := by
  cases h with
  | action _ _ _ _ reading => rw [reading.replies, reading.closeRequested]; rfl
  | reload _ _ _ _ _ reading => rw [reading.replies]; rfl
  | reloadRefused _ _ _ _ _ hreplies => rw [hreplies]; rfl
  | disconnect _ _ _ _ hclose hreplies => rw [hreplies, hclose]; rfl
  | rejected _ _ _ hreplies => rcases hreplies with hreplies | hreplies <;> rw [hreplies] <;> rfl

/-! ## The handler, step by step -/

theorem handle_congr (hstate : t.state = s.state) (hheld : Held s t)
    (hauthenticated : s.state = .authenticated) :
    (t.handle lib message gap logged) = (s.handle lib message gap logged) := by
  obtain ⟨hlast, -, hsid⟩ := hheld
  simp only [WebsocketSession.handle, WebsocketSession.handleAuthenticatedMessage,
    WebsocketSession.handleAction, WebsocketSession.handleReloadMsg,
    WebsocketSession.handleDisconnectMsg, WebsocketSession.validateSessionId, hstate, hlast, hsid,
    hauthenticated, reduceCtorEq, if_false]

/-- A header and an envelope of its type are a message. -/
theorem carried_of_header {T : Type} {fromJson : Json → Except Exn T} {messageType : Text} {m : T}
    {header : ParsedMessageHeader} (hheader : (extractMessageTypeAndJson lib message).value = some header)
    (hcarries : Carries fromJson messageType protocolVersion header.envelopeJson m) :
    Carried lib fromJson messageType message m :=
  ⟨header.envelopeJson, (extractMessageTypeAndJson_eq_some.mp hheader).1, hcarries⟩

theorem carried_of_acceptAction {seq : Int64}
    (h : (s.handle lib message gap logged).verdict = .acceptAction seq) :
    ∃ m, Carried lib ActionMessage.fromJson MessageType.action message m ∧ m.Valid ∧
      m.sessionId = s.sessionId ∧ m.sequenceNumber = seq ∧ s.lastSequenceNumber < seq := by
  obtain ⟨-, header, hheader, -, haction⟩ := WebsocketSession.handle_eq_acceptAction.mp h
  obtain ⟨m, hparse, hsid, hseq, hnew, -⟩ :=
    WebsocketSession.handleAction_eq_acceptAction.mp haction
  obtain ⟨hcarries, hvalid⟩ := parseActionFromEnvelope_eq_some.mp hparse
  exact ⟨m, carried_of_header hheader hcarries, hvalid, hsid, hseq, hnew⟩

theorem carried_of_acceptReload {amount : Int64}
    (h : (s.handle lib message gap logged).verdict = .acceptReload amount) :
    ∃ m, Carried lib ReloadRequestMessage.fromJson MessageType.reloadRequest message m ∧ m.Valid ∧
      m.sessionId = s.sessionId ∧ m.requestedAmount = amount := by
  obtain ⟨-, header, hheader, -, hreload⟩ := WebsocketSession.handle_eq_acceptReload.mp h
  obtain ⟨m, hparse, hsid, hamount⟩ := WebsocketSession.handleReloadMsg_eq_acceptReload.mp hreload
  obtain ⟨hcarries, hvalid⟩ := parseReloadFromEnvelope_eq_some.mp hparse
  exact ⟨m, carried_of_header hheader hcarries, hvalid, hsid, hamount⟩

theorem carried_of_disconnect
    (h : (s.handle lib message gap logged).verdict = .disconnect) :
    ∃ m, Carried lib DisconnectMessage.fromJson MessageType.disconnect message m ∧ m.Valid ∧
      m.sessionId = s.sessionId := by
  obtain ⟨header, hheader, hdisconnect⟩ := WebsocketSession.header_of_disconnect h
  have hformat : ∀ m, (parseDisconnectFromEnvelope lib header.envelopeJson).value = some m →
      validateSessionIdFormat m.sessionId = true :=
    fun m hm => (parseDisconnectFromEnvelope_eq_some.mp hm).2.sessionId
  obtain ⟨m, hparse, hsid⟩ :=
    (WebsocketSession.handleDisconnectMsg_eq_disconnect hformat).mp hdisconnect
  obtain ⟨hcarries, hvalid⟩ := parseDisconnectFromEnvelope_eq_some.mp hparse
  exact ⟨m, carried_of_header hheader hcarries, hvalid, hsid⟩

/-- Where the handler of an accepted RELOAD_REQUEST can be. -/
inductive ReloadProgress (lib : JsonLib) (s : WebsocketSession) (full : Prop) (amount : Int64)
    (es : List Event) (t : WebsocketSession) : Prop
  | answering (isOpen : Open s t)
      (strand : t.strand = .sendReload amount (min (s.currentStack + amount) maxAmount))
      (replies : replies es = [])
  | answered {newStack : Int64} {response : Text}
      (stack : newStack = min (s.currentStack + amount) maxAmount)
      (printed : serializeReloadResponse lib ⟨true, newStack⟩ = .ok response) (isOpen : Open s t)
      (strand : t.strand = .post (.commit newStack) ∨ t.strand = .commitReload newStack)
      (replies : replies es = [.queued (.reloadResponse amount newStack) response])
  | committed {newStack : Int64} {response : Text}
      (stack : newStack = min (s.currentStack + amount) maxAmount)
      (printed : serializeReloadResponse lib ⟨true, newStack⟩ = .ok response)
      (reading : ReadingInv s.lastSequenceNumber newStack s.sessionId
        [.queued (.reloadResponse amount newStack) response] es t)
  | refused {newStack : Int64} {response : Text} (isFull : full)
      (closing : ClosingInv s [.refused (.reloadResponse amount newStack) response] es t)

/-- Where the handler of a message that was received in `s` can be. -/
inductive AuthInv (lib : JsonLib) (s : WebsocketSession) (message : Text) (full : Prop)
    (es : List Event) (t : WebsocketSession) : Prop
  | received (isOpen : Open s t) (strand : t.strand = .checkBurst message)
      (replies : replies es = [])
  | rejecting {errorCode line : Text} (isOpen : Open s t)
      (strand : t.strand = .sendError errorCode line .readGuard) (replies : replies es = [])
      (printable : IsUtf8 errorCode ∧ IsUtf8 line)
  | rejected {errorCode line err : Text} {sent : List Event}
      (printed : serializeError lib ⟨errorCode, line,
        if s.sessionId = [] then none else some s.sessionId⟩ = .ok err)
      (answered : Answered full .error err sent)
      (closing : ClosingInv s sent es t)
  | action {m : ActionMessage}
      (carried : Carried lib ActionMessage.fromJson MessageType.action message m) (valid : m.Valid)
      (own : m.sessionId = s.sessionId) (new : s.lastSequenceNumber < m.sequenceNumber)
      (reading : ReadingInv m.sequenceNumber s.currentStack s.sessionId [] es t)
  | disconnect {m : DisconnectMessage}
      (carried : Carried lib DisconnectMessage.fromJson MessageType.disconnect message m)
      (valid : m.Valid) (own : m.sessionId = s.sessionId) (closing : ClosingInv s [] es t)
  | reload {m : ReloadRequestMessage}
      (carried : Carried lib ReloadRequestMessage.fromJson MessageType.reloadRequest message m)
      (valid : m.Valid) (own : m.sessionId = s.sessionId)
      (progress : ReloadProgress lib s full m.requestedAmount es t)

/-- The steps of a handler that has been accepted as a RELOAD_REQUEST. -/
theorem ReloadProgress.step {amount : Int64} (hprints : lib.PrintsUtf8)
    (hauthenticated : s.state = .authenticated) (hfull : ¬ HasRoom t a → full)
    (progress : ReloadProgress lib s full amount es t) (h : (session lib).step t a fs u)
    (hundisturbed : Undisturbed t a) : ReloadProgress lib s full amount (es ++ fs) u := by
  cases progress with
  | committed stack printed reading => exact .committed stack printed (reading.step h hundisturbed)
  | refused isFull closing => exact .refused isFull (closing.step h hundisturbed)
  | answering isOpen strand hreplies =>
      rcases handler_step_cases h hundisturbed with ⟨frame, hquiet, -⟩ | ⟨r, hstep, rfl, rfl⟩
      · exact .answering (isOpen.kept frame.toKept) (frame.strand.trans strand)
          (replies_append_of_quiet hreplies hquiet)
      · obtain ⟨rfl, rfl⟩ := hstep.eq_resume (by rw [WebsocketSession.resume, strand])
        obtain ⟨response, printed, sent⟩ := sent_sendReload hprints
          (isOpen.isClosing (by simp [hauthenticated])) amount
          (min (s.currentStack + amount) maxAmount)
        cases sent with
        | queued kept _ events strand' =>
            exact .answered rfl printed (isOpen.kept kept) strand'
              (replies_append_of_reply hreplies events rfl)
        | refused kept isFull events strand' =>
            refine .refused (hfull fun room => ?_) ((isOpen.kept kept).closing ?_
              (replies_append_of_reply hreplies events rfl))
            · exact absurd isFull (not_le.mpr (room rfl (by rw [strand]; trivial)))
            · rw [strand']
              trivial
  | answered stack printed isOpen strand hreplies =>
      rcases handler_step_cases h hundisturbed with ⟨frame, hquiet, -⟩ | ⟨r, hstep, rfl, rfl⟩
      · refine .answered stack printed (isOpen.kept frame.toKept) ?_
          (replies_append_of_quiet hreplies hquiet)
        rw [frame.strand]
        exact strand
      · rcases strand with strand | strand <;>
          obtain ⟨rfl, rfl⟩ := hstep.eq_resume (by rw [WebsocketSession.resume, strand])
        · exact .answered stack printed (isOpen.kept ⟨⟨rfl, rfl, rfl⟩, rfl, rfl, rfl⟩) (.inr rfl)
            (replies_append_of_quiet hreplies rfl)
        · exact .committed stack printed ⟨isOpen.lastSequenceNumber, rfl, isOpen.sessionId,
            replies_append_of_quiet hreplies rfl, isOpen.state.trans hauthenticated,
            isOpen.closeRequested, .inl rfl⟩

/-- What the verdict on a message of an open session leads to. -/
theorem AuthInv.dispatched {r : Reaction} (hparses : lib.ParsesUtf8) (isOpen : Open s t)
    (hauthenticated : s.state = .authenticated) (hreplies : replies es = [])
    (dispatched : Dispatched t gap r (s.handle lib message gap logged).verdict) :
    AuthInv lib s message full (es ++ r.events) r.next := by
  generalize hverdict : (s.handle lib message gap logged).verdict = verdict at dispatched
  cases dispatched with
  | reject kept hstrand hevents =>
      refine .rejecting (isOpen.kept kept) hstrand
        (replies_append_of_quiet hreplies (by rw [hevents]; rfl)) ?_
      exact WebsocketSession.printable_handle hparses _ _ hverdict
  | acceptAction kept hstrand hevents =>
      obtain ⟨m, hcarried, hvalid, hown, rfl, hnew⟩ := carried_of_acceptAction hverdict
      refine .action hcarried hvalid hown hnew ⟨kept.lastSequenceNumber,
        kept.currentStack.trans isOpen.currentStack, kept.sessionId.trans isOpen.sessionId,
        replies_append_of_quiet hreplies (by rw [hevents]; rfl),
        kept.state.trans (isOpen.state.trans hauthenticated), kept.closeRequested.trans isOpen.closeRequested,
        .inl hstrand⟩
  | acceptReload kept hstrand hevents =>
      obtain ⟨m, hcarried, hvalid, hown, rfl⟩ := carried_of_acceptReload hverdict
      refine .reload hcarried hvalid hown (.answering (isOpen.kept kept) ?_
        (replies_append_of_quiet hreplies (by rw [hevents]; rfl)))
      rw [hstrand, isOpen.currentStack]
  | disconnect kept hstrand hevents =>
      obtain ⟨m, hcarried, hvalid, hown⟩ := carried_of_disconnect hverdict
      exact .disconnect hcarried hvalid hown ((isOpen.kept kept).closing (by rw [hstrand]; trivial)
        (replies_append_of_quiet hreplies (by rw [hevents]; rfl)))
  | register =>
      have hstate := WebsocketSession.state_of_register hverdict
      rw [hauthenticated] at hstate
      cases hstate

/-- The steps of the handler of an authenticated session. -/
theorem AuthInv.step (hprints : lib.PrintsUtf8) (hparses : lib.ParsesUtf8)
    (hauthenticated : s.state = .authenticated) (hsid : IsUtf8 s.sessionId)
    (hfull : ¬ HasRoom t a → full)
    (inv : AuthInv lib s message full es t) (h : (session lib).step t a fs u)
    (hundisturbed : Undisturbed t a) : AuthInv lib s message full (es ++ fs) u := by
  cases inv with
  | action carried valid own new reading =>
      exact .action carried valid own new (reading.step h hundisturbed)
  | disconnect carried valid own closing =>
      exact .disconnect carried valid own (closing.step h hundisturbed)
  | reload carried valid own progress =>
      exact .reload carried valid own (progress.step hprints hauthenticated hfull h hundisturbed)
  | rejected printed answered closing =>
      exact .rejected printed answered (closing.step h hundisturbed)
  | received isOpen strand hreplies =>
      rcases handler_step_cases h hundisturbed with ⟨frame, hquiet, -⟩ | ⟨r, hstep, rfl, rfl⟩
      · exact .received (isOpen.kept frame.toKept) (frame.strand.trans strand)
          (replies_append_of_quiet hreplies hquiet)
      · cases hstep with
        | handleMessage gap logged hstrand =>
            cases strand.symm.trans hstrand
            have hdispatched : Dispatched t gap (t.handleMessage lib message gap logged)
                (t.handle lib message gap logged).verdict :=
              dispatched_handleMessage (hundisturbed.quiet gap logged rfl)
            rw [handle_congr isOpen.state isOpen.toHeld hauthenticated] at hdispatched
            exact AuthInv.dispatched hparses isOpen hauthenticated hreplies hdispatched
        | resume hr => simp [WebsocketSession.resume, strand] at hr
        | generated _ hother | emplaced _ hother | rearm _ hother =>
            rw [strand] at hother
            cases hother
  | rejecting isOpen strand hreplies hprintable =>
      rcases handler_step_cases h hundisturbed with ⟨frame, hquiet, -⟩ | ⟨r, hstep, rfl, rfl⟩
      · exact .rejecting (isOpen.kept frame.toKept) (frame.strand.trans strand)
          (replies_append_of_quiet hreplies hquiet) hprintable
      · obtain ⟨rfl, rfl⟩ := hstep.eq_resume (by rw [WebsocketSession.resume, strand])
        obtain ⟨err, printed, sent⟩ := sent_sendProtocolError hprints
          (isOpen.isClosing (by simp [hauthenticated])) (isOpen.sessionId ▸ hsid) hprintable.1
          hprintable.2 .readGuard
        obtain ⟨answer, answered, closing⟩ := sent.answered isOpen hreplies (by simp)
          (by rw [strand]; trivial) hfull
        rw [isOpen.sessionId] at printed
        exact .rejected printed answered closing

/-- Where the handler is when it is over. -/
theorem AuthInv.outcome (inv : AuthInv lib s message full es t) (hidle : t.strand = .idle) :
    ∃ kind, Outcome lib s message es t kind := by
  cases inv with
  | received _ hstrand =>
      rw [hidle] at hstrand
      cases hstrand
  | rejecting _ hstrand =>
      rw [hidle] at hstrand
      cases hstrand
  | @rejected errorCode line err sent printed answered closing =>
      have hdone := closing.doneReading hidle
      have hreplies : replies es = [.queued .error err] ∨ replies es = [.refused .error err] := by
        cases answered with
        | queued => exact .inl closing.replies
        | refused => exact .inr closing.replies
      exact ⟨_, .rejected printed closing.held hdone.closeRequested hreplies
        fun _ _ _ run => hdone.handles_nothing run⟩
  | action carried valid own new reading => exact ⟨_, .action carried valid own new reading⟩
  | disconnect carried valid own closing =>
      exact ⟨_, .disconnect carried valid own closing.held
        (closing.doneReading hidle).closeRequested closing.replies⟩
  | reload carried valid own progress =>
      cases progress with
      | answering _ hstrand =>
          rw [hidle] at hstrand
          cases hstrand
      | answered _ _ _ hstrand =>
          rw [hidle] at hstrand
          rcases hstrand with hstrand | hstrand <;> cases hstrand
      | committed stack printed reading =>
          exact ⟨_, .reload carried valid own stack printed reading⟩
      | refused _ closing =>
          exact ⟨_, .reloadRefused carried valid own closing.held
            (closing.doneReading hidle).closeRequested closing.replies⟩

/-- What a handler has sent was queued, unless the queue was full. -/
theorem AuthInv.queued (inv : AuthInv lib s message False es t) :
    ∀ source line, .refused source line ∉ replies es := by
  intro source line hmem
  cases inv with
  | received _ _ hreplies | rejecting _ _ hreplies =>
      rw [hreplies] at hmem
      cases hmem
  | rejected _ answered closing =>
      rw [closing.replies] at hmem
      cases answered with
      | queued => simp at hmem
      | refused isFull => exact isFull
  | action _ _ _ _ reading =>
      rw [reading.replies] at hmem
      cases hmem
  | disconnect _ _ _ closing =>
      rw [closing.replies] at hmem
      cases hmem
  | reload _ _ _ progress =>
      cases progress with
      | answering _ _ hreplies =>
          rw [hreplies] at hmem
          cases hmem
      | answered _ _ _ _ hreplies =>
          rw [hreplies] at hmem
          simp at hmem
      | committed _ _ reading =>
          rw [reading.replies] at hmem
          simp at hmem
      | refused isFull => exact isFull

/-- What a message comes to, in a run that keeps to the condition. -/
theorem authInv_of_run {C : WebsocketSession → Action → Prop} (hprints : lib.PrintsUtf8)
    (hparses : lib.ParsesUtf8) (hauthenticated : s.state = .authenticated)
    (hsid : IsUtf8 s.sessionId) (hopen : s.closeRequested = false) (hreads : s.reads = 0)
    (hstrand : s.strand = .checkBurst message)
    (hundisturbed : ∀ t a, C t a → Undisturbed t a) (hfull : ∀ t a, C t a → ¬ HasRoom t a → full)
    (run : ((session lib).restrict C).Run s as es t) : AuthInv lib s message full es t :=
  run.invariant (I := fun t es => AuthInv lib s message full es t)
    (.received ⟨.refl s, rfl, hopen, hreads⟩ hstrand rfl)
    fun _ t a _ _ inv hstep => inv.step hprints hparses hauthenticated hsid
      (hfull t a hstep.1) hstep.2 (hundisturbed t a hstep.1)

/-- A session that handles a message has no read outstanding. -/
theorem reads_eq_zero {now handshakeTimeout : ℤ} (before : SessionRun lib now handshakeTimeout as es s)
    (hstrand : s.strand = .checkBurst message) : s.reads = 0 := by
  have hone := (controlInv_of_run before).readers_le
  rw [WebsocketSession.readers, hstrand] at hone
  simp only [Strand.reading] at hone
  omega

/-- Only a message of one of the three types is anything but rejected. -/
theorem Outcome.rejected_of_type {kind : MessageKind} {j : Json} {messageType : Text}
    (h : Outcome lib s message es t kind) (hparse : lib.parse message = .ok j)
    (htype : j.field? (text "message_type") = some (.string messageType))
    (hother : messageType ∉ [MessageType.action, MessageType.reloadRequest,
      MessageType.disconnect]) : kind = .rejected := by
  have hnot : ∀ {T : Type} {fromJson : Json → Except Exn T} {type : Text} {m : T},
      Carried lib fromJson type message m →
        type ∉ [MessageType.action, MessageType.reloadRequest, MessageType.disconnect] := by
    rintro T fromJson type m ⟨j', hparse', hcarries⟩
    rw [hparse] at hparse'
    cases Except.ok.inj hparse'
    have hsame := hcarries.field?_messageType
    rw [htype] at hsame
    cases Json.string.inj (Option.some.inj hsame)
    exact hother
  cases h with
  | action carried => exact absurd (by simp) (hnot carried)
  | reload carried | reloadRefused carried => exact absurd (by simp) (hnot carried)
  | disconnect carried => exact absurd (by simp) (hnot carried)
  | rejected => rfl

/-- The handling of a message by an authenticated session, from the burst detector to the
end of `on_read`, while no other thread requests a close: exactly one thing comes of it.
The reply is queued if there is room for it when it is sent. -/
theorem allOrNothing {now handshakeTimeout : ℤ} {before : List Action} {history : List Event}
    (hprints : lib.PrintsUtf8) (hparses : lib.ParsesUtf8)
    (reached : SessionRun lib now handshakeTimeout before history s)
    (hgenerates : ∀ a ∈ before, a.Generates) (hauthenticated : s.state = .authenticated)
    (hopen : s.closeRequested = false) (hstrand : s.strand = .checkBurst message)
    (run : HandlerRun lib s as es t) (hidle : t.strand = .idle) :
    (∃! kind, Outcome lib s message es t kind) ∧
      (∀ j messageType, lib.parse message = .ok j →
        j.field? (text "message_type") = some (.string messageType) →
        messageType ∉ [MessageType.action, MessageType.reloadRequest, MessageType.disconnect] →
        Outcome lib s message es t .rejected) ∧
      (((session lib).restrict fun s a => Undisturbed s a ∧ HasRoom s a).Run s as es t →
        ∀ source line, .refused source line ∉ replies es) := by
  have hids : IdsHold IsUtf8 s :=
    idsHold_of_run isUtf8_nil (fun _ => Action.Generates.isUtf8) reached hgenerates
  have hsid := hids.sessionId
  have hreads := reads_eq_zero reached hstrand
  have inv : AuthInv lib s message True es t :=
    authInv_of_run hprints hparses hauthenticated hsid hopen hreads hstrand (fun _ _ h => h)
      (fun _ _ _ _ => trivial) run
  obtain ⟨kind, outcome⟩ := inv.outcome hidle
  refine ⟨⟨kind, outcome, ?_⟩, ?_, ?_⟩
  · intro kind' outcome'
    rw [outcome'.kind_eq, outcome.kind_eq]
  · intro j messageType hparse htype hother
    rw [← outcome.rejected_of_type hparse htype hother]
    exact outcome
  · intro roomy
    have inv : AuthInv lib s message False es t :=
      authInv_of_run hprints hparses hauthenticated hsid hopen hreads hstrand
        (fun _ _ h => h.1) (fun _ _ h hnot => hnot h.2) roomy
    exact inv.queued

/-! ## A client that sends garbage -/

def garbageLib : JsonLib := .knowing [handshakeEnvelope]

/-- Up to the message handler, which the limiter has passed. -/
def garbageReceived : WebsocketSession × List Event :=
  (Machine.exec (sessionStep garbageLib) (.construct 0 (seconds 10))
    (connectActions (generateSessionId 1 0) ++
      [.onRead (.message (text "garbage") (seconds 1) 10 10)])).get (by decide +kernel)

/-- The handler of the message. -/
def garbageHandled : WebsocketSession × List Event :=
  (Machine.exec (Machine.guarded Undisturbed (sessionStep garbageLib)) garbageReceived.1
    [.handleMessage 10000 10000, .resume, .resume, .resume, .rearm (seconds 86400)]).get
    (by decide +kernel)

/-- The garbage is rejected. -/
theorem allOrNothing_garbage :
    ∃! kind, Outcome garbageLib garbageReceived.1 (text "garbage") garbageHandled.2
      garbageHandled.1 kind := by
  have reached : SessionRun garbageLib 0 (seconds 10) _ garbageReceived.2 garbageReceived.1 :=
    Machine.run_get _
  have run : HandlerRun garbageLib garbageReceived.1 _ garbageHandled.2 garbageHandled.1 :=
    Machine.run_restrict_get _
  refine (allOrNothing (JsonLib.printsUtf8_knowing _) (JsonLib.parsesUtf8_knowing ?_) reached ?_
    (by decide +kernel) (by decide +kernel) (by decide +kernel) run (by decide +kernel)).1
  · intro j hj
    rw [List.mem_singleton.mp hj]
    exact stringsUtf8_handshakeEnvelope
  · simp [connectActions, Action.Generates]

end AllOrNothing

end CppSim.Server
