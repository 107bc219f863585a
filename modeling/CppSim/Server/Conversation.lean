import CppSim.Server.IssuedIds
import CppSim.Server.Session.Ledger

/-!
# The conversation

What a session says to its client has a grammar.  `Conversation` states it over the texts
alone: nothing, or a HANDSHAKE_RESPONSE and any number of RELOAD_RESPONSEs, each naming the
stack that the ones before it lead to, and then at most one ERROR, which is the last word.
`Phase` is how far a conversation has come.

The handlers keep to the grammar although they share the write queue with other threads:

* before the response the session is `Ungreeted`, and only a handshake is handled;
* once it is seated it never handles a handshake again, since `state_` has left
  `unauthenticated` for good;
* after an ERROR the handler is on its way to `close`, and `close_requested_` refuses
  everything that follows.

The write queue keeps the order, so what reaches `async_write` is a conversation as well, as
long as no other thread sends anything.
-/

namespace CppSim.Server

open Protocol

/-! ## The grammar -/

/-- How far a conversation has come. -/
inductive Phase
  | silent
  /-- The client knows its id and its stack. -/
  | seated (sid : Text) (stack : Int64)
  | ended
  deriving DecidableEq

/-- The id an ERROR names: once the client knows its id, that one. -/
def Phase.Names : Phase → Option Text → Prop
  | .silent, _ => True
  | .seated sid _, named => named = some sid
  | .ended, _ => False

/-- The texts that are said until a phase is reached. -/
inductive Conversation (lib : JsonLib) : Phase → List Text → Prop
  | silent : Conversation lib .silent []
  | seated {sid response : Text} (ne : sid ≠ [])
      (printed : serializeHandshakeResponse lib
        ⟨sid, Config.placeholderSeat, Config.placeholderStack⟩ = .ok response) :
      Conversation lib (.seated sid Config.placeholderStack) [response]
  | reloaded {sid : Text} {stack amount : Int64} {said : List Text} {response : Text}
      (before : Conversation lib (.seated sid stack) said) (valid : ValidAmount amount)
      (printed : serializeReloadResponse lib
        { granted := true, newStack := reloaded stack amount } = .ok response) :
      Conversation lib (.seated sid (reloaded stack amount)) (said ++ [response])
  | refused {phase : Phase} {said : List Text} {errorCode message err : Text}
      {named : Option Text} (before : Conversation lib phase said) (names : phase.Names named)
      (printed : serializeError lib ⟨errorCode, message, named⟩ = .ok err) :
      Conversation lib .ended (said ++ [err])

/-- A conversation that is cut short is a conversation. -/
theorem Conversation.of_prefix {lib : JsonLib} {phase : Phase} {said first : List Text}
    (h : Conversation lib phase said) (hfirst : first <+: said) :
    ∃ earlier, Conversation lib earlier first := by
  induction h with
  | silent =>
      obtain rfl := List.prefix_nil.mp hfirst
      exact ⟨_, .silent⟩
  | seated ne printed =>
      rcases List.prefix_concat_iff.mp (show first <+: [] ++ [_] from hfirst) with rfl | hnil
      · exact ⟨_, .seated ne printed⟩
      · obtain rfl := List.prefix_nil.mp hnil
        exact ⟨_, .silent⟩
  | reloaded before valid printed ih =>
      rcases List.prefix_concat_iff.mp hfirst with rfl | hshort
      · exact ⟨_, before.reloaded valid printed⟩
      · exact ih hshort
  | refused before names printed ih =>
      rcases List.prefix_concat_iff.mp hfirst with rfl | hshort
      · exact ⟨_, before.refused names printed⟩
      · exact ih hshort

theorem Conversation.eq_nil {lib : JsonLib} {said : List Text}
    (h : Conversation lib .silent said) : said = [] := by
  cases h
  rfl

theorem Conversation.sid_ne_nil {lib : JsonLib} {sid : Text} {stack : Int64} {said : List Text}
    (h : Conversation lib (.seated sid stack) said) : sid ≠ [] := by
  generalize hphase : Phase.seated sid stack = phase at h
  induction h generalizing stack with
  | silent | refused => cases hphase
  | seated ne =>
      cases hphase
      exact ne
  | reloaded _ _ _ ih =>
      cases hphase
      exact ih rfl

/-! ## What the session says -/

/-- The text of a message that the session itself queued. -/
def Event.said : Event → Option Text
  | .queued .caller _ => none
  | .queued _ message => some message
  | _ => none

/-- The messages that the session itself queued. -/
def saidMessages (es : List Event) : List Text := es.filterMap Event.said

/-- What the handler on the strand has printed when it calls `send`. -/
inductive Prints (lib : JsonLib) (s : WebsocketSession) : Source → Text → Prop
  | error {errorCode message err : Text} {after : After}
      (strand : s.strand = .sendError errorCode message after)
      (printed : serializeError lib ⟨errorCode, message,
        if s.sessionId = [] then none else some s.sessionId⟩ = .ok err) :
      Prints lib s .error err
  | response {newSessionId response : Text} (strand : s.strand = .sendResponse newSessionId)
      (printed : serializeHandshakeResponse lib
        ⟨newSessionId, Config.placeholderSeat, Config.placeholderStack⟩ = .ok response) :
      Prints lib s .handshakeResponse response
  | reload {requestedAmount newStack : Int64} {response : Text}
      (strand : s.strand = .sendReload requestedAmount newStack)
      (printed : serializeReloadResponse lib { granted := true, newStack } = .ok response) :
      Prints lib s (.reloadResponse requestedAmount newStack) response

section Saying

variable {lib : JsonLib} {s t : WebsocketSession} {a : Action} {es fs : List Event}
  {source : Source} {message : Text} {next : Next} {failed : Strand}

@[simp] theorem saidMessages_append :
    saidMessages (es ++ fs) = saidMessages es ++ saidMessages fs :=
  List.filterMap_append

theorem Event.said_queued (hown : source ≠ .caller) :
    (Event.queued source message).said = some message := by
  cases source with
  | caller => exact absurd rfl hown
  | error | handshakeResponse | reloadResponse => rfl

theorem Sends.ne_caller (h : Sends lib s source message next failed) : source ≠ .caller := by
  cases h <;> simp

/-- A call of `send` on the strand emits one event about its message. -/
theorem WebsocketSession.queued_of_mem_sendOnStrand {sent : Source} {line : Text}
    {failure : List LogLine}
    (h : .queued source message ∈ (s.sendOnStrand sent line next failed failure).events) :
    source = sent ∧ message = line := by
  unfold sendOnStrand at h
  split at h
  · simp at h
  · simp at h
  · simpa using h
  · simpa using h

/-- What is queued on the strand was printed there. -/
theorem prints_of_step (h : (session lib).step s a es t) (hown : source ≠ .caller)
    (hqueued : .queued source message ∈ es) : Prints lib s source message := by
  cases (transition_of_step h).2.emits hqueued with
  | callerQueued => exact absurd rfl hown
  | queued hsends =>
      obtain ⟨r, hstep, -, rfl⟩ := strandStep_of_step h rfl
      cases hsends with
      | error hstrand =>
          obtain ⟨-, rfl⟩ := hstep.eq_resume (by rw [WebsocketSession.resume, hstrand])
          unfold WebsocketSession.sendProtocolError at hqueued
          dsimp only at hqueued
          split at hqueued
          · cases hqueued
          · obtain ⟨-, rfl⟩ := WebsocketSession.queued_of_mem_sendOnStrand hqueued
            exact .error hstrand ‹_›
      | response hstrand =>
          obtain ⟨-, rfl⟩ := hstep.eq_resume (by rw [WebsocketSession.resume, hstrand])
          unfold WebsocketSession.sendResponse at hqueued
          dsimp only at hqueued
          split at hqueued
          · cases hqueued
          · obtain ⟨-, rfl⟩ := WebsocketSession.queued_of_mem_sendOnStrand hqueued
            exact .response hstrand ‹_›
      | reload hstrand hprint => exact .reload hstrand hprint

/-- A message that the session queues comes from the handler on the strand, which then posts
`do_write` or goes on at once. -/
theorem Transition.of_queued (h : Transition lib s a fs t) (hown : source ≠ .caller)
    (hqueued : .queued source message ∈ fs) :
    ∃ next failed writing strand, Sends lib s source message next failed ∧
      s.isClosing = false ∧ (strand = .post next ∨ strand = next.strand) ∧
      t = { s with writeQueue := s.writeQueue ++ [message], writing, strand } := by
  cases h with
  | queuedStart hsends hopen =>
      cases List.mem_singleton.mp hqueued
      exact ⟨_, _, _, _, hsends, hopen, .inl rfl, rfl⟩
  | queuedJoin hsends hopen =>
      cases List.mem_singleton.mp hqueued
      exact ⟨_, _, _, _, hsends, hopen, .inr rfl, rfl⟩
  | callerStart | callerJoin =>
      cases List.mem_singleton.mp hqueued
      exact absurd rfl hown
  | destroyed _ hes =>
      rw [hes] at hqueued
      split at hqueued
      · cases hqueued
      · cases (WebsocketSession.mem_unregisterEvents hqueued).1
  | closeUnregistered | unregistered =>
      cases (WebsocketSession.mem_unregisterEvents hqueued).1
  | shutdown _ he =>
      rw [he, List.mem_singleton] at hqueued
      split at hqueued <;> cases hqueued
  | _ => simp at hqueued

/-- A step says nothing, or one message that the handler on the strand has printed. -/
theorem said_cases (h : (session lib).step s a fs t) :
    saidMessages fs = [] ∨ ∃ source message, source ≠ .caller ∧ fs = [.queued source message] ∧
      saidMessages fs = [message] ∧ Prints lib s source message := by
  by_cases hsaid : ∃ source message, source ≠ .caller ∧ .queued source message ∈ fs
  · obtain ⟨source, message, hown, hqueued⟩ := hsaid
    have hone := (transition_of_step h).2.length_events
    obtain ⟨e, rfl⟩ : ∃ e, fs = [e] := List.length_eq_one_iff.mp
      (le_antisymm hone (List.length_pos_of_mem hqueued))
    obtain rfl := List.mem_singleton.mp hqueued
    exact .inr ⟨source, message, hown, rfl, by simp [saidMessages, Event.said_queued hown],
      prints_of_step h hown hqueued⟩
  · left
    refine List.filterMap_eq_nil_iff.mpr fun e he => ?_
    cases e with
    | queued source message =>
        cases source with
        | caller => rfl
        | error | handshakeResponse | reloadResponse =>
            exact absurd ⟨_, message, by simp, he⟩ hsaid
    | _ => rfl

end Saying

/-! ## Where the strand is in a conversation -/

/-- The handler on the strand has said its last word and calls `close` next. -/
def Strand.takesLeave : Strand → Prop
  | .post (.close _) | .close _ => True
  | _ => False

/-- The handler on the strand has queued the response and authenticates the session next. -/
def Strand.authenticates : Strand → Prop
  | .post (.authenticate _) | .authenticate _ => True
  | _ => False

/-- What a phase says of the session. -/
def Phase.Fits (s : WebsocketSession) : Phase → Prop
  | .silent => Ungreeted s
  | .seated sid stack =>
      s.sessionId = sid ∧ (s.state = .unauthenticated → s.strand.authenticates) ∧
        match s.strand.reloadStage with
        | .settled | .requested _ _ => s.currentStack = stack
        | .answered newStack => newStack = stack
  | .ended => s.closeRequested = true ∨ s.strand.takesLeave

section Phases

variable {lib : JsonLib} {s t : WebsocketSession} {a : Action} {es fs : List Event}
  {sid : Text} {stack : Int64}

/-- Nothing is said any more after the last word. -/
theorem Prints.not_ended {source : Source} {message : Text} (h : Prints lib s source message) :
    ¬ s.strand.takesLeave := by
  cases h with
  | error hstrand | response hstrand | reload hstrand =>
      rw [hstrand]
      exact id

theorem Phase.fits_ended_step (h : Transition lib s a fs t) (hquiet : saidMessages fs = [])
    (fits : Phase.ended.Fits s) : Phase.ended.Fits t := by
  rcases fits with hclose | hleaves
  · left
    cases h <;> first | exact hclose | rfl
  · cases h with
    | tick | elapsed | timerFailed | armed | accepting | managerDropped | destroyed | callerStart
    | callerJoin | callerRefused | callerPosted | closeForgotten | closeDispatched =>
        exact .inr hleaves
    | closeCalled | closeClosed | closeOpen | writeFailed => exact .inl rfl
    | @posted next hstrand =>
        rw [hstrand] at hleaves
        cases next with
        | close => exact .inr trivial
        | authenticate | commit | leave => exact hleaves.elim
    | queuedStart hsends | queuedJoin hsends | sendRefused hsends =>
        cases hsends with
        | error hstrand | response hstrand | reload hstrand =>
            rw [hstrand] at hleaves
            exact hleaves.elim
    | failing hmay =>
        cases hstrand : s.strand <;> rw [hstrand] at hmay hleaves <;>
          first | exact hmay.elim | exact hleaves.elim
    | acceptDropped hidle | acceptFailed hidle | accepted hidle | readDropped hidle
    | readFailed hidle | readLimited hidle | readPassed hidle | lambdaBusy hidle
    | lambdaIdle hidle | writeAbandoned hidle | writeTaken hidle | writtenClosing hidle
    | writtenLast hidle | writtenMore hidle | deadlineStopped hidle | deadlineRewaited hidle
    | timedOut hidle =>
        rw [hidle] at hleaves
        exact hleaves.elim
    | errorUnprinted hstrand | actionAccepted hstrand | reloadAccepted hstrand
    | disconnecting hstrand | registering hstrand | generated hstrand | collided hstrand
    | registered hstrand | idStored hstrand | authenticated hstrand | committed hstrand
    | guardStopped hstrand | rearmed hstrand | readStopped hstrand | reading hstrand
    | checkBusy hstrand | checkIdle hstrand | closeSkipped hstrand | closeBegun hstrand
    | closeUnregistered hstrand | shutdown hstrand | unregistered hstrand | handed hstrand =>
        rw [hstrand] at hleaves
        exact hleaves.elim

/-- A seated session is not in the handshake any more, except to authenticate itself. -/
theorem Phase.Fits.not_handshaking (fits : (Phase.seated sid stack).Fits s) (control : ControlInv s)
    (hstrand : ¬ s.strand.authenticates) : s.strand.handshaking = false := by
  by_contra hhandshaking
  exact hstrand (fits.2.1 (control.unauthenticated (by simpa using hhandshaking)))

/-- The strand leaves a place that is no part of a reload for another such place. -/
private theorem Phase.Fits.seated_of_settled (fits : (Phase.seated sid stack).Fits s)
    (hsession : t.sessionId = s.sessionId) (hcurrent : t.currentStack = s.currentStack)
    (hstate : t.state = .unauthenticated → s.state = .unauthenticated)
    (hplace : ¬ s.strand.authenticates) (hbefore : s.strand.reloadStage = .settled)
    (hafter : t.strand.reloadStage = .settled) : (Phase.seated sid stack).Fits t := by
  obtain ⟨hsid, hauth, hstack⟩ := fits
  rw [hbefore] at hstack
  refine ⟨hsession.trans hsid, fun hopen => absurd (hauth (hstate hopen)) hplace, ?_⟩
  rw [hafter]
  exact hcurrent.trans hstack

theorem Phase.fits_seated_step (h : Transition lib s a fs t) (control : ControlInv s)
    (hquiet : saidMessages fs = []) (fits : (Phase.seated sid stack).Fits s) :
    (Phase.seated sid stack).Fits t := by
  have ⟨hsid, hauth, hstack⟩ := fits
  cases h with
  | tick | elapsed | timerFailed | armed | accepting | managerDropped | destroyed | callerStart
  | callerJoin | callerRefused | callerPosted | closeCalled | closeForgotten | closeDispatched
  | acceptDropped | readDropped | writeAbandoned | writtenLast | deadlineStopped
  | deadlineRewaited => exact ⟨hsid, hauth, hstack⟩
  -- the handshake is over
  | generated hstrand | collided hstrand | registered hstrand | idStored hstrand =>
      have hnone := fits.not_handshaking control (by rw [hstrand]; exact id)
      rw [hstrand] at hnone
      cases hnone
  | registering hstrand _ hverdict =>
      have hplace := hauth (WebsocketSession.state_of_register hverdict)
      rw [hstrand] at hplace
      exact hplace.elim
  | authenticated hstrand =>
      rw [hstrand] at hstack
      exact ⟨hsid, by simp, hstack⟩
  -- a reload: accepted, given up or refused, and stored
  | reloadAccepted hstrand =>
      rw [hstrand] at hauth hstack
      exact ⟨hsid, fun hopen => (hauth hopen).elim, hstack⟩
  | failing hmay =>
      refine ⟨hsid, fun hopen => ?_, ?_⟩
      · have hplace := hauth hopen
        cases hstrand : s.strand <;> rw [hstrand] at hmay hplace <;>
          first | exact hmay.elim | exact hplace.elim
      · cases hstrand : s.strand <;> rw [hstrand] at hmay hstack <;>
          first | exact hmay.elim | exact hstack
  | committed hstrand =>
      rw [hstrand] at hauth hstack
      exact ⟨hsid, fun hopen => (hauth hopen).elim, hstack⟩
  | sendRefused hsends =>
      cases hsends with
      | error hstrand | response hstrand | reload hstrand =>
          rw [hstrand] at hauth hstack
          exact ⟨hsid, fun hopen => (hauth hopen).elim, hstack⟩
  | queuedStart hsends | queuedJoin hsends =>
      simp [saidMessages, Event.said_queued hsends.ne_caller] at hquiet
  | @posted next hstrand =>
      rw [hstrand] at hauth hstack
      refine ⟨hsid, fun hopen => ?_, ?_⟩
      · have hplace := hauth hopen
        cases next with
        | authenticate => trivial
        | close | commit | leave => exact hplace.elim
      · dsimp only
        rw [Next.reloadStage_strand]
        exact hstack
  -- a read error and the first call of `do_close` leave the session closed
  | readFailed hidle =>
      refine fits.seated_of_settled rfl rfl (by simp) (by rw [hidle]; exact id)
        (by rw [hidle]; rfl) ?_
      dsimp only
      split <;> rfl
  | acceptFailed hidle =>
      exact fits.seated_of_settled rfl rfl (by simp) (by rw [hidle]; exact id)
        (by rw [hidle]; rfl) (by rw [hidle]; rfl)
  | closeBegun hstrand =>
      exact fits.seated_of_settled rfl rfl (by simp) (by rw [hstrand]; exact id)
        (by rw [hstrand]; rfl) rfl
  | closeClosed hstrand | checkBusy hstrand | closeSkipped hstrand | shutdown hstrand =>
      exact fits.seated_of_settled rfl rfl id (by rw [hstrand]; exact id) (by rw [hstrand]; rfl)
        (After.reloadStage_strand _)
  | accepted hstrand | readLimited hstrand | readPassed hstrand | actionAccepted hstrand
  | disconnecting hstrand | guardStopped hstrand | rearmed hstrand | readStopped hstrand
  | reading hstrand | errorUnprinted hstrand | closeOpen hstrand | checkIdle hstrand
  | lambdaBusy hstrand | lambdaIdle hstrand | closeUnregistered hstrand | unregistered hstrand
  | writeTaken hstrand | handed hstrand | writeFailed hstrand | writtenClosing hstrand
  | writtenMore hstrand | timedOut hstrand =>
      exact fits.seated_of_settled rfl rfl id (by rw [hstrand]; exact id) (by rw [hstrand]; rfl)
        rfl

theorem ungreeted_construct (now handshakeTimeout : ℤ) :
    Ungreeted (.construct now handshakeTimeout) :=
  ⟨by simp [WebsocketSession.construct], id, by simp [WebsocketSession.construct], rfl, rfl⟩

/-- A step that says nothing leaves the conversation where it is. -/
theorem Phase.fits_step {phase : Phase} (h : Transition lib s a fs t) (control : ControlInv s)
    (hquiet : saidMessages fs = []) (fits : phase.Fits s) : phase.Fits t := by
  cases phase with
  | silent =>
      rcases Ungreeted.step h fits with inv | ⟨response, hmem⟩
      · exact inv
      · have hnone := List.filterMap_eq_nil_iff.mp hquiet _ hmem
        cases hnone
  | seated sid stack => exact fits_seated_step h control hquiet fits
  | ended => exact fits_ended_step h hquiet fits

end Phases

/-! ## Runs -/

section Runs

variable {lib : JsonLib} {now handshakeTimeout : ℤ} {s t : WebsocketSession} {a : Action}
  {as : List Action} {es fs : List Event} {source : Source} {message : Text}

/-- What has been said is a conversation, in a phase that fits the session. -/
structure ConversationInv (lib : JsonLib) (s : WebsocketSession) (es : List Event) : Prop where
  control : ControlInv s
  ledger : LedgerInv lib s es
  registration : Registration s es
  greeting : Greeting lib s es
  conversation : ∃ phase, Conversation lib phase (saidMessages es) ∧ phase.Fits s

/-- A session that is to be answered has been registered under its id. -/
theorem ConversationInv.sid_ne_nil {sid : Text} (inv : ConversationInv lib s es)
    (hstrand : s.strand = .sendResponse sid) : sid ≠ [] := by
  rw [← inv.greeting.sending sid hstrand]
  cases inv.registration with
  | fresh _ _ _ hfresh =>
      rw [hstrand] at hfresh
      exact hfresh.elim
  | held _ hne hsid =>
      rw [hstrand] at hsid
      rwa [show s.sessionId = _ from hsid]

/-- What the handler on the strand has printed continues the conversation. -/
theorem ConversationInv.speaks (inv : ConversationInv lib s es) (hopen : s.isClosing = false)
    (prints : Prints lib s source message) {next : Next} {failed : Strand}
    (hsends : Sends lib s source message next failed) {writing : Bool} {strand : Strand}
    (hstrand : strand = .post next ∨ strand = next.strand) :
    ∃ phase, Conversation lib phase (saidMessages es ++ [message]) ∧
      phase.Fits { s with writeQueue := s.writeQueue ++ [message], writing, strand } := by
  obtain ⟨phase, said, fits⟩ := inv.conversation
  -- after the last word every message is refused
  have hphase : phase ≠ .ended := by
    rintro rfl
    rcases fits with hclose | hleaves
    · rw [(WebsocketSession.isClosing_eq_false.mp hopen).2] at hclose
      cases hclose
    · exact prints.not_ended hleaves
  cases prints with
  | error hat printed =>
      cases hsends
      refine ⟨.ended, said.refused ?_ printed, .inr ?_⟩
      · cases phase with
        | silent => trivial
        | seated sid stack =>
            have hne := said.sid_ne_nil
            rw [← fits.1] at hne
            rw [if_neg hne, fits.1]
            rfl
        | ended => exact absurd rfl hphase
      · rcases hstrand with rfl | rfl <;> trivial
  | @response newSessionId _ hat printed =>
      cases hsends with
      | response hat' =>
      cases hat.symm.trans hat'
      cases phase with
      | silent =>
          have ungreeted : Ungreeted s := fits
          rw [said.eq_nil]
          refine ⟨.seated newSessionId Config.placeholderStack,
            .seated (inv.sid_ne_nil hat) printed, inv.greeting.sending _ hat, fun _ => ?_, ?_⟩
          · rcases hstrand with rfl | rfl <;> trivial
          · rcases hstrand with rfl | rfl <;> exact ungreeted.currentStack
      | seated sid stack =>
          have hnone := fits.not_handshaking inv.control (by rw [hat]; exact id)
          rw [hat] at hnone
          cases hnone
      | ended => exact absurd rfl hphase
  | reload hat printed =>
      cases hsends
      cases phase with
      | silent => exact absurd (by rw [hat]; trivial) (Ungreeted.strand fits)
      | seated sid stack =>
          have ledger := inv.ledger
          unfold LedgerInv at ledger
          obtain ⟨hsid, hauth, hstack⟩ := fits
          rw [hat] at ledger hauth hstack
          obtain ⟨-, -, hvalid, rfl, -⟩ := ledger
          obtain rfl : s.currentStack = stack := hstack
          refine ⟨_, said.reloaded hvalid printed, hsid, fun h => (hauth h).elim, ?_⟩
          rcases hstrand with rfl | rfl <;> rfl
      | ended => exact absurd rfl hphase

theorem ConversationInv.step (h : (session lib).step s a fs t) (inv : ConversationInv lib s es) :
    ConversationInv lib t (es ++ fs) := by
  have htransition := (transition_of_step h).2
  refine ⟨inv.control.step h, inv.ledger.step htransition, inv.registration.step htransition
    inv.control, inv.greeting.step inv.registration h, ?_⟩
  rcases said_cases h with hquiet | ⟨source, message, hown, rfl, hsaid, prints⟩
  · obtain ⟨phase, said, fits⟩ := inv.conversation
    rw [saidMessages_append, hquiet, List.append_nil]
    exact ⟨phase, said, Phase.fits_step htransition inv.control hquiet fits⟩
  · obtain ⟨next, failed, writing, strand, hsends, hopen, hstrand, rfl⟩ :=
      htransition.of_queued hown (List.mem_singleton_self _)
    rw [saidMessages_append, hsaid]
    exact inv.speaks hopen prints hsends hstrand

theorem conversationInv_of_run (run : SessionRun lib now handshakeTimeout as es s) :
    ConversationInv lib s es := by
  refine run.invariant ?_ fun _ _ _ _ _ inv h => inv.step h
  exact
    { control := controlInv_construct _ _
      ledger := Ledger.opened
      registration := registration_construct
      greeting := ⟨by simp [WebsocketSession.construct], by simp⟩
      conversation := ⟨.silent, .silent, ungreeted_construct _ _⟩ }

/-- Without a `send` of another thread, all that is queued is what the session says. -/
theorem queuedMessages_of_alone (run : SessionRun lib now handshakeTimeout as es s)
    (halone : ∀ message, .send message ∉ as) : queuedMessages es = saidMessages es := by
  have restricted : ((session lib).restrict fun _ a => ∀ message, a ≠ .send message).Run
      (.construct now handshakeTimeout) as es s :=
    run.restrict_of_forall fun a ha message hsend => halone message (hsend ▸ ha)
  have hnone : ∀ e ∈ es, ∀ message, e ≠ .queued .caller message := by
    refine restricted.invariant (I := fun _ es => ∀ e ∈ es, ∀ message, e ≠ .queued .caller message)
      (by simp) ?_
    rintro es t a fs u inv ⟨halone, h⟩
    refine List.forall_mem_append.mpr ⟨inv, fun e he message hqueued => ?_⟩
    subst hqueued
    cases (transition_of_step h).2.emits he with
    | queued hsends => exact hsends.ne_caller rfl
    | callerQueued => exact halone message rfl
  refine List.filterMap_congr fun e he => ?_
  cases e with
  | queued source message =>
      cases source with
      | caller => exact absurd rfl (hnone _ he message)
      | error | handshakeResponse | reloadResponse => rfl
  | _ => rfl

/-- What a session says is a conversation.  Once the client is seated the session was
registered under the id that the client was told, and between two reloads it holds the stack
that the client was told last.  As long as nobody else sends anything, what was handed to
`async_write` is a conversation too. -/
theorem speaks_conversation (run : SessionRun lib now handshakeTimeout as es s) :
    (∃ phase, Conversation lib phase (saidMessages es) ∧
      ∀ sid stack, phase = .seated sid stack → registrations es = [sid] ∧ s.sessionId = sid ∧
        (s.strand.reloadStage = .settled → s.currentStack = stack)) ∧
      ((∀ message, .send message ∉ as) →
        ∃ phase, Conversation lib phase (handedMessages es)) := by
  have inv := conversationInv_of_run run
  obtain ⟨phase, said, fits⟩ := inv.conversation
  refine ⟨⟨phase, said, ?_⟩, fun halone => ?_⟩
  · rintro sid stack rfl
    have hne := said.sid_ne_nil
    obtain ⟨hsid, -, hstack⟩ := fits
    rw [← hsid] at hne ⊢
    refine ⟨inv.registration.registrations_of_sessionId hne, rfl, fun hsettled => ?_⟩
    rw [hsettled] at hstack
    exact hstack
  · refine said.of_prefix ?_
    obtain ⟨-, outbox⟩ := outboxInv_of_run run
    rw [← queuedMessages_of_alone run halone, ← accepted_signals, ← handed_signals]
    exact outbox.order.handed_isPrefix_accepted

/-- A client that reloads twice: the response and both reloads are said, and nobody else
sends. -/
theorem speaks_conversation_twice :
    (saidMessages reloadRun.2).length = 3 ∧
      ∃ phase, Conversation reloadLib phase (handedMessages reloadRun.2) := by
  have run : SessionRun reloadLib 0 (seconds 10)
      (connectActions reloadSid ++ reloadActions 600000000000000 ++
        reloadActions 700000000000000) reloadRun.2 reloadRun.1 := Machine.run_get _
  refine ⟨by decide +kernel, (speaks_conversation run).2 ?_⟩
  simp [connectActions, reloadActions]

end Runs

end CppSim.Server
