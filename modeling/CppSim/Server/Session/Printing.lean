import CppSim.Common.RoundTrip
import CppSim.Common.Routes
import CppSim.Server.SessionId
import CppSim.Server.Session.Handling

/-!
# What a session prints

A session prints the replies it sends, and the library prints no string that is not valid
UTF-8.  The errors are literals, except for a message type of the client, which was parsed
and is too short to be cut, and the session's id, which was generated.  So every reply can
be printed (`serializeError_eq_ok`, `serializeReloadResponse_eq_ok`,
`serializeHandshakeResponse_eq_ok`).
-/

namespace CppSim.Server

open Protocol

/-! ## Errors -/

section Printing

variable {lib : JsonLib} {s : WebsocketSession} {message : Text} {gap logged : Int64}

/-- A refusal is printable. -/
def Handled.Printable (h : Handled) : Prop :=
  ∀ errorCode message, h.verdict = .reject errorCode message → IsUtf8 errorCode ∧ IsUtf8 message

theorem Handled.printable_reject {errorCode message line : Text} (hcode : IsUtf8 errorCode)
    (hmessage : IsUtf8 message) : (Handled.reject errorCode message line).Printable := by
  intro code text h
  cases h
  exact ⟨hcode, hmessage⟩

theorem Handled.Printable.after {h : Handled} (hprintable : h.Printable) (lines : List Text) :
    (h.after lines).Printable := hprintable

theorem Handled.printable_of_accept {h : Handled} (haccept : ¬h.verdict.Rejects) : h.Printable :=
  fun _ _ hreject => absurd ⟨_, _, hreject⟩ haccept

theorem WebsocketSession.printable_validateSessionId {provided : Text} {refusal : Handled}
    (h : s.validateSessionId provided = some refusal) : refusal.Printable := by
  unfold validateSessionId at h
  split_ifs at h <;> cases Option.some.inj h <;>
    exact Handled.printable_reject (isUtf8_text _) (isUtf8_text _)

theorem WebsocketSession.printable_handleAction (header : ParsedMessageHeader) (sid : Text) :
    (s.handleAction lib header sid gap logged).Printable := by
  unfold handleAction
  dsimp only
  split
  · exact (Handled.printable_reject (isUtf8_text _) (isUtf8_text _)).after _
  · split
    · exact printable_validateSessionId ‹_›
    · split
      · exact Handled.printable_reject (isUtf8_text _) (isUtf8_text _)
      · split
        · exact Handled.printable_reject (isUtf8_text _) (isUtf8_text _)
        · exact Handled.printable_of_accept (by simp [Verdict.Rejects])

theorem WebsocketSession.printable_handleReloadMsg (header : ParsedMessageHeader) (sid : Text) :
    (s.handleReloadMsg lib header sid).Printable := by
  unfold handleReloadMsg
  dsimp only
  split
  · exact (Handled.printable_reject (isUtf8_text _) (isUtf8_text _)).after _
  · split
    · exact printable_validateSessionId ‹_›
    · exact Handled.printable_of_accept (by simp [Verdict.Rejects])

theorem WebsocketSession.printable_handleDisconnectMsg (header : ParsedMessageHeader) (sid : Text) :
    (s.handleDisconnectMsg lib header sid).Printable := by
  unfold handleDisconnectMsg
  dsimp only
  split
  · exact (Handled.printable_reject (isUtf8_text _) (isUtf8_text _)).after _
  · split
    · exact printable_validateSessionId ‹_›
    · exact Handled.printable_of_accept (by simp [Verdict.Rejects])

/-- A message type is too short to be cut. -/
theorem truncField_messageType {header : ParsedMessageHeader}
    (h : (extractMessageTypeAndJson lib message).value = some header) :
    truncField header.messageType 64 = header.messageType := by
  have hlength := (extractMessageTypeAndJson_eq_some.mp h).2.2
  exact if_pos (hlength.trans (by decide))

theorem isUtf8_messageType (hlib : lib.ParsesUtf8) {header : ParsedMessageHeader}
    (h : (extractMessageTypeAndJson lib message).value = some header) :
    IsUtf8 header.messageType := by
  obtain ⟨hparse, hfield, -⟩ := extractMessageTypeAndJson_eq_some.mp h
  exact Json.stringsUtf8_string.mp ((hlib _ _ hparse).field? hfield)

theorem WebsocketSession.printable_handleAuthenticatedMessage (hlib : lib.ParsesUtf8) :
    (s.handleAuthenticatedMessage lib message gap logged).Printable := by
  unfold handleAuthenticatedMessage
  dsimp only
  split
  · exact (Handled.printable_reject (isUtf8_text _) (isUtf8_text _)).after _
  · rename_i header hheader
    split
    · exact printable_handleAction _ _
    · split
      · exact printable_handleReloadMsg _ _
      · split
        · exact printable_handleDisconnectMsg _ _
        · rw [truncField_messageType hheader]
          exact Handled.printable_reject (isUtf8_text _)
            ((isUtf8_text _).append (isUtf8_messageType hlib hheader))

theorem WebsocketSession.printable_handleHandshakeMessage :
    (s.handleHandshakeMessage lib message).Printable := by
  unfold handleHandshakeMessage
  dsimp only
  split
  · exact (Handled.printable_reject (isUtf8_text _) (isUtf8_text _)).after _
  · split
    · exact Handled.printable_reject (isUtf8_text _) ((isUtf8_text _).append (isUtf8_text _))
    · split
      · exact Handled.printable_of_accept (by simp [Verdict.Rejects])
      · intro code text h
        cases h
        exact ⟨isUtf8_text _, isUtf8_text _⟩

/-- Every error about a client message is printable. -/
theorem WebsocketSession.printable_handle (hlib : lib.ParsesUtf8) :
    (s.handle lib message gap logged).Printable := by
  unfold handle
  split
  · exact printable_handleHandshakeMessage
  · exact printable_handleAuthenticatedMessage hlib

end Printing

/-! ## Session ids -/

theorem isUtf8_generateSessionId (id : UInt64) (rnd : UInt32) : IsUtf8 (generateSessionId id rnd) := by
  refine (isUtf8_text _).append (isUtf8_of_ascii ?_)
  intro byte hbyte
  obtain ⟨i, -, rfl⟩ := List.mem_map.mp hbyte
  have hdigits : ∀ n : ℕ, hexDigits.getD n 0 < 128 := by
    intro n
    by_cases hn : n < 16
    · have hall : ∀ n : Fin 16, hexDigits.getD n 0 < 128 := by decide
      exact hall ⟨n, hn⟩
    · have hlength : hexDigits.length = 16 := by decide
      rw [List.getD_eq_getElem?_getD, List.getElem?_eq_none (by omega)]
      decide
  exact hdigits _

theorem isUtf8_fallbackSessionId (id : UInt64) : IsUtf8 (fallbackSessionId id) :=
  (isUtf8_text _).append (isUtf8_text _)

/-- An id the session is given was made by `generate_session_id`. -/
def Action.Generates : Action → Prop
  | .generated sid => (∃ id rnd, sid = generateSessionId id rnd) ∨ ∃ id, sid = fallbackSessionId id
  | _ => True

theorem Action.Generates.isUtf8 {sid : Text} (h : (Action.generated sid).Generates) : IsUtf8 sid := by
  rcases h with ⟨id, rnd, rfl⟩ | ⟨id, rfl⟩
  · exact isUtf8_generateSessionId id rnd
  · exact isUtf8_fallbackSessionId id

/-- The id that follows a call of `send`. -/
def Next.heldId? : Next → Option Text
  | .authenticate sid => some sid
  | _ => none

/-- The id that the handler on the strand holds. -/
def Strand.heldId? : Strand → Option Text
  | .insert _ sid | .storeId sid | .sendResponse sid | .authenticate sid | .unregister sid => some sid
  | .post next => next.heldId?
  | _ => none

@[simp] theorem After.heldId?_strand (after : After) : after.strand.heldId? = none := by
  cases after <;> rfl

@[simp] theorem Next.heldId?_strand (next : Next) : next.strand.heldId? = next.heldId? := by
  cases next <;> rfl

/-- The id of the session satisfies the predicate, and so does the one that its handler holds. -/
structure IdsHold (P : Text → Prop) (s : WebsocketSession) : Prop where
  sessionId : P s.sessionId
  heldId : ∀ sid ∈ s.strand.heldId?, P sid

section Ids

variable {lib : JsonLib} {P : Text → Prop} {s t : WebsocketSession} {a : Action} {as : List Action}
  {es : List Event} {now handshakeTimeout : ℤ}

/-- What follows a call of `send` holds the id that the call held. -/
theorem Sends.heldId {source : Source} {message : Text} {next : Next} {failed : Strand}
    (h : Sends lib s source message next failed) :
    (∀ sid ∈ next.heldId?, sid ∈ s.strand.heldId?) ∧ failed.heldId? = none := by
  cases h with
  | error | reload => exact ⟨by simp [Next.heldId?], rfl⟩
  | response hstrand => exact ⟨by simp [Next.heldId?, Strand.heldId?, hstrand], rfl⟩

/-- Every id comes from `generate_session_id`. -/
theorem IdsHold.step (hgenerated : ∀ sid, (Action.generated sid).Generates → P sid)
    (inv : IdsHold P s) (h : Transition lib s a es t) (hgenerates : a.Generates) : IdsHold P t := by
  obtain ⟨hsid, hheld⟩ := inv
  cases h with
  | generated =>
      refine ⟨hsid, ?_⟩
      simpa [Strand.heldId?] using hgenerated _ hgenerates
  | registered hstrand =>
      refine ⟨hsid, ?_⟩
      simpa [hstrand, Strand.heldId?] using hheld
  | idStored hstrand =>
      have hnew := hheld _ (by rw [hstrand]; rfl)
      exact ⟨hnew, by simpa [Strand.heldId?] using hnew⟩
  | tick | elapsed | timerFailed | managerDropped | destroyed | deadlineStopped
  | deadlineRewaited | callerStart | callerJoin | callerRefused | callerPosted | closeCalled
  | closeForgotten | closeDispatched | writeAbandoned | writtenLast | armed | accepting
  | acceptDropped | acceptFailed | readDropped => exact ⟨hsid, hheld⟩
  | readFailed =>
      refine ⟨hsid, ?_⟩
      dsimp only
      split
      · simp [Strand.heldId?]
      · simpa [Strand.heldId?] using hsid
  | sendRefused hsends => exact ⟨hsid, by simp [hsends.heldId.2]⟩
  | queuedStart hsends => exact ⟨hsid, fun sid hmem => hheld sid (hsends.heldId.1 sid hmem)⟩
  | queuedJoin hsends =>
      refine ⟨hsid, fun sid hmem => ?_⟩
      rw [Next.heldId?_strand] at hmem
      exact hheld sid (hsends.heldId.1 sid hmem)
  | posted hstrand =>
      refine ⟨hsid, fun sid hmem => ?_⟩
      rw [Next.heldId?_strand] at hmem
      exact hheld sid (by rw [hstrand]; exact hmem)
  | closeClosed | checkBusy | closeSkipped | shutdown => exact ⟨hsid, by simp⟩
  | _ => exact ⟨hsid, by simp [Strand.heldId?, Next.heldId?]⟩

theorem idsHold_of_run (hnil : P []) (hgenerated : ∀ sid, (Action.generated sid).Generates → P sid)
    (run : SessionRun lib now handshakeTimeout as es s) (hgenerates : ∀ a ∈ as, a.Generates) :
    IdsHold P s :=
  (run.restrict_of_forall hgenerates).preserves
    ⟨hnil, by simp [WebsocketSession.construct, Strand.heldId?]⟩
    fun _ _ _ _ inv hstep => inv.step hgenerated (transition_of_step hstep.2).2 hstep.1

end Ids

/-! ## Replies -/

section Replies

variable {lib : JsonLib} {s : WebsocketSession}

theorem serializeError_eq_ok (hlib : lib.PrintsUtf8) {m : ErrorMessage} (h : m.StringsUtf8) :
    ∃ err, serializeError lib m = .ok err :=
  hlib _ (MessageEnvelope.stringsUtf8_toJson isUtf8_protocolVersion
    (ErrorMessage.stringsUtf8_toJson h))

theorem serializeReloadResponse_eq_ok (hlib : lib.PrintsUtf8) (m : ReloadResponseMessage) :
    ∃ response, serializeReloadResponse lib m = .ok response :=
  hlib _ (MessageEnvelope.stringsUtf8_toJson isUtf8_protocolVersion m.stringsUtf8_toJson)

theorem serializeHandshakeResponse_eq_ok (hlib : lib.PrintsUtf8) {m : HandshakeResponse}
    (h : IsUtf8 m.sessionId) : ∃ response, serializeHandshakeResponse lib m = .ok response :=
  hlib _ (MessageEnvelope.stringsUtf8_toJson isUtf8_protocolVersion
    (HandshakeResponse.stringsUtf8_toJson h))

/-- An error that can be printed is sent, and the session closed. -/
theorem sent_sendProtocolError (hlib : lib.PrintsUtf8) (hopen : s.isClosing = false)
    (hsid : IsUtf8 s.sessionId) {errorCode message : Text} (hcode : IsUtf8 errorCode)
    (hmessage : IsUtf8 message) (after : After) :
    ∃ err, serializeError lib ⟨errorCode, message,
        if s.sessionId = [] then none else some s.sessionId⟩ = .ok err ∧
      Sent s .error err (.close after) (.close after)
        (s.sendProtocolError lib errorCode message after) := by
  obtain ⟨err, herr⟩ := serializeError_eq_ok hlib
    (m := ⟨errorCode, message, if s.sessionId = [] then none else some s.sessionId⟩)
    ⟨hcode, hmessage, by split <;> simp [hsid]⟩
  simp only [WebsocketSession.sendProtocolError, herr]
  exact ⟨err, rfl, sent_sendOnStrand hopen _ _ _ _ _⟩

/-- A RELOAD_RESPONSE is sent, and the stack stored; without it the session is closed. -/
theorem sent_sendReload (hlib : lib.PrintsUtf8) (hopen : s.isClosing = false)
    (requestedAmount newStack : Int64) :
    ∃ response, serializeReloadResponse lib ⟨true, newStack⟩ = .ok response ∧
      Sent s (.reloadResponse requestedAmount newStack) response (.commit newStack)
        (.close .readGuard) (s.sendReload lib requestedAmount newStack) := by
  obtain ⟨response, hresponse⟩ := serializeReloadResponse_eq_ok hlib ⟨true, newStack⟩
  simp only [WebsocketSession.sendReload, hresponse]
  exact ⟨response, rfl, sent_sendOnStrand hopen _ _ _ _ _⟩

/-- A HANDSHAKE_RESPONSE is sent, and the session authenticated; without it it is closed. -/
theorem sent_sendResponse (hlib : lib.PrintsUtf8) (hopen : s.isClosing = false) {sid : Text}
    (hsid : IsUtf8 sid) :
    ∃ response, serializeHandshakeResponse lib
        ⟨sid, Config.placeholderSeat, Config.placeholderStack⟩ = .ok response ∧
      Sent s .handshakeResponse response (.authenticate sid) (.close .readGuard)
        (s.sendResponse lib sid) := by
  obtain ⟨response, hresponse⟩ := serializeHandshakeResponse_eq_ok hlib
    (m := ⟨sid, Config.placeholderSeat, Config.placeholderStack⟩) hsid
  simp only [WebsocketSession.sendResponse, hresponse]
  exact ⟨response, rfl, sent_sendOnStrand hopen _ _ _ _ _⟩

end Replies

end CppSim.Server
