import CppSim.Common.ErrorLines
import CppSim.Common.Routes
import CppSim.Server.Session.Step

/-!
# The lines a session passes to the protocol's logger

Only the message handlers call the parsers, so only the step that handles a message passes
lines to the protocol's error logger (`protocolLines_of_step`), and these are the lines of
one parser.  `linesUtf8_handle` says when they are valid UTF-8.
-/

namespace CppSim.Server

open Protocol

/-- The lines for the protocol's error logger. -/
def protocolLines (log : List LogLine) : List Text :=
  log.filterMap fun
    | .protocol line => some line
    | .message _ | .error _ => none

@[simp] theorem protocolLines_nil : protocolLines [] = [] := rfl

@[simp] theorem protocolLines_message (line : Text) (log : List LogLine) :
    protocolLines (.message line :: log) = protocolLines log := rfl

@[simp] theorem protocolLines_error (line : Text) (log : List LogLine) :
    protocolLines (.error line :: log) = protocolLines log := rfl

@[simp] theorem protocolLines_append (first second : List LogLine) :
    protocolLines (first ++ second) = protocolLines first ++ protocolLines second :=
  List.filterMap_append

@[simp] theorem protocolLines_map_protocol (lines : List Text) :
    protocolLines (lines.map .protocol) = lines := by
  induction lines with
  | nil => rfl
  | cons line lines ih => exact congrArg (line :: ·) ih

theorem protocolLines_after (lines : List Text) (h : Handled) :
    protocolLines (h.after lines).log = lines ++ protocolLines h.log := by
  simp [Handled.after]

/-! ## The handlers -/

/-- If the message is an ACTION, its type is not cut within a character. -/
def CutsCleanly (lib : JsonLib) (message : Text) : Prop :=
  ∀ j m, lib.parse message = .ok j →
    Carries ActionMessage.fromJson MessageType.action protocolVersion j m → m.CutsCleanly

section Handlers

variable {lib : JsonLib} {s : WebsocketSession} {message : Text} {gap logged : Int64}
  {header : ParsedMessageHeader} {sid : Text} {j : Json}

namespace WebsocketSession

theorem protocolLines_validateSessionId {provided : Text} {refusal : Handled}
    (h : s.validateSessionId provided = some refusal) : protocolLines refusal.log = [] := by
  unfold validateSessionId at h
  split_ifs at h <;> cases Option.some.inj h <;> rfl

/-- A parser that returns a message has logged nothing. -/
theorem log_validate_parseFromEnvelope {T : Type} {fromJson : Json → Except Exn T}
    {expectedType name : Text} {check : T → List Text} {m : T}
    (h : (validate check (parseFromEnvelope lib fromJson expectedType name j)).value = some m) :
    (validate check (parseFromEnvelope lib fromJson expectedType name j)).log = [] := by
  obtain ⟨hvalue, hcheck⟩ := validate_value_eq_some.mp h
  rw [log_validate, hvalue, log_parseFromEnvelope hvalue]
  exact hcheck

theorem protocolLines_handleAction :
    protocolLines (s.handleAction lib header sid gap logged).log =
      (parseActionFromEnvelope lib header.envelopeJson).log := by
  unfold handleAction
  dsimp only
  split
  · rw [protocolLines_after]
    exact List.append_nil _
  · rename_i action haction
    rw [show (parseActionFromEnvelope lib header.envelopeJson).log = [] from
      log_validate_parseFromEnvelope haction]
    split
    · exact protocolLines_validateSessionId ‹_›
    · split
      · rfl
      · split <;> rfl

theorem protocolLines_handleReloadMsg :
    protocolLines (s.handleReloadMsg lib header sid).log =
      (parseReloadFromEnvelope lib header.envelopeJson).log := by
  unfold handleReloadMsg
  dsimp only
  split
  · rw [protocolLines_after]
    exact List.append_nil _
  · rename_i reload hreload
    rw [show (parseReloadFromEnvelope lib header.envelopeJson).log = [] from
      log_validate_parseFromEnvelope hreload]
    split
    · exact protocolLines_validateSessionId ‹_›
    · rfl

theorem protocolLines_handleDisconnectMsg :
    protocolLines (s.handleDisconnectMsg lib header sid).log =
      (parseDisconnectFromEnvelope lib header.envelopeJson).log := by
  unfold handleDisconnectMsg
  dsimp only
  split
  · rw [protocolLines_after]
    exact List.append_nil _
  · rename_i disconnect hdisconnect
    rw [show (parseDisconnectFromEnvelope lib header.envelopeJson).log = [] from
      log_validate_parseFromEnvelope hdisconnect]
    split
    · exact protocolLines_validateSessionId ‹_›
    · rfl

theorem linesUtf8_handleHandshakeMessage (hparses : lib.ParsesUtf8) (hlib : lib.DescribesUtf8)
    (hparse : lib.parse message = .ok j) :
    LinesUtf8 (protocolLines (s.handleHandshakeMessage lib message).log) := by
  unfold handleHandshakeMessage
  dsimp only
  split
  · rw [protocolLines_after]
    have hlines := linesUtf8_parseHandshake hparses hlib hparse
    exact List.forall_mem_append.mpr ⟨hlines, linesUtf8_nil⟩
  · rename_i handshake _
    split
    · exact linesUtf8_nil
    · cases handshake.clientName <;> split <;> exact linesUtf8_nil

theorem linesUtf8_handleAuthenticatedMessage (hparses : lib.ParsesUtf8) (hlib : lib.DescribesUtf8)
    (hparse : lib.parse message = .ok j) :
    LinesUtf8 (protocolLines (s.handleAuthenticatedMessage lib message gap logged).log) ↔
      CutsCleanly lib message := by
  have hj := hparses _ _ hparse
  have hcuts : CutsCleanly lib message ↔ ∀ m,
      Carries ActionMessage.fromJson MessageType.action protocolVersion j m → m.CutsCleanly := by
    constructor
    · exact fun h m => h j m hparse
    · intro h j' m hparse'
      cases hparse.symm.trans hparse'
      exact h m
  rw [hcuts]
  unfold handleAuthenticatedMessage
  dsimp only
  split
  · rename_i hnone
    rw [protocolLines_after]
    have hlines := linesUtf8_extractMessageTypeAndJson hparse
    refine iff_of_true (List.forall_mem_append.mpr ⟨hlines, linesUtf8_nil⟩) fun m hcarries => ?_
    -- the type of an ACTION is a string within the length limit
    have hlength : MessageType.action.length ≤ maxMessageTypeLength := by decide
    have hheader : (extractMessageTypeAndJson lib message).value = some ⟨MessageType.action, j⟩ :=
      extractMessageTypeAndJson_eq_some.mpr ⟨hparse, hcarries.field?_messageType, hlength⟩
    rw [hnone] at hheader
    cases hheader
  · rename_i header hheader
    obtain ⟨hparse', hfield, -⟩ := extractMessageTypeAndJson_eq_some.mp hheader
    obtain rfl : header.envelopeJson = j := Except.ok.inj (hparse'.symm.trans hparse)
    split
    · rw [protocolLines_handleAction]
      exact linesUtf8_parseActionFromEnvelope hlib hj
    · rename_i hne
      have hother : ∀ m, Carries ActionMessage.fromJson MessageType.action protocolVersion
          header.envelopeJson m → m.CutsCleanly := by
        intro m hcarries
        rw [hcarries.field?_messageType] at hfield
        exact absurd (Json.string.inj (Option.some.inj hfield)).symm hne
      split
      · rw [protocolLines_handleReloadMsg]
        exact iff_of_true (linesUtf8_parseReloadFromEnvelope hlib hj) hother
      · split
        · rw [protocolLines_handleDisconnectMsg]
          exact iff_of_true (linesUtf8_parseDisconnectFromEnvelope hlib hj) hother
        · exact iff_of_true linesUtf8_nil hother

/-- The lines about a message are valid UTF-8 exactly if it is not an ACTION whose type is cut
within a character, or the session takes it for a handshake. -/
theorem linesUtf8_handle (hparses : lib.ParsesUtf8) (hlib : lib.DescribesUtf8)
    (hparse : lib.parse message = .ok j) :
    LinesUtf8 (protocolLines (s.handle lib message gap logged).log) ↔
      (s.state ≠ .unauthenticated → CutsCleanly lib message) := by
  unfold handle
  split
  · rename_i hstate
    have hlines := linesUtf8_handleHandshakeMessage (s := s) hparses hlib hparse
    exact iff_of_true hlines fun hne => absurd hstate hne
  · rename_i hstate
    rw [linesUtf8_handleAuthenticatedMessage hparses hlib hparse]
    exact ⟨fun h _ => h, fun h => h hstate⟩

end WebsocketSession

end Handlers

/-! ## The steps -/

section Steps

variable {lib : JsonLib} {s : WebsocketSession}

/-- The step logs nothing for the protocol's logger. -/
def Reaction.Silent (r : Reaction) : Prop := protocolLines r.log = []

namespace WebsocketSession

theorem silent_sendOnStrand {source : Source} {message : Text} {next : Next} {failed : Strand}
    {failure : List LogLine} (h : protocolLines failure = []) :
    (s.sendOnStrand source message next failed failure).Silent := by
  unfold sendOnStrand
  split
  · exact h
  · exact h
  · rfl
  · rfl

theorem silent_sendFromCaller (message : Text) : (s.sendFromCaller message).Silent := by
  unfold sendFromCaller
  split <;> rfl

theorem silent_sendProtocolError (errorCode message : Text) (after : After) :
    (s.sendProtocolError lib errorCode message after).Silent := by
  simp only [sendProtocolError]
  split
  · rfl
  · exact silent_sendOnStrand rfl

theorem silent_onWrite (message : Text) (error : Option Text) : (s.onWrite message error).Silent := by
  cases error with
  | some what =>
      simp only [onWrite, Reaction.Silent, protocolLines_error]
      split <;> rfl
  | none =>
      simp only [onWrite]
      split
      · rfl
      · split <;> rfl

theorem silent_onAccept (error : Option TransportError) : (s.onAccept error).Silent := by
  cases error with
  | some error =>
      simp only [onAccept]
      split
      · rfl
      · cases s.closeRequested <;> cases error <;> rfl
  | none =>
      simp only [onAccept]
      split <;> rfl

theorem silent_onRead (result : ReadResult) : (s.onRead result).Silent := by
  unfold onRead
  split
  · rfl
  · cases result with
    | failed error => cases error <;> simp only [onReadError, Reaction.Silent] <;> split <;> rfl
    | message message rateLimitWindow maxMessages maxMessagesLogged =>
        dsimp only
        split <;> rfl

theorem silent_registrationFailed {lines : List LogLine} (h : protocolLines lines = []) :
    (s.registrationFailed lines).Silent := by
  simp [registrationFailed, Reaction.Silent, h]

theorem silent_generated (attempt : ℕ) (newSessionId : Text) :
    (s.generated attempt newSessionId).Silent := by
  unfold generated
  split
  · exact silent_registrationFailed rfl
  · split
    · exact silent_registrationFailed rfl
    · rfl

theorem silent_emplaced (attempt : ℕ) (newSessionId : Text) (result : EmplaceResult) :
    (s.emplaced attempt newSessionId result).Silent := by
  cases result with
  | success count => rfl
  | maxConnections => exact silent_registrationFailed rfl
  | collision =>
      simp only [emplaced]
      split
      · rfl
      · exact silent_registrationFailed rfl

theorem silent_sendResponse (newSessionId : Text) : (s.sendResponse lib newSessionId).Silent := by
  simp only [sendResponse]
  split
  · rfl
  · exact silent_sendOnStrand rfl

theorem silent_sendReload (requestedAmount newStack : Int64) :
    (s.sendReload lib requestedAmount newStack).Silent := by
  simp only [sendReload]
  split
  · rfl
  · exact silent_sendOnStrand rfl

theorem silent_checkDeadline (what : Text) (result : TimerResult) :
    (s.checkDeadline what result).Silent := by
  cases result with
  | aborted =>
      simp only [checkDeadline]
      split <;> rfl
  | failed =>
      simp only [checkDeadline]
      split <;> rfl
  | elapsed =>
      simp only [checkDeadline]
      cases s.state <;> rfl

theorem silent_resume {r : Reaction} (h : s.resume lib = some r) : r.Silent := by
  unfold resume at h
  split at h <;> cases h
  · exact silent_sendProtocolError _ _ _
  · rfl
  · rfl
  · rfl
  · rfl
  · rfl
  · rfl
  · rfl
  · rfl
  · exact silent_sendResponse _
  · rfl
  · exact silent_sendReload _ _
  · rfl
  · rfl
  · rfl

theorem silent_start {a : Action} {r : Reaction} (h : s.start a = some r) : r.Silent := by
  unfold start at h
  split at h
  · split at h <;> cases h
    exact silent_onAccept _
  · split at h <;> cases h
    exact silent_onRead _
  · split at h <;> cases h
    exact silent_onWrite _ _
  · split at h <;> cases h
    rfl
  · split at h <;> cases h
    rfl
  · obtain ⟨deadline, -, rfl⟩ := Option.map_eq_some_iff.mp h
    exact silent_checkDeadline _ _
  · cases h

/-- The session handles a message in this step: it does not take it for part of a burst. -/
structure Handles (s : WebsocketSession) (a : Action) (message : Text) : Prop where
  action : ∃ maxSequenceGap maxSequenceGapLogged, a = .handleMessage maxSequenceGap maxSequenceGapLogged
  strand : s.strand = .checkBurst message
  calm : (checkSuspiciousActivity s.now s.activity).2 = false

theorem protocolLines_handleMessage {message : Text} {gap logged : Int64}
    (h : (checkSuspiciousActivity s.now s.activity).2 = false) :
    protocolLines (s.handleMessage lib message gap logged).log =
      protocolLines (s.handle lib message gap logged).log := by
  unfold handleMessage
  split
  · rename_i hcheck
    rw [hcheck] at h
    cases h
  · dsimp only
    split <;> rfl

/-- Only a message that is handled leads to lines for the protocol's logger, and then they
are those of its handler. -/
theorem protocolLines_of_step {a : Action} {r : Reaction} (h : s.step lib a = some r) :
    (r.Silent ∧ ∀ message, ¬s.Handles a message) ∨
      ∃ message gap logged, s.Handles a message ∧
        protocolLines r.log = protocolLines (s.handle lib message gap logged).log := by
  have hother : r.Silent → (∀ gap logged, a ≠ .handleMessage gap logged) →
      r.Silent ∧ ∀ message, ¬s.Handles a message := by
    intro hsilent hne
    refine ⟨hsilent, fun message hhandles => ?_⟩
    obtain ⟨gap, logged, haction⟩ := hhandles.action
    exact hne gap logged haction
  unfold step at h
  split at h
  · cases h
  · cases a with
    | handleMessage gap logged =>
        dsimp only at h
        split at h
        · rename_i message hstrand
          cases h
          cases hcheck : (checkSuspiciousActivity s.now s.activity).2 with
          | false =>
              exact .inr ⟨message, gap, logged, ⟨⟨gap, logged, rfl⟩, hstrand, hcheck⟩,
                protocolLines_handleMessage hcheck⟩
          | true =>
              refine .inl ⟨?_, fun message hhandles => ?_⟩
              · unfold handleMessage
                split
                · rfl
                · rename_i hcalm
                  rw [hcalm] at hcheck
                  cases hcheck
              · rw [hhandles.calm] at hcheck
                cases hcheck
        · cases h
    | resume => exact .inl (hother (silent_resume h) (by simp))
    | onAccept | onRead | onWrite | doWrite | closeLambda | onDeadline =>
        dsimp only at h
        split at h
        · exact .inl (hother (silent_start h) (by simp))
        · cases h
    | generated newSessionId =>
        dsimp only at h
        split at h <;> cases h
        exact .inl (hother (silent_generated _ _) (by simp))
    | emplaced result =>
        dsimp only at h
        split at h <;> cases h
        exact .inl (hother (silent_emplaced _ _ _) (by simp))
    | send message =>
        cases h
        exact .inl (hother (silent_sendFromCaller message) (by simp))
    | elapse =>
        obtain ⟨deadline, -, rfl⟩ := Option.map_eq_some_iff.mp h
        exact .inl (hother rfl (by simp))
    | dispatchClose =>
        dsimp only at h
        split at h
        · cases h
        · split at h <;> cases h <;> exact .inl (hother rfl (by simp))
    | tick | timerError | close | dropManager =>
        cases h
        exact .inl (hother rfl (by simp))
    | armDeadline | startAccept | rearm | postWrite | destroy =>
        dsimp only at h
        split at h <;> cases h
        exact .inl (hother rfl (by simp))

end WebsocketSession

end Steps

end CppSim.Server
