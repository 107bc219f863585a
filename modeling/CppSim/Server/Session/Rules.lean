import CppSim.Common.Routes
import CppSim.Server.Session.Gate
import CppSim.Server.Session.Replay

/-!
# The rules of the protocol for a client

A client keeps the rules when it sends a HANDSHAKE first, then ACTIONs and RELOAD_REQUESTs under
the id of its session, and numbers its ACTIONs upwards without a gap that is too large
(`KeepsRules`).  The rules are about the texts that it sends alone, and not about the state of
the session that reads them.  What the message handler decides about such texts is said in the
second half.
-/

namespace CppSim.Server

open Protocol

/-! ## The rules for the client -/

/-- The texts a session has read. -/
def readTexts (as : List Action) : List Text :=
  as.filterMap fun
    | .onRead (.message message _ _ _) => some message
    | _ => none

/-- The sequence number that the texts lead to. -/
def lastNumber (lib : JsonLib) (texts : List Text) : ℤ :=
  texts.foldl
    (fun last message => (parseAction lib message).value.elim last (·.sequenceNumber.toInt)) (-1)

/-- What a client has sent that keeps the rules: it knows the id of its session, and takes `gap`
for the largest that is allowed between its numbers. -/
inductive KeepsRules (lib : JsonLib) (sid : Text) (gap : ℤ) : List Text → Prop
  | silent : KeepsRules lib sid gap []
  | greeting {message : Text} (accepted : Accepted lib message) :
      KeepsRules lib sid gap [message]
  | acting {said : List Text} {message : Text} {m : ActionMessage}
      (before : KeepsRules lib sid gap said) (greeted : said ≠ [])
      (parsed : (parseAction lib message).value = some m) (own : m.sessionId = sid)
      (accepts : AntiReplay.Accepts (lastNumber lib said) m.sequenceNumber.toInt gap) :
      KeepsRules lib sid gap (said ++ [message])
  | reloading {said : List Text} {message : Text} {m : ReloadRequestMessage}
      (before : KeepsRules lib sid gap said) (greeted : said ≠ [])
      (parsed : (parseReloadRequest lib message).value = some m) (own : m.sessionId = sid) :
      KeepsRules lib sid gap (said ++ [message])

section Rules

variable {lib : JsonLib} {sid message : Text} {gap : ℤ} {said : List Text} {a : Action}
  {as : List Action}

theorem readTexts_concat : readTexts (as ++ [a]) = readTexts as ++ readTexts [a] :=
  List.filterMap_append

theorem lastNumber_concat :
    lastNumber lib (said ++ [message]) =
      (parseAction lib message).value.elim (lastNumber lib said) (·.sequenceNumber.toInt) :=
  List.foldl_concat ..

/-- A text that another parser accepts is no ACTION. -/
theorem parseAction_eq_none {messageType : Text} (h : messageType ∈ acceptedTypes lib message)
    (hother : messageType ≠ MessageType.action) : (parseAction lib message).value = none := by
  by_contra haction
  have hmem : MessageType.action ∈ acceptedTypes lib message :=
    List.mem_map.mpr ⟨(MessageType.action, (parseAction lib message).value.isSome),
      List.mem_filter.mpr ⟨by simp [verdicts], Option.isSome_iff_ne_none.mpr haction⟩, rfl⟩
  have hnamed := namedType?_of_mem_acceptedTypes h
  rw [namedType?_of_mem_acceptedTypes hmem] at hnamed
  cases hnamed
  exact hother rfl

theorem lastNumber_handshake (h : Accepted lib message) : lastNumber lib [message] = -1 := by
  obtain ⟨m, hparsed, -⟩ := h
  have hmem : MessageType.handshake ∈ acceptedTypes lib message :=
    List.mem_map.mpr ⟨(MessageType.handshake, (parseHandshake lib message).value.isSome),
      List.mem_filter.mpr ⟨by simp [verdicts], by simp [hparsed]⟩, rfl⟩
  have hnone := parseAction_eq_none hmem (by decide)
  simp [lastNumber, hnone]

theorem lastNumber_reload {m : ReloadRequestMessage}
    (hparsed : (parseReloadRequest lib message).value = some m) :
    lastNumber lib (said ++ [message]) = lastNumber lib said := by
  have hmem : MessageType.reloadRequest ∈ acceptedTypes lib message :=
    List.mem_map.mpr ⟨(MessageType.reloadRequest, (parseReloadRequest lib message).value.isSome),
      List.mem_filter.mpr ⟨by simp [verdicts], by simp [hparsed]⟩, rfl⟩
  rw [lastNumber_concat, parseAction_eq_none hmem (by decide)]
  rfl

/-- The last text of a client that keeps the rules. -/
theorem KeepsRules.concat_cases (h : KeepsRules lib sid gap (said ++ [message])) :
    said = [] ∧ Accepted lib message ∨
      KeepsRules lib sid gap said ∧ said ≠ [] ∧
        ((∃ m, (parseAction lib message).value = some m ∧ m.sessionId = sid ∧
            AntiReplay.Accepts (lastNumber lib said) m.sequenceNumber.toInt gap) ∨
          ∃ m, (parseReloadRequest lib message).value = some m ∧ m.sessionId = sid) := by
  generalize hall : said ++ [message] = all at h
  cases h with
  | silent => simp at hall
  | @greeting first accepted =>
      have hfirst : said ++ [message] = [] ++ [first] := hall
      obtain ⟨rfl, hsame⟩ := List.append_inj' hfirst rfl
      cases hsame
      exact .inl ⟨rfl, accepted⟩
  | acting before greeted parsed own accepts =>
      obtain ⟨rfl, hsame⟩ := List.append_inj' hall rfl
      cases hsame
      exact .inr ⟨before, greeted, .inl ⟨_, parsed, own, accepts⟩⟩
  | reloading before greeted parsed own =>
      obtain ⟨rfl, hsame⟩ := List.append_inj' hall rfl
      cases hsame
      exact .inr ⟨before, greeted, .inr ⟨_, parsed, own⟩⟩

end Rules

/-! ## The verdicts -/

section Verdicts

variable {lib : JsonLib} {s : WebsocketSession} {message : Text} {gap logged : Int64}

/-- The header that a session extracts from a text that carries a message of a type. -/
theorem header_of_carries {T : Type} {fromJson : Json → Except Exn T} {messageType : Text} {m : T}
    {j : Json} (hparse : lib.parse message = .ok j)
    (hcarries : Carries fromJson messageType protocolVersion j m)
    (hlength : messageType.length ≤ maxMessageTypeLength) :
    (extractMessageTypeAndJson lib message).value = some ⟨messageType, j⟩ :=
  extractMessageTypeAndJson_eq_some.mpr ⟨hparse, hcarries.field?_messageType, hlength⟩

/-- An ACTION of the session whose number follows is accepted. -/
theorem verdict_of_action {m : ActionMessage} (hstate : s.state = .authenticated)
    (hparsed : (parseAction lib message).value = some m) (hown : m.sessionId = s.sessionId)
    (hgap : 0 ≤ gap.toInt)
    (haccepts : AntiReplay.Accepts s.lastSequenceNumber.toInt m.sequenceNumber.toInt gap.toInt) :
    (s.handle lib message gap logged).verdict = .acceptAction m.sequenceNumber := by
  obtain ⟨j, hparse, hcarries, hvalid⟩ := parseAction_eq_some.mp hparsed
  have hheader := header_of_carries hparse hcarries (by decide)
  have hformed : WellFormedAction lib s message m :=
    ⟨by simp [hstate], ⟨_, hheader, rfl, parseActionFromEnvelope_eq_some.mpr ⟨hcarries, hvalid⟩⟩,
      hown⟩
  exact (hformed.verdict_iff hgap).mpr haccepts

/-- A RELOAD_REQUEST of the session is accepted. -/
theorem verdict_of_reload {m : ReloadRequestMessage} (hstate : s.state = .authenticated)
    (hparsed : (parseReloadRequest lib message).value = some m) (hown : m.sessionId = s.sessionId) :
    (s.handle lib message gap logged).verdict = .acceptReload m.requestedAmount := by
  obtain ⟨j, hparse, hcarries, hvalid⟩ := parseReloadRequest_eq_some.mp hparsed
  have hheader := header_of_carries hparse hcarries (by decide)
  exact WebsocketSession.handle_eq_acceptReload.mpr ⟨by simp [hstate], _, hheader, rfl,
    WebsocketSession.handleReloadMsg_eq_acceptReload.mpr
      ⟨m, parseReloadFromEnvelope_eq_some.mpr ⟨hcarries, hvalid⟩, hown, rfl⟩⟩

/-- A HANDSHAKE of the version of the server is accepted. -/
theorem verdict_of_handshake (hstate : s.state = .unauthenticated)
    (halive : s.managerAlive = true) (haccepted : Accepted lib message) :
    (s.handle lib message gap logged).verdict = .register := by
  rcases @handshake_verdict_cases lib s message gap logged hstate halive with
    ⟨errorCode, line, -, hrefusal⟩ | ⟨hverdict, -⟩
  · exfalso
    obtain ⟨m, hparsed, hversion⟩ := haccepted
    cases hrefusal with
    | malformed unparsed => simp [hparsed] at unparsed
    | version parsed other =>
        rw [hparsed] at parsed
        cases parsed
        exact other hversion
    | registry _ exhausted =>
        rcases exhausted.cases with hmem | hlength
        · cases hmem
        · cases hlength
  · exact hverdict

end Verdicts

end CppSim.Server
