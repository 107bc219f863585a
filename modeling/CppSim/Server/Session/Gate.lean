import CppSim.Server.Session.Printing

/-!
# The handshake gate

What the first message of a session comes to depends on three things: whether the text is
a HANDSHAKE of version `v1.0`, what the registry says to at most three insertions, and
whether the write queue has room for the reply.  `GateInv` follows the handler from the
burst detector to the end of `on_read`, and keeps the results of the insertions.

* `Refusal` says which error a refused message gets, and that `register_session` gave up
  only when it should.
* After the insertion the session holds the id whatever happens, and without room for the
  response it closes under that id.
* `Greeted`: the stack and the sequence number keep their initial values until a
  HANDSHAKE_RESPONSE is queued.
-/

namespace CppSim.Server

open Protocol

section Gate

variable {lib : JsonLib} {s t u : WebsocketSession} {message : Text} {a : Action}
  {as : List Action} {es fs : List Event} {full : Prop} {rs : List EmplaceResult}

/-! ## What decides -/

/-- The text is a HANDSHAKE of the version of the server. -/
def Accepted (lib : JsonLib) (message : Text) : Prop :=
  ∃ m, (parseHandshake lib message).value = some m ∧ m.protocolVersion = protocolVersion

/-- What `register_session` is told by the registry in a step. -/
def Action.results : Action → List EmplaceResult
  | .emplaced result => [result]
  | _ => []

/-- An id was free, after some that were not. -/
def Inserted (rs : List EmplaceResult) : Prop :=
  ∃ attempt count, attempt < WebsocketSession.maxSessionIdRetries ∧
    rs = List.replicate attempt .collision ++ [.success count]

/-- The registry was full, or three ids were taken. -/
def Exhausted (rs : List EmplaceResult) : Prop :=
  (∃ attempt, attempt < WebsocketSession.maxSessionIdRetries ∧
      rs = List.replicate attempt .collision ++ [.maxConnections]) ∨
    rs = List.replicate WebsocketSession.maxSessionIdRetries .collision

/-- Which error a message is refused with. -/
inductive Refusal (lib : JsonLib) (message : Text) (rs : List EmplaceResult) :
    Text → Text → Prop
  | malformed (unparsed : (parseHandshake lib message).value = none) (untried : rs = []) :
      Refusal lib message rs ErrorCode.malformedHandshake (text "Expected HANDSHAKE message")
  | version {m : HandshakeMessage} (parsed : (parseHandshake lib message).value = some m)
      (other : m.protocolVersion ≠ protocolVersion) (untried : rs = []) :
      Refusal lib message rs ErrorCode.incompatibleVersion
        (text "Expected " ++ protocolVersion)
  | registry (accepted : Accepted lib message) (exhausted : Exhausted rs) :
      Refusal lib message rs ErrorCode.protocolError
        (text "Failed to generate unique session ID")

theorem Refusal.isUtf8 {errorCode line : Text} (h : Refusal lib message rs errorCode line) :
    IsUtf8 errorCode ∧ IsUtf8 line := by
  cases h with
  | malformed | registry => exact ⟨isUtf8_text _, isUtf8_text _⟩
  | version => exact ⟨isUtf8_text _, (isUtf8_text _).append (isUtf8_text _)⟩

/-- INCOMPATIBLE_VERSION is the error of a HANDSHAKE of another version. -/
theorem Refusal.incompatible_iff {errorCode line : Text}
    (h : Refusal lib message rs errorCode line) :
    errorCode = ErrorCode.incompatibleVersion ↔
      ∃ m, (parseHandshake lib message).value = some m ∧ m.protocolVersion ≠ protocolVersion := by
  have hmalformed : ErrorCode.malformedHandshake ≠ ErrorCode.incompatibleVersion := by decide
  have hprotocol : ErrorCode.protocolError ≠ ErrorCode.incompatibleVersion := by decide
  cases h with
  | malformed unparsed => simp [hmalformed, unparsed]
  | version parsed other => exact ⟨fun _ => ⟨_, parsed, other⟩, fun _ => rfl⟩
  | registry accepted =>
      obtain ⟨m, parsed, version⟩ := accepted
      simp [hprotocol, parsed, version]

theorem Refusal.exhausted {errorCode line : Text}
    (h : Refusal lib message rs errorCode line) (accepted : Accepted lib message) :
    Exhausted rs := by
  obtain ⟨m, hparsed, hversion⟩ := accepted
  cases h with
  | malformed unparsed =>
      rw [unparsed] at hparsed
      cases hparsed
  | version parsed other =>
      rw [parsed] at hparsed
      cases Option.some.inj hparsed
      exact absurd hversion other
  | registry _ exhausted => exact exhausted

theorem Refusal.length_le {errorCode line : Text}
    (h : Refusal lib message rs errorCode line) :
    rs.length ≤ WebsocketSession.maxSessionIdRetries := by
  cases h with
  | malformed _ untried | version _ _ untried => simp [untried]
  | registry _ exhausted =>
      rcases exhausted with ⟨attempt, hlt, rfl⟩ | rfl
      · simpa using Nat.succ_le_of_lt hlt
      · simp

theorem Inserted.success_mem (h : Inserted rs) : ∃ count, .success count ∈ rs := by
  obtain ⟨attempt, count, -, rfl⟩ := h
  exact ⟨count, by simp⟩

theorem Inserted.length_le (h : Inserted rs) :
    rs.length ≤ WebsocketSession.maxSessionIdRetries := by
  obtain ⟨attempt, count, hlt, rfl⟩ := h
  simpa using Nat.succ_le_of_lt hlt

theorem Exhausted.success_notMem (h : Exhausted rs) (count : ℕ) :
    .success count ∉ rs := by
  rcases h with ⟨attempt, -, rfl⟩ | rfl <;> simp

/-- The registry was full at the last try, or there were three. -/
theorem Exhausted.cases (h : Exhausted rs) :
    .maxConnections ∈ rs ∨ rs.length = WebsocketSession.maxSessionIdRetries := by
  rcases h with ⟨attempt, -, rfl⟩ | rfl
  · exact .inl (by simp)
  · exact .inr (by simp)

/-- The three verdicts on a first message. -/
theorem handshake_verdict_cases {gap logged : Int64} (hstate : s.state = .unauthenticated)
    (halive : s.managerAlive = true) :
    (∃ errorCode line, (s.handle lib message gap logged).verdict = .reject errorCode line ∧
        Refusal lib message [] errorCode line) ∨
      (s.handle lib message gap logged).verdict = .register ∧ Accepted lib message := by
  rw [WebsocketSession.handle, if_pos hstate]
  unfold WebsocketSession.handleHandshakeMessage
  dsimp only
  split
  · exact .inl ⟨_, _, rfl, .malformed ‹_› rfl⟩
  · rename_i m hparsed
    by_cases hversion : m.protocolVersion ≠ protocolVersion
    · rw [if_pos hversion]
      exact .inl ⟨_, _, rfl, .version hparsed hversion rfl⟩
    · rw [if_neg hversion, if_pos halive]
      exact .inr ⟨rfl, m, hparsed, not_not.mp hversion⟩

/-! ## The handler, step by step -/

/-- Where the handler of the first message of `s` can be, when the registry has given it
these results. -/
inductive GateInv (lib : JsonLib) (s : WebsocketSession) (message : Text) (full : Prop) :
    List EmplaceResult → List Event → WebsocketSession → Prop
  | received {es : List Event} {t : WebsocketSession} (isOpen : Open s t)
      (strand : t.strand = .checkBurst message) (replies : replies es = []) :
      GateInv lib s message full [] es t
  | registering {es : List Event} {t : WebsocketSession} {attempt : ℕ}
      (accepted : Accepted lib message) (isOpen : Open s t)
      (attempt_lt : attempt < WebsocketSession.maxSessionIdRetries)
      (strand : t.strand = .generate attempt ∨
        ∃ sid, t.strand = .insert attempt sid ∧ sid ≠ [] ∧ IsUtf8 sid)
      (replies : replies es = []) :
      GateInv lib s message full (List.replicate attempt .collision) es t
  | inserted {rs : List EmplaceResult} {es : List Event} {t : WebsocketSession} {sid : Text}
      (accepted : Accepted lib message) (inserted : Inserted rs) (isOpen : Open s t)
      (strand : t.strand = .storeId sid) (ne : sid ≠ []) (utf8 : IsUtf8 sid)
      (replies : replies es = []) :
      GateInv lib s message full rs es t
  | stored {rs : List EmplaceResult} {es : List Event} {t : WebsocketSession} {sid : Text}
      (accepted : Accepted lib message) (inserted : Inserted rs)
      (isOpen : Open { s with sessionId := sid } t) (strand : t.strand = .sendResponse sid)
      (ne : sid ≠ []) (utf8 : IsUtf8 sid) (replies : replies es = []) :
      GateInv lib s message full rs es t
  | answered {rs : List EmplaceResult} {es : List Event} {t : WebsocketSession}
      {sid response : Text} (accepted : Accepted lib message) (inserted : Inserted rs)
      (isOpen : Open { s with sessionId := sid } t)
      (strand : t.strand = .post (.authenticate sid) ∨ t.strand = .authenticate sid)
      (ne : sid ≠ []) (printed : serializeHandshakeResponse lib
        ⟨sid, Config.placeholderSeat, Config.placeholderStack⟩ = .ok response)
      (replies : replies es = [.queued .handshakeResponse response]) :
      GateInv lib s message full rs es t
  | authenticated {rs : List EmplaceResult} {es : List Event} {t : WebsocketSession}
      {sid response : Text} (accepted : Accepted lib message) (inserted : Inserted rs)
      (ne : sid ≠ []) (printed : serializeHandshakeResponse lib
        ⟨sid, Config.placeholderSeat, Config.placeholderStack⟩ = .ok response)
      (reading : ReadingInv s.lastSequenceNumber s.currentStack sid
        [.queued .handshakeResponse response] es t) : GateInv lib s message full rs es t
  | unanswered {rs : List EmplaceResult} {es : List Event} {t : WebsocketSession}
      {sid response : Text} (accepted : Accepted lib message) (inserted : Inserted rs)
      (ne : sid ≠ []) (isFull : full)
      (closing : ClosingInv { s with sessionId := sid } [.refused .handshakeResponse response]
        es t) : GateInv lib s message full rs es t
  | rejecting {rs : List EmplaceResult} {es : List Event} {t : WebsocketSession}
      {errorCode line : Text} (refusal : Refusal lib message rs errorCode line)
      (isOpen : Open s t) (strand : t.strand = .sendError errorCode line .readGuard)
      (replies : replies es = []) : GateInv lib s message full rs es t
  | rejected {rs : List EmplaceResult} {es sent : List Event} {t : WebsocketSession}
      {errorCode line err : Text} (refusal : Refusal lib message rs errorCode line)
      (printed : serializeError lib ⟨errorCode, line, none⟩ = .ok err)
      (answered : Answered full .error err sent) (closing : ClosingInv s sent es t) :
      GateInv lib s message full rs es t

@[simp] theorem Action.results_resume : Action.resume.results = [] := rfl

/-- A step of somebody else tells the handler nothing. -/
theorem Action.results_of_other (h : a.ofStrand = false) : a.results = [] := by
  cases a <;> first | rfl | cases h

/-- An id that was generated has a valid length. -/
theorem Action.Generates.length {sid : Text} (h : (Action.generated sid).Generates) :
    sid ≠ [] ∧ sid.length ≤ Config.maxSessionIdLength := by
  have hprefix : (text "sess_").length = 5 := by decide +kernel
  rcases h with ⟨id, rnd, rfl⟩ | ⟨id, rfl⟩
  · have hlength := length_generateSessionId id rnd
    refine ⟨fun hnil => ?_, by rw [hlength]; decide⟩
    rw [hnil] at hlength
    cases hlength
  · have hdigits : (toText id.toNat).length ≤ 20 :=
      length_toText_le (by decide) (Nat.lt_trans id.toNat_lt (by decide))
    have hlength : (fallbackSessionId id).length = 5 + (toText id.toNat).length := by
      rw [fallbackSessionId, List.length_append, hprefix]
    refine ⟨fun hnil => ?_, ?_⟩
    · rw [hnil, List.length_nil] at hlength
      omega
    · rw [hlength]
      exact (Nat.add_le_add_left hdigits 5).trans (by decide)

/-- What `register_session` does with the result of an insertion. -/
theorem GateInv.emplaced {attempt : ℕ} {sid : Text} (accepted : Accepted lib message)
    (isOpen : Open s t) (hattempt : attempt < WebsocketSession.maxSessionIdRetries)
    (hne : sid ≠ []) (hutf8 : IsUtf8 sid) (hreplies : replies es = []) (result : EmplaceResult) :
    GateInv lib s message full (List.replicate attempt .collision ++ [result])
      (es ++ (t.emplaced attempt sid result).events) (t.emplaced attempt sid result).next := by
  have hkept : Kept t (t.emplaced attempt sid result).next := by
    cases result with
    | collision =>
        simp only [WebsocketSession.emplaced]
        split <;> exact ⟨⟨rfl, rfl, rfl⟩, rfl, rfl, rfl⟩
    | success | maxConnections => exact ⟨⟨rfl, rfl, rfl⟩, rfl, rfl, rfl⟩
  cases result with
  | success count =>
      exact .inserted accepted ⟨attempt, count, hattempt, rfl⟩ (isOpen.kept hkept) rfl hne hutf8
        (replies_append_of_quiet hreplies rfl)
  | maxConnections =>
      exact .rejecting (.registry accepted (.inl ⟨attempt, hattempt, rfl⟩)) (isOpen.kept hkept) rfl
        (replies_append_of_quiet hreplies rfl)
  | collision =>
      have hcollisions : List.replicate attempt EmplaceResult.collision ++ [.collision] =
          List.replicate (attempt + 1) .collision := List.replicate_succ'.symm
      rw [hcollisions]
      simp only [WebsocketSession.emplaced] at hkept ⊢
      by_cases hlast : attempt + 1 < WebsocketSession.maxSessionIdRetries
      · rw [if_pos hlast] at hkept ⊢
        exact .registering accepted (isOpen.kept hkept) hlast (.inl rfl)
          (replies_append_of_quiet hreplies rfl)
      · rw [if_neg hlast] at hkept ⊢
        have hthree : attempt + 1 = WebsocketSession.maxSessionIdRetries := by omega
        exact .rejecting (.registry accepted (.inr (by rw [hthree]))) (isOpen.kept hkept) rfl
          (replies_append_of_quiet hreplies rfl)

/-- The registry answers only an insertion. -/
theorem StrandStep.results {r : Reaction} (h : StrandStep lib t a r)
    (hstrand : ∀ attempt sid, t.strand ≠ .insert attempt sid) : a.results = [] := by
  cases h with
  | emplaced _ hinsert => exact absurd hinsert (hstrand _ _)
  | _ => rfl

theorem ClosingInv.strand_ne_insert {sent : List Event} (inv : ClosingInv s sent es t)
    (attempt : ℕ) (sid : Text) : t.strand ≠ .insert attempt sid := by
  intro hstrand
  have hposition := inv.position
  rw [hstrand] at hposition
  rcases hposition with ⟨-, hnext⟩ | ⟨-, hnow⟩
  · exact hnext
  · exact hnow

/-- A handler that closes the session sends nothing more. -/
theorem ClosingInv.not_sends {sent : List Event} (inv : ClosingInv s sent es t) :
    ¬ t.strand.sends := by
  intro hsends
  have hposition := inv.position
  cases hstrand : t.strand with
  | sendError | sendReload | sendResponse =>
      rw [hstrand] at hposition
      exact hposition.elim And.right And.right
  | _ =>
      rw [hstrand] at hsends
      exact hsends

theorem ReadingInv.strand_ne_insert {last stack : Int64} {own : Text} {sent : List Event}
    (inv : ReadingInv last stack own sent es t) (attempt : ℕ) (sid : Text) :
    t.strand ≠ .insert attempt sid := by
  rcases inv.position with hstrand | hstrand | hstrand <;> simp [hstrand]

/-- A step of somebody else leaves the handler where it is. -/
theorem GateInv.framed (inv : GateInv lib s message full rs es t) (frame : Frame t u)
    (hquiet : replies fs = []) (h : (session lib).step t a fs u) (hundisturbed : Undisturbed t a) :
    GateInv lib s message full rs (es ++ fs) u := by
  cases inv with
  | received isOpen hstrand hreplies =>
      exact .received (isOpen.kept frame.toKept) (frame.strand.trans hstrand)
        (replies_append_of_quiet hreplies hquiet)
  | registering accepted isOpen hattempt hstrand hreplies =>
      refine .registering accepted (isOpen.kept frame.toKept) hattempt ?_
        (replies_append_of_quiet hreplies hquiet)
      rw [frame.strand]
      exact hstrand
  | inserted accepted hinserted isOpen hstrand hne hutf8 hreplies =>
      exact .inserted accepted hinserted (isOpen.kept frame.toKept) (frame.strand.trans hstrand)
        hne hutf8 (replies_append_of_quiet hreplies hquiet)
  | stored accepted hinserted isOpen hstrand hne hutf8 hreplies =>
      exact .stored accepted hinserted (isOpen.kept frame.toKept) (frame.strand.trans hstrand)
        hne hutf8 (replies_append_of_quiet hreplies hquiet)
  | answered accepted hinserted isOpen hstrand hne printed hreplies =>
      refine .answered accepted hinserted (isOpen.kept frame.toKept) ?_ hne printed
        (replies_append_of_quiet hreplies hquiet)
      rw [frame.strand]
      exact hstrand
  | authenticated accepted hinserted hne printed reading =>
      exact .authenticated accepted hinserted hne printed (reading.step h hundisturbed)
  | unanswered accepted hinserted hne isFull closing =>
      exact .unanswered accepted hinserted hne isFull (closing.step h hundisturbed)
  | rejecting refusal isOpen hstrand hreplies =>
      exact .rejecting refusal (isOpen.kept frame.toKept) (frame.strand.trans hstrand)
        (replies_append_of_quiet hreplies hquiet)
  | rejected refusal printed answered closing =>
      exact .rejected refusal printed answered (closing.step h hundisturbed)

/-- What the message handler does with a first message. -/
theorem GateInv.dispatched {gap : Int64} {r : Reaction} {verdict : Verdict} (isOpen : Open s t)
    (hreplies : replies es = []) (dispatched : Dispatched t gap r verdict)
    (hverdict : (∃ errorCode line, verdict = .reject errorCode line ∧
        Refusal lib message [] errorCode line) ∨ verdict = .register ∧ Accepted lib message) :
    GateInv lib s message full [] (es ++ r.events) r.next := by
  rcases hverdict with ⟨errorCode, line, rfl, refusal⟩ | ⟨rfl, accepted⟩
  · cases dispatched with
    | reject kept hstrand hevents =>
        exact .rejecting refusal (isOpen.kept kept) hstrand
          (replies_append_of_quiet hreplies (by rw [hevents]; rfl))
  · cases dispatched with
    | register kept hstrand hevents =>
        have hfirst : 0 < WebsocketSession.maxSessionIdRetries := by decide
        exact .registering accepted (isOpen.kept kept) hfirst (.inl hstrand)
          (replies_append_of_quiet hreplies (by rw [hevents]; rfl))

/-- The steps of the handler of a first message. -/
theorem GateInv.step (hprints : lib.PrintsUtf8) (hstate : s.state = .unauthenticated)
    (hsid : s.sessionId = []) (halive : t.managerAlive = true) (hgenerates : a.Generates)
    (hfull : ¬ HasRoom t a → full) (inv : GateInv lib s message full rs es t)
    (h : (session lib).step t a fs u) (hundisturbed : Undisturbed t a) :
    GateInv lib s message full (rs ++ a.results) (es ++ fs) u := by
  have hnotClosed : s.state ≠ .closed := by simp [hstate]
  -- a step of another thread leaves the handler where it is
  rcases handler_step_cases h hundisturbed with ⟨frame, hquiet, hother⟩ | ⟨r, hstep, rfl, rfl⟩
  · rw [Action.results_of_other hother, List.append_nil]
    exact inv.framed frame hquiet h hundisturbed
  · cases inv with
    -- the message is read, and parsed in one step
    | received isOpen hstrand hreplies =>
        cases hstep with
        | handleMessage gap logged hstrand' =>
            cases hstrand.symm.trans hstrand'
            exact .dispatched isOpen hreplies
              (dispatched_handleMessage (hundisturbed.quiet gap logged rfl))
              (handshake_verdict_cases (isOpen.state.trans hstate) halive)
        | resume hr => simp [WebsocketSession.resume, hstrand] at hr
        | generated _ hother | emplaced _ hother | rearm _ hother =>
            rw [hstrand] at hother
            cases hother
    -- an id is asked for, then tried
    | registering accepted isOpen hattempt hstrand hreplies =>
        rcases hstrand with hstrand | ⟨sid, hstrand, hne, hutf8⟩
        · cases hstep with
          | generated sid hstrand' =>
              cases hstrand.symm.trans hstrand'
              obtain ⟨hne, hlength⟩ := hgenerates.length
              rw [WebsocketSession.generated, if_neg hne, if_neg (not_lt.mpr hlength)]
              simp only [Action.results, List.append_nil]
              exact .registering accepted (isOpen.kept ⟨⟨rfl, rfl, rfl⟩, rfl, rfl, rfl⟩) hattempt
                (.inr ⟨sid, rfl, hne, hgenerates.isUtf8⟩) hreplies
          | resume hr => simp [WebsocketSession.resume, hstrand] at hr
          | handleMessage _ _ hother | emplaced _ hother | rearm _ hother =>
              rw [hstrand] at hother
              cases hother
        · cases hstep with
          | emplaced result hstrand' =>
              cases hstrand.symm.trans hstrand'
              exact .emplaced accepted isOpen hattempt hne hutf8 hreplies result
          | resume hr => simp [WebsocketSession.resume, hstrand] at hr
          | handleMessage _ _ hother | generated _ hother | rearm _ hother =>
              rw [hstrand] at hother
              cases hother
    -- the id is stored, and the response is put together
    | @inserted _ _ _ sid accepted hinserted isOpen hstrand hne hutf8 hreplies =>
        obtain ⟨rfl, rfl⟩ := hstep.eq_resume (by rw [WebsocketSession.resume, hstrand])
        rw [Action.results_resume, List.append_nil]
        have isOpen' : Open { s with sessionId := sid }
            { t with sessionId := sid, strand := .sendResponse sid } :=
          ⟨⟨isOpen.lastSequenceNumber, isOpen.currentStack, rfl⟩, isOpen.state,
            isOpen.closeRequested, isOpen.reads⟩
        exact .stored accepted hinserted isOpen' rfl hne hutf8 (replies_append_of_quiet hreplies rfl)
    | stored accepted hinserted isOpen hstrand hne hutf8 hreplies =>
        obtain ⟨rfl, rfl⟩ := hstep.eq_resume (by rw [WebsocketSession.resume, hstrand])
        rw [Action.results_resume, List.append_nil]
        obtain ⟨response, printed, sent⟩ :=
          sent_sendResponse hprints (isOpen.isClosing hnotClosed) hutf8
        cases sent with
        | queued kept _ hevents hstrand' =>
            exact .answered accepted hinserted (isOpen.kept kept) hstrand' hne printed
              (replies_append_of_reply hreplies hevents rfl)
        -- the queue is full
        | refused kept isFull hevents hstrand' =>
            refine .unanswered accepted hinserted hne (hfull fun room => ?_)
              ((isOpen.kept kept).closing ?_ (replies_append_of_reply hreplies hevents rfl))
            · exact absurd isFull (not_le.mpr (room rfl (by rw [hstrand]; trivial)))
            · rw [hstrand']
              trivial
    | answered accepted hinserted isOpen hstrand hne printed hreplies =>
        rcases hstrand with hstrand | hstrand <;>
          obtain ⟨rfl, rfl⟩ := hstep.eq_resume (by rw [WebsocketSession.resume, hstrand]) <;>
          rw [Action.results_resume, List.append_nil]
        · exact .answered accepted hinserted (isOpen.kept ⟨⟨rfl, rfl, rfl⟩, rfl, rfl, rfl⟩)
            (.inr rfl) hne printed (replies_append_of_quiet hreplies rfl)
        · exact .authenticated accepted hinserted hne printed ⟨isOpen.lastSequenceNumber,
            isOpen.currentStack, isOpen.sessionId, replies_append_of_quiet hreplies rfl, rfl,
            isOpen.closeRequested, .inl rfl⟩
    -- the error is printed, and the session asked to close
    | rejecting refusal isOpen hstrand hreplies =>
        obtain ⟨rfl, rfl⟩ := hstep.eq_resume (by rw [WebsocketSession.resume, hstrand])
        rw [Action.results_resume, List.append_nil]
        have hnil : t.sessionId = [] := isOpen.sessionId.trans hsid
        obtain ⟨err, printed, sent⟩ := sent_sendProtocolError hprints
          (isOpen.isClosing hnotClosed) (by rw [hnil]; exact isUtf8_nil) refusal.isUtf8.1
          refusal.isUtf8.2 .readGuard
        rw [if_pos hnil] at printed
        obtain ⟨answer, answered, closing⟩ := sent.answered isOpen hreplies (by simp)
          (by rw [hstrand]; trivial) hfull
        exact .rejected refusal printed answered closing
    -- the three ends of the handling, which only go on to the next read
    | authenticated accepted hinserted hne printed reading =>
        rw [hstep.results reading.strand_ne_insert, List.append_nil]
        exact .authenticated accepted hinserted hne printed (reading.step h hundisturbed)
    | unanswered accepted hinserted hne isFull closing =>
        rw [hstep.results closing.strand_ne_insert, List.append_nil]
        exact .unanswered accepted hinserted hne isFull (closing.step h hundisturbed)
    | rejected refusal printed answered closing =>
        rw [hstep.results closing.strand_ne_insert, List.append_nil]
        exact .rejected refusal printed answered (closing.step h hundisturbed)

/-- Without room the reply is refused. -/
theorem GateInv.refused_of_noRoom (hprints : lib.PrintsUtf8) (hstate : s.state = .unauthenticated)
    (hsid : s.sessionId = []) (inv : GateInv lib s message full rs es t)
    (h : (session lib).step t a fs u) (hundisturbed : Undisturbed t a) (hno : ¬ HasRoom t a) :
    ∃ source line, .refused source line ∈ replies fs := by
  have hnotClosed : s.state ≠ .closed := by simp [hstate]
  simp only [HasRoom, Classical.not_imp, not_lt] at hno
  obtain ⟨rfl, hsends, hlength⟩ := hno
  obtain ⟨r, hstep, rfl, rfl⟩ := strandStep_of_step h rfl
  cases inv with
  | stored accepted hinserted isOpen hstrand hne hutf8 =>
      obtain ⟨-, rfl⟩ := hstep.eq_resume (by rw [WebsocketSession.resume, hstrand])
      obtain ⟨response, -, sent⟩ := sent_sendResponse hprints (isOpen.isClosing hnotClosed) hutf8
      cases sent with
      | queued _ room => exact absurd room (not_lt.mpr hlength)
      | refused _ _ hevents =>
          rw [hevents]
          exact ⟨_, _, List.mem_singleton_self _⟩
  | rejecting refusal isOpen hstrand =>
      obtain ⟨-, rfl⟩ := hstep.eq_resume (by rw [WebsocketSession.resume, hstrand])
      have hnil : t.sessionId = [] := isOpen.sessionId.trans hsid
      obtain ⟨err, -, sent⟩ := sent_sendProtocolError hprints (isOpen.isClosing hnotClosed)
        (by rw [hnil]; exact isUtf8_nil) refusal.isUtf8.1 refusal.isUtf8.2 .readGuard
      cases sent with
      | queued _ room => exact absurd room (not_lt.mpr hlength)
      | refused _ _ hevents =>
          rw [hevents]
          exact ⟨_, _, List.mem_singleton_self _⟩
  | received _ hstrand | inserted _ _ _ hstrand =>
      rw [hstrand] at hsends
      exact hsends.elim
  | registering _ _ _ hstrand =>
      rcases hstrand with hstrand | ⟨_, hstrand, -⟩ <;> rw [hstrand] at hsends <;>
        exact hsends.elim
  | answered _ _ _ hstrand =>
      rcases hstrand with hstrand | hstrand <;> rw [hstrand] at hsends <;> exact hsends.elim
  | authenticated _ _ _ _ reading =>
      rcases reading.position with hstrand | hstrand | hstrand <;> rw [hstrand] at hsends <;>
        exact hsends.elim
  | unanswered _ _ _ _ closing => exact absurd hsends closing.not_sends
  | rejected _ _ _ closing => exact absurd hsends closing.not_sends

/-- What the handler of a first message has come to. -/
inductive GateEnd (lib : JsonLib) (s : WebsocketSession) (message : Text) (full : Prop)
    (rs : List EmplaceResult) (es : List Event) (t : WebsocketSession) : Prop
  | authenticated {sid response : Text} (accepted : Accepted lib message) (inserted : Inserted rs)
      (ne : sid ≠ []) (printed : serializeHandshakeResponse lib
        ⟨sid, Config.placeholderSeat, Config.placeholderStack⟩ = .ok response)
      (reading : ReadingInv s.lastSequenceNumber s.currentStack sid
        [.queued .handshakeResponse response] es t)
  | unanswered {sid response : Text} (accepted : Accepted lib message) (inserted : Inserted rs)
      (ne : sid ≠ []) (isFull : full)
      (closing : ClosingInv { s with sessionId := sid } [.refused .handshakeResponse response] es t)
  | rejected {sent : List Event} {errorCode line err : Text}
      (refusal : Refusal lib message rs errorCode line)
      (printed : serializeError lib ⟨errorCode, line, none⟩ = .ok err)
      (answered : Answered full .error err sent) (closing : ClosingInv s sent es t)

theorem GateInv.gateEnd (inv : GateInv lib s message full rs es t) (hidle : t.strand = .idle) :
    GateEnd lib s message full rs es t := by
  cases inv with
  | received _ hstrand | rejecting _ _ hstrand | inserted _ _ _ hstrand | stored _ _ _ hstrand =>
      rw [hidle] at hstrand
      cases hstrand
  | registering _ _ _ hstrand =>
      rw [hidle] at hstrand
      rcases hstrand with hstrand | ⟨_, hstrand, -⟩ <;> cases hstrand
  | answered _ _ _ hstrand =>
      rw [hidle] at hstrand
      rcases hstrand with hstrand | hstrand <;> cases hstrand
  | authenticated accepted hinserted hne printed reading =>
      exact .authenticated accepted hinserted hne printed reading
  | unanswered accepted hinserted hne isFull closing =>
      exact .unanswered accepted hinserted hne isFull closing
  | rejected refusal printed answered closing => exact .rejected refusal printed answered closing

/-- The session was inserted or the message was refused. -/
theorem GateEnd.cases (h : GateEnd lib s message full rs es t) :
    Inserted rs ∨ ∃ errorCode line, Refusal lib message rs errorCode line := by
  cases h with
  | authenticated _ hinserted | unanswered _ hinserted => exact .inl hinserted
  | rejected refusal => exact .inr ⟨_, _, refusal⟩

/-- What was sent was queued, unless the queue was full. -/
theorem GateEnd.queued (h : GateEnd lib s message False rs es t) (source : Source) (line : Text) :
    .refused source line ∉ replies es := by
  intro hmem
  cases h with
  | authenticated _ _ _ _ reading =>
      rw [reading.replies] at hmem
      simp at hmem
  | unanswered _ _ _ isFull => exact isFull
  | rejected _ _ answered closing =>
      rw [closing.replies] at hmem
      cases answered with
      | queued => simp at hmem
      | refused isFull => exact isFull

/-- A session that is about to close is not authenticated by it. -/
theorem ClosingInv.not_authenticated {sent : List Event} (closing : ClosingInv s sent es t)
    (hstate : s.state ≠ .authenticated) : t.state ≠ .authenticated := by
  intro hauthenticated
  rcases closing.state with hsame | hclosed
  · exact hstate (hsame.symm.trans hauthenticated)
  · rw [hauthenticated] at hclosed
    cases hclosed

/-! ## Before the response -/

/-- A HANDSHAKE_RESPONSE has been queued. -/
def Responded (es : List Event) : Prop := ∃ response, .queued .handshakeResponse response ∈ es

theorem Responded.append (h : Responded es) (fs : List Event) : Responded (es ++ fs) :=
  h.imp fun _ hmem => List.mem_append_left _ hmem

/-- Where the strand comes only after the response. -/
def Strand.greeted : Strand → Prop
  | .authenticate _ | .post (.authenticate _) | .sendReload _ _ | .post (.commit _)
  | .commitReload _ => True
  | _ => False

@[simp] theorem After.greeted_strand (after : After) : ¬ after.strand.greeted := by
  cases after <;> exact id

/-- The session has not been greeted. -/
structure Ungreeted (s : WebsocketSession) : Prop where
  state : s.state ≠ .authenticated
  strand : ¬ s.strand.greeted
  handling : ∀ message, s.strand = .checkBurst message → s.state ≠ .closed
  currentStack : s.currentStack = Config.placeholderStack
  lastSequenceNumber : s.lastSequenceNumber = -1

/-- A session that has not been greeted handles nothing but a handshake. -/
theorem Ungreeted.unauthenticated (h : Ungreeted s) (hstrand : s.strand = .checkBurst message) :
    s.state = .unauthenticated := by
  have hopen := h.handling message hstrand
  have hstate := h.state
  cases hcase : s.state with
  | unauthenticated => rfl
  | authenticated => exact absurd hcase hstate
  | closed => exact absurd hcase hopen

theorem Ungreeted.step (h : Transition lib s a fs t) (inv : Ungreeted s) :
    Ungreeted t ∨ Responded fs := by
  have hbusy := inv.strand
  have ⟨hstate, hstrand, hhandling, hstack, hlast⟩ := inv
  cases h with
  | actionAccepted hhandle _ hverdict =>
      have hopen := (WebsocketSession.handle_eq_acceptAction.mp hverdict).1
      exact absurd (inv.unauthenticated hhandle) hopen
  | reloadAccepted hhandle _ hverdict =>
      have hopen := (WebsocketSession.handle_eq_acceptReload.mp hverdict).1
      exact absurd (inv.unauthenticated hhandle) hopen
  | authenticated hat | committed hat =>
      rw [hat] at hbusy
      exact absurd trivial hbusy
  | queuedStart hsends | queuedJoin hsends =>
      cases hsends with
      | response => exact .inr ⟨_, List.mem_singleton_self _⟩
      | error => exact .inl ⟨hstate, id, by simp [Next.strand], hstack, hlast⟩
      | reload hat =>
          rw [hat] at hbusy
          exact absurd trivial hbusy
  | sendRefused hsends =>
      refine .inl ⟨hstate, ?_, ?_, hstack, hlast⟩
      · cases hsends <;> exact id
      · cases hsends <;> simp
  | @posted next hat =>
      rw [hat] at hbusy
      refine .inl ⟨hstate, ?_, ?_, hstack, hlast⟩
      · cases next with
        | authenticate | commit => exact absurd trivial hbusy
        | close | leave => exact id
      · cases next <;> simp [Next.strand]
  | readFailed =>
      refine .inl ⟨by simp, ?_, ?_, hstack, hlast⟩
      · dsimp only
        split <;> exact id
      · dsimp only
        split <;> simp
  | readPassed _ _ hopen => exact .inl ⟨hstate, id, fun _ _ => hopen, hstack, hlast⟩
  | acceptFailed hidle => exact .inl ⟨by simp, hstrand, by simp [hidle], hstack, hlast⟩
  | closeBegun => exact .inl ⟨by simp, id, by simp, hstack, hlast⟩
  | closeClosed | checkBusy | closeSkipped | shutdown =>
      exact .inl ⟨hstate, by simp, by simp, hstack, hlast⟩
  | tick | elapsed | timerFailed | managerDropped | destroyed | deadlineStopped
  | deadlineRewaited | callerStart | callerJoin | callerRefused | callerPosted | closeCalled
  | closeForgotten | closeDispatched | writeAbandoned | writtenLast | armed | accepting
  | acceptDropped | readDropped => exact .inl ⟨hstate, hstrand, hhandling, hstack, hlast⟩
  | _ => exact .inl ⟨hstate, id, by simp, hstack, hlast⟩

/-- The stack and the sequence number keep their initial values until the response. -/
theorem ungreeted_or_responded {now handshakeTimeout : ℤ}
    (run : SessionRun lib now handshakeTimeout as es s) : Ungreeted s ∨ Responded es := by
  refine run.invariant (I := fun s es => Ungreeted s ∨ Responded es) (.inl ?_) ?_
  · exact ⟨by simp [WebsocketSession.construct], id, by simp [WebsocketSession.construct], rfl, rfl⟩
  · intro es s a fs t inv hstep
    rcases inv with inv | responded
    · rcases inv.step (transition_of_step hstep).2 with inv | ⟨response, hmem⟩
      · exact .inl inv
      · exact .inr ⟨response, List.mem_append_right _ hmem⟩
    · exact .inr (responded.append fs)

end Gate

end CppSim.Server
