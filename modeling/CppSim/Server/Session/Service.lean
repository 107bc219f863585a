import CppSim.Server.Session.Registration
import CppSim.Server.Session.Rules

/-!
# A client that keeps the rules is served

The other files follow what goes wrong.  This one follows a client with whom nothing does.

`keeps_rules_served` says that a client that keeps the rules is never refused.  The surroundings
are benign: the transport works, the client is faster than the deadlines and slower than the
limiters, the registry has room, and nobody else closes the session; other threads may send to
the client, as long as they leave room in the write queue.  Then the session never turns to a
close, whatever the interleaving, says no ERROR, and every text that it has read is served when
its handler is over.

A session passes five stages with such a client (`ServiceStage`).  A step of the others leaves
the stage as it is, and each step of the handler leads to the next one.
-/

namespace CppSim.Server

open Protocol

/-! ## The surroundings -/

/-- Which try `register_session` is at. -/
def Strand.attempt : Strand → ℕ
  | .generate attempt | .insert attempt _ => attempt
  | _ => 0

/-- A step in which nothing but the client could be at fault: `gap` is the least that
`max_sequence_gap` is read as. -/
def Benign (gap : ℤ) (s : WebsocketSession) : Action → Prop
  | .onAccept error => error = none
  | .onRead (.failed _) => False
  | .onRead (.message _ window maxMessages _) =>
      (checkRateLimit window maxMessages s.now s.messageTimestamps).2 = false
  | .handleMessage maxSequenceGap _ =>
      (checkSuspiciousActivity s.now s.activity).2 = false ∧ gap ≤ maxSequenceGap.toInt
  | .resume => s.strand.sends → s.writeQueue.length < Config.maxWriteQueueSize
  | .emplaced .maxConnections => False
  | .emplaced .collision => s.strand.attempt + 1 < WebsocketSession.maxSessionIdRetries
  | .onWrite error => error = none
  | .onDeadline result _ => result ≠ .elapsed
  | .close | .dropManager => False
  | _ => True

instance (s : WebsocketSession) : Decidable s.strand.sends :=
  match s.strand with
  | .sendError _ _ _ | .sendReload _ _ | .sendResponse _ => inferInstanceAs (Decidable True)
  | .idle | .checkBurst _ | .post _ | .close _ | .closeCheck _ | .doClose _
  | .doCloseUnregister _ _ | .doCloseShutdown _ _ | .unregister _ | .generate _ | .insert _ _
  | .storeId _ | .authenticate _ | .commitReload _ | .asyncWrite _ | .readGuard | .doRead =>
      inferInstanceAs (Decidable False)

instance (gap : ℤ) (s : WebsocketSession) : (a : Action) → Decidable (Benign gap s a)
  | .onAccept error => inferInstanceAs (Decidable (error = none))
  | .onRead (.message _ window maxMessages _) => inferInstanceAs
      (Decidable ((checkRateLimit window maxMessages s.now s.messageTimestamps).2 = false))
  | .handleMessage maxSequenceGap _ => inferInstanceAs (Decidable
      ((checkSuspiciousActivity s.now s.activity).2 = false ∧ gap ≤ maxSequenceGap.toInt))
  | .resume => inferInstanceAs
      (Decidable (s.strand.sends → s.writeQueue.length < Config.maxWriteQueueSize))
  | .emplaced .collision => inferInstanceAs
      (Decidable (s.strand.attempt + 1 < WebsocketSession.maxSessionIdRetries))
  | .onWrite error => inferInstanceAs (Decidable (error = none))
  | .onDeadline result _ => inferInstanceAs (Decidable (result ≠ .elapsed))
  | .onRead (.failed _) | .emplaced .maxConnections | .close | .dropManager =>
      inferInstanceAs (Decidable False)
  | .tick _ | .elapse | .timerError | .armDeadline | .startAccept | .doWrite | .closeLambda
  | .generated _ | .emplaced (.success _) | .rearm _ | .send _ | .postWrite | .dispatchClose
  | .destroy => inferInstanceAs (Decidable True)

/-- Nobody closes the session, and its registry is there. -/
structure Calm (s : WebsocketSession) : Prop where
  managerAlive : s.managerAlive = true
  closers : s.closers = 0
  postedCloses : s.postedCloses = 0

/-- The strand is between two messages. -/
def Strand.between : Strand → Prop
  | .idle | .readGuard | .doRead | .asyncWrite _ | .post .leave => True
  | _ => False

/-- The strand is in a reload that was accepted. -/
def Strand.reloads : Strand → Prop
  | .sendReload _ _ | .post (.commit _) | .commitReload _ => True
  | _ => False

/-- The text that is being handled has not been served. -/
def Strand.unserved : Strand → ℕ
  | .checkBurst _ | .generate _ | .insert _ _ | .storeId _ | .sendResponse _ | .sendReload _ _ => 1
  | _ => 0

/-- A text has been served: a HANDSHAKE and a RELOAD_REQUEST by their response, an ACTION by
being accepted. -/
def Event.serves : Event → Bool
  | .queued .handshakeResponse _ | .queued (.reloadResponse _ _) _ | .actionAccepted _ _ => true
  | _ => false

/-- The client is told that something is wrong, or would have been. -/
def Event.complains : Event → Bool
  | .queued .error _ => true
  | .refused source _ => source != .caller
  | _ => false

/-- How far a session has come with a client that keeps the rules. -/
inductive ServiceStage (lib : JsonLib) (s : WebsocketSession) (texts : List Text) : Prop
  | waiting (state : s.state = .unauthenticated) (silent : texts = [])
      (last : s.lastSequenceNumber.toInt = -1) (strand : s.strand.between)
  | greeted {message : Text} (state : s.state = .unauthenticated) (first : texts = [message])
      (last : s.lastSequenceNumber.toInt = -1) (strand : s.strand = .checkBurst message)
  | registering {message : Text} (state : s.state = .unauthenticated) (first : texts = [message])
      (accepted : Accepted lib message) (last : s.lastSequenceNumber.toInt = -1)
      (strand : s.strand.handshaking = true)
  | seated (state : s.state = .authenticated) (spoken : texts ≠ [])
      (last : s.lastSequenceNumber.toInt = lastNumber lib texts)
      (strand : s.strand.between ∨ s.strand.reloads)
  | handling {said : List Text} {message : Text} (state : s.state = .authenticated)
      (more : texts = said ++ [message]) (spoken : said ≠ [])
      (last : s.lastSequenceNumber.toInt = lastNumber lib said)
      (strand : s.strand = .checkBurst message)

/-- The session serves its client. -/
structure InService (lib : JsonLib) (s : WebsocketSession) (texts : List Text) (es : List Event) :
    Prop where
  calm : Calm s
  keep : s.closeRequested = false
  stage : ServiceStage lib s texts
  served : es.countP Event.serves + s.strand.unserved = texts.length
  polite : ∀ e ∈ es, e.complains = false

section Steps

variable {lib : JsonLib} {s t : WebsocketSession} {a : Action} {texts : List Text}
  {es fs : List Event} {gap : ℤ} {sid : Text}

theorem InService.isOpen (serving : InService lib s texts es) : s.isClosing = false := by
  refine WebsocketSession.isClosing_eq_false.mpr ⟨?_, serving.keep⟩
  cases serving.stage with
  | waiting state | greeted state | registering state | seated state | handling state =>
      simp [state]

theorem Calm.step (calm : Calm s) (h : Transition lib s a fs t) (benign : Benign gap s a) :
    Calm t := by
  obtain ⟨halive, hclosers, hposted⟩ := calm
  cases h with
  | managerDropped | closeCalled => exact benign.elim
  | closeForgotten hone | closeDispatched hone =>
      rw [hclosers] at hone
      cases hone
  | lambdaBusy _ hone | lambdaIdle _ hone =>
      rw [hposted] at hone
      cases hone
  | _ => exact ⟨halive, hclosers, hposted⟩

/-- The steps of the others neither serve the client nor complain to it. -/
theorem Transition.quiet_of_other (h : Transition lib s a fs t) (hother : a.ofStrand = false) :
    ∀ e ∈ fs, e.serves = false ∧ e.complains = false := by
  intro e hmem
  have hemits := h.emits hmem
  cases hemits with
  | queued | refused | handed | actionAccepted | reloadAccepted | stackCommitted | registered
  | socketClosed | asyncClosed => cases hother
  | callerQueued | callerRefused | written | writeFailed | unregister | timedOut =>
      exact ⟨rfl, rfl⟩

/-- A text is read on an idle strand. -/
theorem readTexts_of_busy (h : (session lib).step s a fs t) (hbusy : s.strand ≠ .idle) :
    readTexts [a] = [] := by
  cases a with
  | onRead result =>
      obtain ⟨r, hr, -⟩ := step_eq_some h
      unfold WebsocketSession.step at hr
      split at hr <;> cases hr
  | _ => rfl

/-- What the session knows of the client stays as it is, and it is still between two messages. -/
structure Between (s t : WebsocketSession) : Prop where
  state : t.state = s.state
  last : t.lastSequenceNumber = s.lastSequenceNumber
  keep : t.closeRequested = s.closeRequested
  strand : t.strand.between

/-- What begins on the strand of an open session. -/
theorem idle_step_cases (h : Transition lib s a fs t) (hidle : s.strand = .idle)
    (hopen : s.isClosing = false) (calm : Calm s) (benign : Benign gap s a) :
    Between s t ∧ readTexts [a] = [] ∨
      ∃ message window maxMessages logged,
        a = .onRead (.message message window maxMessages logged) ∧ t.state = s.state ∧
          t.lastSequenceNumber = s.lastSequenceNumber ∧ t.closeRequested = s.closeRequested ∧
          t.strand = .checkBurst message := by
  obtain ⟨hstate, hkeep⟩ := WebsocketSession.isClosing_eq_false.mp hopen
  have hbetween : s.strand.between := by
    rw [hidle]
    trivial
  cases h with
  | tick | elapsed | timerFailed | armed | accepting | destroyed | writeAbandoned | writtenLast
  | deadlineRewaited | callerStart | callerJoin | callerRefused | callerPosted =>
      exact .inl ⟨⟨rfl, rfl, rfl, hbetween⟩, rfl⟩
  | accepted | writeTaken | writtenMore => exact .inl ⟨⟨rfl, rfl, rfl, trivial⟩, rfl⟩
  | readPassed => exact .inr ⟨_, _, _, _, rfl, rfl, rfl, rfl, rfl⟩
  | managerDropped | closeCalled | readFailed => exact benign.elim
  | acceptFailed | writeFailed => cases benign
  | timedOut => exact absurd rfl benign
  | readLimited _ _ _ hlimit =>
      have hpassed : (checkRateLimit _ _ s.now s.messageTimestamps).2 = false := benign
      rw [hlimit] at hpassed
      cases hpassed
  | acceptDropped _ _ hclosing | deadlineStopped _ _ hclosing => simp [hopen] at hclosing
  | readDropped _ _ hclosed => exact absurd hclosed hstate
  | writtenClosing _ _ hclose => simp [hkeep] at hclose
  | lambdaBusy _ hone | lambdaIdle _ hone | closeForgotten hone | closeDispatched hone =>
      simp [calm.closers, calm.postedCloses] at hone
  | failing hstrand =>
      rw [hidle] at hstrand
      exact hstrand.elim
  | queuedStart hsends | queuedJoin hsends | sendRefused hsends =>
      cases hsends <;> simp_all
  | _ => simp_all

/-- The handler on the strand takes no step when there is none. -/
theorem other_of_idle (h : (session lib).step s a fs t) (hidle : s.strand = .idle) :
    a.ofStrand = false := by
  cases hown : a.ofStrand with
  | false => rfl
  | true =>
      obtain ⟨r, hstep, -⟩ := strandStep_of_step h hown
      cases hstep with
      | resume hresume => simp [WebsocketSession.resume, hidle] at hresume
      | handleMessage _ _ hstrand | generated _ hstrand | emplaced _ hstrand | rearm _ hstrand =>
          simp [hidle] at hstrand

theorem Strand.between.unserved_eq {strand : Strand} (h : strand.between) :
    strand.unserved = 0 := by
  cases strand <;> first | rfl | exact h.elim

theorem Strand.between.handshaking_eq {strand : Strand} (h : strand.between) :
    strand.handshaking = false := by
  cases strand with
  | post next => cases next <;> first | rfl | exact h.elim
  | _ => first | rfl | exact h.elim

theorem countP_serves_of_quiet (hquiet : ∀ e ∈ fs, e.serves = false ∧ e.complains = false) :
    (es ++ fs).countP Event.serves = es.countP Event.serves := by
  have hnone : fs.countP Event.serves = 0 := by
    rw [List.countP_eq_zero]
    exact fun e he => by simp [(hquiet e he).1]
  rw [List.countP_append, hnone, Nat.add_zero]

theorem polite_of_quiet (hpolite : ∀ e ∈ es, e.complains = false)
    (hquiet : ∀ e ∈ fs, e.serves = false ∧ e.complains = false) :
    ∀ e ∈ es ++ fs, e.complains = false := by
  intro e hmem
  rcases List.mem_append.mp hmem with hold | hnew
  · exact hpolite e hold
  · exact (hquiet e hnew).2

/-- A session stays where it is with its client while its strand is between two messages. -/
theorem ServiceStage.between (stage : ServiceStage lib s texts) (between : Between s t)
    (hbetween : s.strand.between) : ServiceStage lib t texts := by
  obtain ⟨hstate, hlast, -, hstrand⟩ := between
  cases stage with
  | waiting state silent last => exact .waiting (hstate.trans state) silent (hlast ▸ last) hstrand
  | seated state spoken last =>
      exact .seated (hstate.trans state) spoken (hlast ▸ last) (.inl hstrand)
  | greeted _ _ _ strand | handling _ _ _ _ strand =>
      rw [strand] at hbetween
      exact hbetween.elim
  | registering _ _ _ _ strand =>
      rw [hbetween.handshaking_eq] at strand
      cases strand

/-- A step on an idle strand. -/
theorem InService.step_of_idle (serving : InService lib s texts es)
    (h : (session lib).step s a fs t) (hidle : s.strand = .idle) (benign : Benign gap s a) :
    InService lib t (texts ++ readTexts [a]) (es ++ fs) := by
  have htransition := (transition_of_step h).2
  have hquiet := htransition.quiet_of_other (other_of_idle h hidle)
  have hbetween : s.strand.between := by
    rw [hidle]
    trivial
  have hserved : es.countP Event.serves = texts.length := by
    have hall := serving.served
    rwa [hidle] at hall
  have calm := serving.calm.step htransition benign
  rcases idle_step_cases htransition hidle serving.isOpen serving.calm benign with
    ⟨between, hnone⟩ | ⟨message, window, maxMessages, logged, rfl, hstate, hlast, hkeep, hstrand⟩
  · rw [hnone, List.append_nil]
    refine ⟨calm, between.keep.trans serving.keep, serving.stage.between between hbetween, ?_,
      polite_of_quiet serving.polite hquiet⟩
    rw [countP_serves_of_quiet hquiet, between.strand.unserved_eq, Nat.add_zero, hserved]
  · refine ⟨calm, hkeep.trans serving.keep, ?_, ?_, polite_of_quiet serving.polite hquiet⟩
    · cases serving.stage with
      | waiting state silent last =>
          subst silent
          exact .greeted (hstate.trans state) rfl (hlast ▸ last) hstrand
      | seated state spoken last =>
          exact .handling (hstate.trans state) rfl spoken (hlast ▸ last) hstrand
      | greeted _ _ _ strand | handling _ _ _ _ strand => simp [hidle] at strand
      | registering _ _ _ _ strand => simp [hidle, Strand.handshaking] at strand
    · rw [countP_serves_of_quiet hquiet, hstrand, hserved, List.length_append]
      rfl

/-- What the handler has found stays as it is in the steps of the others. -/
theorem ServiceStage.frame (stage : ServiceStage lib s texts) (frame : Frame s t) :
    ServiceStage lib t texts := by
  obtain ⟨⟨⟨hlast, -, -⟩, hstate, -, -⟩, hstrand⟩ := frame
  cases stage with
  | waiting state silent last strand =>
      exact .waiting (hstate.trans state) silent (hlast ▸ last) (hstrand ▸ strand)
  | greeted state first last strand =>
      exact .greeted (hstate.trans state) first (hlast ▸ last) (hstrand.trans strand)
  | registering state first accepted last strand =>
      exact .registering (hstate.trans state) first accepted (hlast ▸ last) (hstrand ▸ strand)
  | seated state spoken last strand =>
      exact .seated (hstate.trans state) spoken (hlast ▸ last) (hstrand ▸ strand)
  | handling state more spoken last strand =>
      exact .handling (hstate.trans state) more spoken (hlast ▸ last) (hstrand.trans strand)

/-- A step of the others while a handler runs. -/
theorem InService.step_of_other (serving : InService lib s texts es)
    (h : (session lib).step s a fs t) (hbusy : s.strand ≠ .idle) (hother : a.ofStrand = false)
    (benign : Benign gap s a) : InService lib t (texts ++ readTexts [a]) (es ++ fs) := by
  have htransition := (transition_of_step h).2
  have hquiet := htransition.quiet_of_other hother
  have hundisturbed : Undisturbed s a := by
    refine ⟨hbusy, ?_, ?_⟩
    · rintro rfl
      exact benign.elim
    · rintro gap logged rfl
      cases hother
  obtain ⟨frame, -⟩ := frame_of_step h hundisturbed hother
  rw [readTexts_of_busy h hbusy, List.append_nil]
  refine ⟨serving.calm.step htransition benign, frame.closeRequested.trans serving.keep,
    serving.stage.frame frame, ?_, polite_of_quiet serving.polite hquiet⟩
  rw [countP_serves_of_quiet hquiet, frame.strand]
  exact serving.served

/-! ## The handler -/

/-- What a step of the handler leads to when the client is served. -/
structure Advances (lib : JsonLib) (s : WebsocketSession) (texts : List Text) (r : Reaction) :
    Prop where
  keep : r.next.closeRequested = s.closeRequested
  stage : ServiceStage lib r.next texts
  served : r.events.countP Event.serves + r.next.strand.unserved = s.strand.unserved
  polite : ∀ e ∈ r.events, e.complains = false

variable {r : Reaction} {message : Text}

/-- Between two messages the strand reads on, or hands over what is written. -/
theorem StrandStep.between (h : StrandStep lib s a r) (hopen : s.isClosing = false)
    (hbetween : s.strand.between) :
    Between s r.next ∧ ∀ e ∈ r.events, e.serves = false ∧ e.complains = false := by
  cases hstrand : s.strand with
  | idle =>
      cases h with
      | resume hresume => simp [WebsocketSession.resume, hstrand] at hresume
      | handleMessage _ _ hother | generated _ hother | emplaced _ hother | rearm _ hother =>
          simp [hstrand] at hother
  | readGuard =>
      cases h with
      | resume hresume => simp [WebsocketSession.resume, hstrand] at hresume
      | handleMessage _ _ hother | generated _ hother | emplaced _ hother =>
          simp [hstrand] at hother
      | rearm timeout =>
          have hrearm : s.rearm timeout = { s with
              deadline := s.deadline.expiresAt (s.now + timeout), strand := .doRead } :=
            if_neg (by simp [hopen])
          rw [hrearm]
          exact ⟨⟨rfl, rfl, rfl, trivial⟩, by simp⟩
  | doRead =>
      have hread : s.doRead = { s with strand := .idle, reads := s.reads + 1 } :=
        if_neg (by simp [hopen])
      have hresume : s.resume lib = some ⟨s.doRead, [], []⟩ := by
        simp [WebsocketSession.resume, hstrand]
      obtain ⟨-, rfl⟩ := h.eq_resume hresume
      rw [hread]
      exact ⟨⟨rfl, rfl, rfl, trivial⟩, by simp⟩
  | asyncWrite line =>
      have hresume : s.resume lib =
          some ⟨{ s with strand := .idle, writes := s.writes ++ [line] }, [.handed line], []⟩ := by
        simp [WebsocketSession.resume, hstrand]
      obtain ⟨-, rfl⟩ := h.eq_resume hresume
      exact ⟨⟨rfl, rfl, rfl, trivial⟩, by simp [Event.serves, Event.complains]⟩
  | post next =>
      rw [hstrand] at hbetween
      cases next with
      | leave =>
          have hresume : s.resume lib =
              some ⟨{ s with strand := .idle, postedWrites := s.postedWrites + 1 }, [], []⟩ := by
            simp [WebsocketSession.resume, hstrand, Next.strand]
          obtain ⟨-, rfl⟩ := h.eq_resume hresume
          exact ⟨⟨rfl, rfl, rfl, trivial⟩, by simp⟩
      | close | authenticate | commit => exact hbetween.elim
  | _ =>
      rw [hstrand] at hbetween
      exact hbetween.elim

theorem StrandStep.advances_of_between (h : StrandStep lib s a r) (hopen : s.isClosing = false)
    (stage : ServiceStage lib s texts) (hbetween : s.strand.between) : Advances lib s texts r := by
  obtain ⟨between, hquiet⟩ := h.between hopen hbetween
  refine ⟨between.keep, stage.between between hbetween, ?_, fun e hmem => (hquiet e hmem).2⟩
  have hnone : r.events.countP Event.serves = 0 :=
    List.countP_eq_zero.mpr fun e hmem => by simp [(hquiet e hmem).1]
  rw [hnone, between.strand.unserved_eq, hbetween.unserved_eq]

/-- A strand that holds a message handles it. -/
theorem StrandStep.eq_handleMessage (h : StrandStep lib s a r)
    (hstrand : s.strand = .checkBurst message) :
    ∃ maxGap logged, a = .handleMessage maxGap logged ∧
      r = s.handleMessage lib message maxGap logged := by
  cases h with
  | resume hresume => simp [WebsocketSession.resume, hstrand] at hresume
  | generated _ hother | emplaced _ hother | rearm _ hother => simp [hstrand] at hother
  | handleMessage maxGap logged hother =>
      rw [hstrand] at hother
      cases hother
      exact ⟨maxGap, logged, rfl, rfl⟩

/-- The first message of the client is accepted. -/
theorem StrandStep.advances_of_greeted (h : StrandStep lib s a r) (calm : Calm s)
    (benign : Benign gap s a) (rules : KeepsRules lib sid gap [message])
    (hstate : s.state = .unauthenticated) (hlast : s.lastSequenceNumber.toInt = -1)
    (hstrand : s.strand = .checkBurst message) : Advances lib s [message] r := by
  have accepted : Accepted lib message := by
    have hrules : KeepsRules lib sid gap ([] ++ [message]) := rules
    rcases hrules.concat_cases with ⟨-, accepted⟩ | ⟨-, hspoken, -⟩
    · exact accepted
    · exact absurd rfl hspoken
  obtain ⟨maxGap, logged, rfl, rfl⟩ := h.eq_handleMessage hstrand
  have hverdict : (s.handle lib message maxGap logged).verdict = .register :=
    verdict_of_handshake hstate calm.managerAlive accepted
  have dispatched : Dispatched s maxGap (s.handleMessage lib message maxGap logged)
      (s.handle lib message maxGap logged).verdict :=
    dispatched_handleMessage benign.1
  rw [hverdict] at dispatched
  cases dispatched with
  | register kept strand events =>
      refine ⟨kept.closeRequested, .registering (kept.state.trans hstate) rfl accepted
        (kept.lastSequenceNumber ▸ hlast) (by rw [strand]; rfl), ?_, by simp [events]⟩
      rw [events, strand, hstrand]
      rfl

/-- A later message of the client is accepted. -/
theorem StrandStep.advances_of_handling {said : List Text} (h : StrandStep lib s a r)
    (hgap : 0 ≤ gap) (benign : Benign gap s a) (rules : KeepsRules lib sid gap (said ++ [message]))
    (hspoken : said ≠ []) (hsid : s.sessionId = sid) (hstate : s.state = .authenticated)
    (hlast : s.lastSequenceNumber.toInt = lastNumber lib said)
    (hstrand : s.strand = .checkBurst message) : Advances lib s (said ++ [message]) r := by
  obtain ⟨maxGap, logged, rfl, rfl⟩ := h.eq_handleMessage hstrand
  obtain ⟨hquiet, hle⟩ := benign
  have dispatched : Dispatched s maxGap (s.handleMessage lib message maxGap logged)
      (s.handle lib message maxGap logged).verdict :=
    dispatched_handleMessage hquiet
  rcases rules.concat_cases with ⟨hsilent, -⟩ | ⟨-, -, ⟨m, hparsed, hown, haccepts⟩ | hreload⟩
  · exact absurd hsilent hspoken
  · have hfollows : AntiReplay.Accepts s.lastSequenceNumber.toInt m.sequenceNumber.toInt
        maxGap.toInt := by
      rw [hlast]
      exact ⟨haccepts.1, haccepts.2.trans (Int.add_le_add_left hle _)⟩
    have hverdict : (s.handle lib message maxGap logged).verdict =
        .acceptAction m.sequenceNumber :=
      verdict_of_action hstate hparsed (hown.trans hsid.symm) (hgap.trans hle) hfollows
    rw [hverdict] at dispatched
    cases dispatched with
    | acceptAction kept strand events =>
        refine ⟨kept.closeRequested, .seated (kept.state.trans hstate) (by simp) ?_
          (.inl (by rw [strand]; trivial)), ?_, by simp [events, Event.complains]⟩
        · rw [kept.lastSequenceNumber, lastNumber_concat, hparsed]
          rfl
        · rw [events, strand, hstrand]
          rfl
  · obtain ⟨m, hparsed, hown⟩ := hreload
    have hverdict : (s.handle lib message maxGap logged).verdict =
        .acceptReload m.requestedAmount :=
      verdict_of_reload hstate hparsed (hown.trans hsid.symm)
    rw [hverdict] at dispatched
    cases dispatched with
    | acceptReload kept strand events =>
        refine ⟨kept.closeRequested, .seated (kept.state.trans hstate) (by simp) ?_
          (.inr (by rw [strand]; trivial)), ?_, by simp [events, Event.complains]⟩
        · rw [kept.lastSequenceNumber, lastNumber_reload hparsed]
          exact hlast
        · rw [events, strand, hstrand]
          rfl

/-- The first reply of the session is queued, and the client is let in. -/
theorem StrandStep.advances_of_registering (hprints : lib.PrintsUtf8) (h : StrandStep lib s a r)
    (hopen : s.isClosing = false) (ids : IdsHold IsUtf8 s) (generates : a.Generates)
    (benign : Benign gap s a) (accepted : Accepted lib message)
    (hstate : s.state = .unauthenticated) (hlast : s.lastSequenceNumber.toInt = -1)
    (hhandshaking : s.strand.handshaking = true) :
    Advances lib s [message] r := by
  cases hstrand : s.strand with
  | generate attempt =>
      cases h with
      | resume hresume => simp [WebsocketSession.resume, hstrand] at hresume
      | handleMessage _ _ hother | emplaced _ hother | rearm _ hother => simp [hstrand] at hother
      | generated newSessionId =>
          obtain ⟨hne, hle⟩ := Action.Generates.length generates
          have hgenerated (n : ℕ) : s.generated n newSessionId =
              ⟨{ s with strand := .insert n newSessionId }, [], []⟩ := by
            simp [WebsocketSession.generated, hne, Nat.not_lt.mpr hle]
          rw [hgenerated]
          exact ⟨rfl, .registering hstate rfl accepted hlast rfl, by rw [hstrand]; rfl, by simp⟩
  | insert attempt newSessionId =>
      cases h with
      | resume hresume => simp [WebsocketSession.resume, hstrand] at hresume
      | handleMessage _ _ hother | generated _ hother | rearm _ hother => simp [hstrand] at hother
      | emplaced result hother =>
          rw [hstrand] at hother
          cases hother
          cases result with
          | maxConnections => exact benign.elim
          | collision =>
              have hretries : s.strand.attempt + 1 < WebsocketSession.maxSessionIdRetries := benign
              rw [hstrand] at hretries
              simp only [WebsocketSession.emplaced, if_pos (show attempt + 1 < _ from hretries)]
              exact ⟨rfl, .registering hstate rfl accepted hlast rfl, by rw [hstrand]; rfl, by simp⟩
          | success count =>
              exact ⟨rfl, .registering hstate rfl accepted hlast rfl, by rw [hstrand]; rfl,
                by simp [WebsocketSession.emplaced, Event.complains]⟩
  | storeId newSessionId =>
      have hresume : s.resume lib = some ⟨{ s with
          sessionId := newSessionId, strand := .sendResponse newSessionId }, [], []⟩ := by
        simp [WebsocketSession.resume, hstrand]
      obtain ⟨-, rfl⟩ := h.eq_resume hresume
      exact ⟨rfl, .registering hstate rfl accepted hlast rfl, by rw [hstrand]; rfl, by simp⟩
  | sendResponse newSessionId =>
      have hresume : s.resume lib = some (s.sendResponse lib newSessionId) := by
        simp [WebsocketSession.resume, hstrand]
      obtain ⟨rfl, rfl⟩ := h.eq_resume hresume
      have hroom : s.writeQueue.length < Config.maxWriteQueueSize :=
        benign (by rw [hstrand]; trivial)
      obtain ⟨response, -, sent⟩ := sent_sendResponse hprints hopen
        (ids.heldId newSessionId (by rw [hstrand]; rfl))
      cases sent with
      | refused _ full => exact absurd full (Nat.not_le.mpr hroom)
      | queued kept _ events strand =>
          have hnext : (s.sendResponse lib newSessionId).next.strand.handshaking = true ∧
              (s.sendResponse lib newSessionId).next.strand.unserved = 0 := by
            rcases strand with strand | strand <;> rw [strand] <;> exact ⟨rfl, rfl⟩
          refine ⟨kept.closeRequested, .registering (kept.state.trans hstate) rfl accepted
            (kept.lastSequenceNumber ▸ hlast) hnext.1, ?_, by simp [events, Event.complains]⟩
          rw [events, hnext.2, hstrand]
          rfl
  | post next =>
      rw [hstrand] at hhandshaking
      cases next with
      | authenticate newSessionId =>
          have hresume : s.resume lib =
              some ⟨{ s with strand := .authenticate newSessionId,
                             postedWrites := s.postedWrites + 1 }, [], []⟩ := by
            simp [WebsocketSession.resume, hstrand, Next.strand]
          obtain ⟨-, rfl⟩ := h.eq_resume hresume
          exact ⟨rfl, .registering hstate rfl accepted hlast rfl, by rw [hstrand]; rfl, by simp⟩
      | close | commit | leave => cases hhandshaking
  | authenticate newSessionId =>
      have hresume : s.resume lib = some (s.authenticate newSessionId) := by
        simp [WebsocketSession.resume, hstrand]
      obtain ⟨-, rfl⟩ := h.eq_resume hresume
      have hsame := lastNumber_handshake accepted
      exact ⟨rfl, .seated rfl (by simp) (hlast.trans hsame.symm) (.inl trivial),
        by rw [hstrand]; rfl, by simp [WebsocketSession.authenticate]⟩
  | _ =>
      rw [hstrand] at hhandshaking
      cases hhandshaking

/-- A reload that was accepted is answered and stored. -/
theorem StrandStep.advances_of_reloads (hprints : lib.PrintsUtf8) (h : StrandStep lib s a r)
    (hopen : s.isClosing = false) (benign : Benign gap s a) (hstate : s.state = .authenticated)
    (hspoken : texts ≠ []) (hlast : s.lastSequenceNumber.toInt = lastNumber lib texts)
    (hreloads : s.strand.reloads) : Advances lib s texts r := by
  cases hstrand : s.strand with
  | sendReload requestedAmount newStack =>
      have hresume : s.resume lib = some (s.sendReload lib requestedAmount newStack) := by
        simp [WebsocketSession.resume, hstrand]
      obtain ⟨rfl, rfl⟩ := h.eq_resume hresume
      have hroom : s.writeQueue.length < Config.maxWriteQueueSize :=
        benign (by rw [hstrand]; trivial)
      obtain ⟨response, -, sent⟩ := sent_sendReload hprints hopen requestedAmount newStack
      cases sent with
      | refused _ full => exact absurd full (Nat.not_le.mpr hroom)
      | queued kept _ events strand =>
          have hnext : (s.sendReload lib requestedAmount newStack).next.strand.reloads ∧
              (s.sendReload lib requestedAmount newStack).next.strand.unserved = 0 := by
            rcases strand with strand | strand <;> rw [strand] <;> exact ⟨trivial, rfl⟩
          refine ⟨kept.closeRequested, .seated (kept.state.trans hstate) hspoken
            (kept.lastSequenceNumber ▸ hlast) (.inr hnext.1), ?_, by simp [events, Event.complains]⟩
          rw [events, hnext.2, hstrand]
          rfl
  | post next =>
      rw [hstrand] at hreloads
      cases next with
      | commit newStack =>
          have hresume : s.resume lib =
              some ⟨{ s with strand := .commitReload newStack,
                             postedWrites := s.postedWrites + 1 }, [], []⟩ := by
            simp [WebsocketSession.resume, hstrand, Next.strand]
          obtain ⟨-, rfl⟩ := h.eq_resume hresume
          exact ⟨rfl, .seated hstate hspoken hlast (.inr trivial), by rw [hstrand]; rfl, by simp⟩
      | close | authenticate | leave => exact hreloads.elim
  | commitReload newStack =>
      have hresume : s.resume lib = some ⟨{ s with currentStack := newStack, strand := .readGuard },
          [.stackCommitted newStack], []⟩ := by
        simp [WebsocketSession.resume, hstrand]
      obtain ⟨-, rfl⟩ := h.eq_resume hresume
      exact ⟨rfl, .seated hstate hspoken hlast (.inl trivial), by rw [hstrand]; rfl,
        by simp [Event.complains]⟩
  | _ =>
      rw [hstrand] at hreloads
      exact hreloads.elim

/-- A step of the handler serves the client. -/
theorem InService.step_of_strand (hprints : lib.PrintsUtf8) (hgap : 0 ≤ gap)
    (serving : InService lib s texts es) (ids : IdsHold IsUtf8 s)
    (rules : KeepsRules lib sid gap texts)
    (hsid : ∀ message, s.state = .authenticated → s.strand = .checkBurst message →
      s.sessionId = sid)
    (h : (session lib).step s a fs t) (hbusy : s.strand ≠ .idle) (hown : a.ofStrand = true)
    (generates : a.Generates) (benign : Benign gap s a) :
    InService lib t (texts ++ readTexts [a]) (es ++ fs) := by
  have calm := serving.calm.step (transition_of_step h).2 benign
  rw [readTexts_of_busy h hbusy, List.append_nil]
  obtain ⟨r, hstep, rfl, rfl⟩ := strandStep_of_step h hown
  have hopen := serving.isOpen
  have advances : Advances lib s texts r := by
    cases serving.stage with
    | waiting _ _ _ hbetween => exact hstep.advances_of_between hopen serving.stage hbetween
    | greeted hstate hfirst hlast hstrand =>
        subst hfirst
        exact hstep.advances_of_greeted serving.calm benign rules hstate hlast hstrand
    | registering hstate hfirst accepted hlast hstrand =>
        subst hfirst
        exact hstep.advances_of_registering hprints hopen ids generates benign accepted hstate
          hlast hstrand
    | seated hstate hspoken hlast hstrand =>
        rcases hstrand with hbetween | hreloads
        · exact hstep.advances_of_between hopen serving.stage hbetween
        · exact hstep.advances_of_reloads hprints hopen benign hstate hspoken hlast hreloads
    | handling hstate hmore hspoken hlast hstrand =>
        subst hmore
        exact hstep.advances_of_handling hgap benign rules hspoken (hsid _ hstate hstrand) hstate
          hlast hstrand
  obtain ⟨hkeep, stage, hserved, hpolite⟩ := advances
  refine ⟨calm, hkeep.trans serving.keep, stage, ?_, ?_⟩
  · calc (es ++ r.events).countP Event.serves + r.next.strand.unserved
        = es.countP Event.serves + (r.events.countP Event.serves + r.next.strand.unserved) := by
          rw [List.countP_append, Nat.add_assoc]
      _ = es.countP Event.serves + s.strand.unserved := by rw [hserved]
      _ = texts.length := serving.served
  · intro e hmem
    rcases List.mem_append.mp hmem with hold | hnew
    · exact serving.polite e hold
    · exact hpolite e hnew

end Steps

/-! ## Runs -/

section Runs

variable {lib : JsonLib} {sid message : Text} {gap now handshakeTimeout : ℤ} {s : WebsocketSession}
  {a : Action} {as : List Action} {es : List Event} {said : List Text}

/-- A client that keeps the rules has kept them all the time. -/
theorem KeepsRules.before (h : KeepsRules lib sid gap (said ++ readTexts [a])) :
    KeepsRules lib sid gap said := by
  have htexts : readTexts [a] = [] ∨ ∃ message, readTexts [a] = [message] := by
    cases a with
    | onRead result =>
        cases result with
        | failed => exact .inl rfl
        | message message => exact .inr ⟨message, rfl⟩
    | _ => exact .inl rfl
  rcases htexts with hnone | ⟨message, hone⟩
  · rwa [hnone, List.append_nil] at h
  · rw [hone] at h
    rcases h.concat_cases with ⟨rfl, -⟩ | ⟨before, -⟩
    · exact .silent
    · exact before

/-- A session that handles a later message holds the id it was registered under. -/
theorem Registration.registered_of_handling (inv : Registration s es)
    (hstate : s.state = .authenticated) (hstrand : s.strand = .checkBurst message) :
    .registered s.sessionId ∈ es := by
  cases inv with
  | fresh _ _ hnot => exact absurd hstate hnot
  | @held newSessionId hregs _ hcarries =>
      rw [hstrand] at hcarries
      obtain rfl : s.sessionId = newSessionId := hcarries
      rw [← mem_registrations, hregs]
      exact List.mem_singleton_self _

theorem inService_construct :
    InService lib (.construct now handshakeTimeout) [] [] where
  calm := ⟨rfl, rfl, rfl⟩
  keep := rfl
  stage := .waiting rfl rfl rfl trivial
  served := rfl
  polite := by simp

/-- In benign surroundings a session serves a client that keeps the rules. -/
theorem inService_of_run (hprints : lib.PrintsUtf8) (hgap : 0 ≤ gap)
    (run : ((session lib).restrict (Benign gap)).Run (.construct now handshakeTimeout) as es s)
    (hgenerates : ∀ a ∈ as, a.Generates) (rules : KeepsRules lib sid gap (readTexts as))
    (hsid : ∀ newSessionId, .registered newSessionId ∈ es → newSessionId = sid) :
    InService lib s (readTexts as) es := by
  induction run with
  | refl => exact inService_construct
  | @tail s t as a es fs run h ih =>
      obtain ⟨benign, hstep⟩ := h
      have hbefore : ∀ a ∈ as, a.Generates := fun a ha =>
        hgenerates a (List.mem_append_left _ ha)
      have generates : a.Generates :=
        hgenerates a (List.mem_append_right _ (List.mem_singleton_self a))
      rw [readTexts_concat] at rules ⊢
      have serving := ih hbefore rules.before fun newSessionId hmem =>
        hsid newSessionId (List.mem_append_left _ hmem)
      by_cases hidle : s.strand = .idle
      · exact serving.step_of_idle hstep hidle benign
      · cases hown : a.ofStrand with
        | false => exact serving.step_of_other hstep hidle hown benign
        | true =>
            have ids : IdsHold IsUtf8 s := idsHold_of_run isUtf8_nil
              (fun _ => Action.Generates.isUtf8) run.of_restrict hbefore
            refine serving.step_of_strand hprints hgap ids rules.before ?_ hstep hidle hown
              generates benign
            intro message hstate hstrand
            have hmem := (registration_of_run run.of_restrict).registered_of_handling hstate hstrand
            exact hsid _ (List.mem_append_left _ hmem)

/-- Nothing is left of a text that was read when the strand is idle. -/
theorem ServiceStage.of_idle {texts : List Text} (stage : ServiceStage lib s texts)
    (hidle : s.strand = .idle) :
    s.lastSequenceNumber.toInt = lastNumber lib texts ∧
      (s.state = .authenticated ↔ texts ≠ []) := by
  cases stage with
  | waiting hstate hsilent hlast =>
      subst hsilent
      exact ⟨hlast, by simp [hstate]⟩
  | seated hstate hspoken hlast => exact ⟨hlast, by simp [hstate, hspoken]⟩
  | greeted _ _ _ hstrand | handling _ _ _ _ hstrand => simp [hidle] at hstrand
  | registering _ _ _ _ hstrand => simp [hidle, Strand.handshaking] at hstrand

end Runs

/-- A client that keeps the rules in benign surroundings is never refused: the session is open and
has said no ERROR, all texts but the one that is being handled are served, and when none is being
handled the client is let in and the last number is its own. -/
theorem keeps_rules_served {lib : JsonLib} {sid : Text} {gap now handshakeTimeout : ℤ}
    {s : WebsocketSession} {as : List Action} {es : List Event} (hprints : lib.PrintsUtf8)
    (hgap : 0 ≤ gap)
    (run : ((session lib).restrict (Benign gap)).Run (.construct now handshakeTimeout) as es s)
    (hgenerates : ∀ a ∈ as, a.Generates) (rules : KeepsRules lib sid gap (readTexts as))
    (hsid : ∀ newSessionId, .registered newSessionId ∈ es → newSessionId = sid) :
    s.isClosing = false ∧ (∀ e ∈ es, e.complains = false) ∧
      es.countP Event.serves + s.strand.unserved = (readTexts as).length ∧
      (s.strand = .idle → es.countP Event.serves = (readTexts as).length ∧
        s.lastSequenceNumber.toInt = lastNumber lib (readTexts as) ∧
        (s.state = .authenticated ↔ readTexts as ≠ [])) := by
  have serving := inService_of_run hprints hgap run hgenerates rules hsid
  refine ⟨serving.isOpen, serving.polite, serving.served, fun hidle => ?_⟩
  refine ⟨?_, serving.stage.of_idle hidle⟩
  have hserved := serving.served
  rwa [hidle] at hserved

/-! ## A client that folds and reloads -/

/-- The id of the sample session. -/
def servedSid : Text := generateSessionId 1 0

/-- What the client sends. -/
def servedTexts : List Text :=
  [handshakeEnvelope.print 4, (foldEnvelope servedSid 7).print 4,
    (reloadEnvelope servedSid 500).print 4]

def servedLib : JsonLib :=
  .knowing [handshakeEnvelope, foldEnvelope servedSid 7, reloadEnvelope servedSid 500]

/-- Another thread greets the client between its messages. -/
def servedActions : List Action :=
  connectActions servedSid ++
    [.send (text "welcome"),
      .onRead (.message ((foldEnvelope servedSid 7).print 4) (seconds 1) 10 10),
      .handleMessage 10000 10000, .rearm (seconds 86400), .resume,
      .onRead (.message ((reloadEnvelope servedSid 500).print 4) (seconds 1) 10 10),
      .handleMessage 10000 10000, .resume, .resume, .rearm (seconds 86400), .resume]

def servedRun : WebsocketSession × List Event :=
  (Machine.exec (Machine.guarded (Benign 100) (sessionStep servedLib)) (.construct 0 (seconds 10))
    servedActions).get (by decide +kernel)

theorem keepsRules_servedTexts : KeepsRules servedLib servedSid 100 servedTexts := by
  have accepted : Accepted servedLib (handshakeEnvelope.print 4) :=
    ⟨⟨protocolVersion, none⟩, by decide +kernel, rfl⟩
  have hfold : (parseAction servedLib ((foldEnvelope servedSid 7).print 4)).value =
      some ⟨servedSid, ActionType.fold, none, 7⟩ := by decide +kernel
  have hreload : (parseReloadRequest servedLib ((reloadEnvelope servedSid 500).print 4)).value =
      some ⟨servedSid, 500⟩ := by decide +kernel
  have greeting : KeepsRules servedLib servedSid 100 [handshakeEnvelope.print 4] :=
    .greeting accepted
  have acting := greeting.acting (by simp) hfold rfl ⟨by decide +kernel, by decide +kernel⟩
  exact acting.reloading (by simp) hreload rfl

theorem keeps_rules_served_folding :
    servedRun.1.isClosing = false ∧ servedRun.2.countP Event.serves = 3 ∧
      servedRun.1.lastSequenceNumber.toInt = 7 := by
  have run : ((session servedLib).restrict (Benign 100)).Run (.construct 0 (seconds 10))
      servedActions servedRun.2 servedRun.1 := Machine.run_restrict_get _
  have hgenerates : ∀ a ∈ servedActions, a.Generates := by
    simp only [servedActions, connectActions, List.cons_append, List.nil_append,
      List.forall_mem_cons, Action.Generates, true_and]
    exact ⟨.inl ⟨1, 0, rfl⟩, by simp⟩
  have hregistered : ∀ newSessionId, .registered newSessionId ∈ servedRun.2 →
      newSessionId = servedSid := by
    intro newSessionId hmem
    have hregistrations : registrations servedRun.2 = [servedSid] := by decide +kernel
    have hmem' := mem_registrations.mpr hmem
    rw [hregistrations] at hmem'
    exact List.mem_singleton.mp hmem'
  obtain ⟨hopen, -, -, hidle⟩ := keeps_rules_served (JsonLib.printsUtf8_knowing _) (by decide) run
    hgenerates keepsRules_servedTexts hregistered
  obtain ⟨hserved, hlast, -⟩ := hidle (by decide +kernel)
  exact ⟨hopen, hserved, hlast.trans (by decide +kernel)⟩

end CppSim.Server
