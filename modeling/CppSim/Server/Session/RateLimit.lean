import CppSim.Server.Session.Control

/-!
# The rate limiter of a session

`limited` is the machine of a session seen by its rate limiter: a step emits the message
that it asks the limiter about, with the time and the verdict, and nothing else.  As long
as the limits are the same for all of them, `rateLimiter_exact` compares the verdicts with
the messages admitted before.

* The timestamps a session keeps are those of the sliding-window limiter after the same
  arrivals (`LimiterInv.timestamps`), so that its decisions are decisions about the whole
  history.
* A rejection is the end: the handler goes on to request a close, and nobody is left to
  read another message (`LimiterInv.rejected`).
-/

namespace CppSim.Server

open Protocol

/-! ## What the limiter sees -/

/-- A message that the limiter is asked about. -/
structure Arrival where
  time : ℤ
  admitted : Bool
  deriving DecidableEq

/-- The message of a step into `t` that the limiter is asked about.  One that is admitted goes
on to the burst detector. -/
def WebsocketSession.arrivals (s t : WebsocketSession) : Action → List Arrival
  | .onRead (.message message _ _ _) =>
      if s.state = .closed then [] else [⟨s.now, t.strand == .checkBurst message⟩]
  | _ => []

/-- The step of a session as its limiter sees it. -/
def limitedStep (lib : JsonLib) (s : WebsocketSession) (a : Action) :
    Option (WebsocketSession × List Arrival) :=
  (sessionStep lib s a).map fun r => (r.1, s.arrivals r.1 a)

/-- A session as its limiter sees it. -/
def limited (lib : JsonLib) : Machine WebsocketSession Action Arrival :=
  Machine.ofStep (limitedStep lib)

/-- The limiter sees every run of the session. -/
theorem limited_run_iff {lib : JsonLib} {s t : WebsocketSession} {as : List Action} :
    (∃ messages, (limited lib).Run s as messages t) ↔ ∃ es, (session lib).Run s as es t := by
  constructor
  · rintro ⟨messages, run⟩
    induction run with
    | refl => exact ⟨_, .refl _⟩
    | tail _ h ih =>
        obtain ⟨es, run⟩ := ih
        obtain ⟨⟨u, es'⟩, hstep, hnext⟩ := Option.map_eq_some_iff.mp h
        cases hnext
        exact ⟨_, run.tail hstep⟩
  · rintro ⟨es, run⟩
    induction run with
    | refl => exact ⟨_, .refl _⟩
    | tail _ h ih =>
        obtain ⟨messages, run⟩ := ih
        exact ⟨_, run.tail (Option.map_eq_some_iff.mpr ⟨_, h, rfl⟩)⟩

/-- The handler on the strand is about to request a close. -/
def Strand.requestsClose : Strand → Bool
  | .sendError _ _ _ | .post (.close _) | .close _ => true
  | _ => false

/-- What the limiter reads of the configuration. -/
def Action.ReadsLimits (window : ℤ) (maxMessages : ℕ) : Action → Prop
  | .onRead (.message _ rateLimitWindow limit _) => rateLimitWindow = window ∧ limit = maxMessages
  | _ => True

/-- The limiter is exact on these messages, which leave the session as it is. -/
structure LimitsExactly (window : ℤ) (maxMessages : ℕ) (messages : List Arrival)
    (s : WebsocketSession) : Prop where
  exact : ∀ before m after, messages = before ++ m :: after →
    (m.admitted = true ↔
      before.countP (fun j => j.admitted ∧ m.time - window ≤ j.time) < maxMessages)
  bounded : ∀ start,
    messages.countP (fun m => m.admitted ∧ start ≤ m.time ∧ m.time ≤ start + window) ≤ maxMessages
  kept : s.messageTimestamps.length ≤ maxMessages
  /-- A client that keeps to the limit is not rejected. -/
  moderate : (∀ start, messages.countP (fun m => start ≤ m.time ∧ m.time ≤ start + window) ≤
    maxMessages) → ∀ m ∈ messages, m.admitted = true
  /-- The handler of a rejected message requests a close, and no message follows it. -/
  rejected : ∀ before m after, messages = before ++ m :: after → m.admitted = false →
    after = [] ∧ (s.closeRequested = true ∨ s.strand.requestsClose = true)

/-! ## The messages and the sliding window -/

section Messages

variable {window : ℤ} {maxMessages : ℕ} {messages : List Arrival}

/-- The times of the messages that were admitted. -/
def admittedTimes (messages : List Arrival) : List ℤ :=
  (messages.filter Arrival.admitted).map Arrival.time

/-- Each message was decided as the sliding-window limiter decides it. -/
def Decided (window : ℤ) (maxMessages : ℕ) (messages : List Arrival) : Prop :=
  ∀ before m after, messages = before ++ m :: after →
    (m.admitted = true ↔
      SlidingWindow.Admits window maxMessages (before.map Arrival.time) m.time)

theorem countP_admittedTimes (p : ℤ → Prop) [DecidablePred p] :
    (admittedTimes messages).countP (fun t => p t) =
      messages.countP (fun m => m.admitted ∧ p m.time) := by
  rw [admittedTimes, List.countP_map, List.countP_filter]
  apply List.countP_congr
  intro m _
  simp [and_comm]

theorem Decided.of_snoc {last : Arrival} (h : Decided window maxMessages (messages ++ [last])) :
    Decided window maxMessages messages := by
  intro before m after hsplit
  exact h before m (after ++ [last]) (by rw [hsplit]; simp)

/-- The admitted messages are those the sliding-window limiter admits. -/
theorem Decided.admittedTimes_eq (h : Decided window maxMessages messages) :
    admittedTimes messages =
      SlidingWindow.admitted window maxMessages (messages.map Arrival.time) := by
  induction messages using List.reverseRecOn with
  | nil => rfl
  | append_singleton messages last ih =>
      have hlast := h messages last [] rfl
      rw [List.map_append, List.map_singleton]
      cases hadmitted : last.admitted with
      | true =>
          rw [SlidingWindow.admitted_snoc_of_admits (hlast.mp hadmitted), ← ih h.of_snoc]
          simp [admittedTimes, hadmitted]
      | false =>
          have hrejects : ¬SlidingWindow.Admits window maxMessages
              (messages.map Arrival.time) last.time := by
            rw [← hlast, hadmitted]
            simp
          rw [SlidingWindow.admitted_snoc_of_not_admits hrejects, ← ih h.of_snoc]
          simp [admittedTimes, hadmitted]

/-- The decision on a message counts the messages admitted before. -/
theorem Decided.admitted_iff (h : Decided window maxMessages messages)
    (hsorted : (messages.map Arrival.time).Pairwise (· ≤ ·)) {before after : List Arrival}
    {m : Arrival} (hsplit : messages = before ++ m :: after) :
    m.admitted = true ↔
      before.countP (fun j => j.admitted ∧ m.time - window ≤ j.time) < maxMessages := by
  have hbefore : Decided window maxMessages before := by
    intro before' m' after' hsplit'
    exact h before' m' (after' ++ m :: after) (by rw [hsplit, hsplit']; simp)
  have hinit : (before.map Arrival.time ++ [m.time]).Pairwise (· ≤ ·) := by
    rw [hsplit] at hsorted
    refine hsorted.sublist ?_
    rw [List.map_append, List.map_cons]
    exact List.Sublist.append_left (List.cons_sublist_cons.mpr (List.nil_sublist _)) _
  rw [h before m after hsplit, SlidingWindow.admits_iff hinit, ← hbefore.admittedTimes_eq,
    ← countP_admittedTimes fun t => m.time - window ≤ t, List.countP_eq_length_filter,
    SlidingWindow.recent]

/-- A rejected message arrives in a window that holds more messages than the limit. -/
theorem Decided.crowded (h : Decided window maxMessages messages)
    (hsorted : (messages.map Arrival.time).Pairwise (· ≤ ·)) (hpos : 1 ≤ maxMessages)
    {m : Arrival} (hm : m ∈ messages) (hrejected : m.admitted = false) :
    ∃ start, maxMessages <
      messages.countP (fun j => start ≤ j.time ∧ j.time ≤ start + window) := by
  obtain ⟨before, after, hsplit⟩ := List.append_of_mem hm
  have hcount : maxMessages ≤
      before.countP (fun j => j.admitted ∧ m.time - window ≤ j.time) := by
    by_contra hfew
    rw [(h.admitted_iff hsorted hsplit).mpr (not_le.mp hfew)] at hrejected
    cases hrejected
  have hearlier : ∀ j ∈ before, j.time ≤ m.time := by
    intro j hj
    rw [hsplit, List.map_append, List.pairwise_append] at hsorted
    exact hsorted.2.2 _ (List.mem_map_of_mem hj) _ (by simp)
  -- some message was admitted in the window, which therefore reaches back from `m`
  have hwindow : 0 ≤ window := by
    obtain ⟨j, hj, hadmitted⟩ := List.countP_pos_iff.mp (lt_of_lt_of_le hpos hcount)
    have := hearlier j hj
    simp only [decide_eq_true_eq] at hadmitted
    omega
  refine ⟨m.time - window, ?_⟩
  have hmono : before.countP (fun j => j.admitted ∧ m.time - window ≤ j.time) ≤
      before.countP (fun j => m.time - window ≤ j.time ∧ j.time ≤ m.time - window + window) := by
    apply List.countP_mono_left
    intro j hj hadmitted
    have := hearlier j hj
    simp only [decide_eq_true_eq] at hadmitted ⊢
    exact ⟨hadmitted.2, by omega⟩
  have hself : m.time - window ≤ m.time ∧ m.time ≤ m.time - window + window := by omega
  rw [hsplit, List.countP_append, List.countP_cons_of_pos (by simpa using hself)]
  omega

end Messages

/-! ## The steps -/

/-- What holds of a session and of the messages its limiter was asked about. -/
structure LimiterInv (window : ℤ) (maxMessages : ℕ) (s : WebsocketSession)
    (messages : List Arrival) : Prop where
  control : ControlInv s
  sorted : (messages.map Arrival.time).Pairwise (· ≤ ·)
  past : ∀ m ∈ messages, m.time ≤ s.now
  timestamps : s.messageTimestamps =
    SlidingWindow.kept window maxMessages (messages.map Arrival.time)
  decided : Decided window maxMessages messages
  rejected : ∀ before m after, messages = before ++ m :: after → m.admitted = false →
    after = [] ∧ s.readers = 0 ∧ (s.closeRequested = true ∨ s.strand.requestsClose = true)

section Steps

variable {lib : JsonLib} {s t : WebsocketSession} {a : Action} {es : List Event}
  {window : ℤ} {maxMessages : ℕ} {messages : List Arrival}

theorem limiterInv_construct (now handshakeTimeout : ℤ) :
    LimiterInv window maxMessages (.construct now handshakeTimeout) [] where
  control := controlInv_construct _ _
  sorted := .nil
  past := by simp
  timestamps := rfl
  decided := by simp [Decided]
  rejected := by simp

/-- A requested close stays requested, and a handler that is about to request one does. -/
theorem Transition.requestsClose (h : Transition lib s a es t)
    (hclose : s.closeRequested = true ∨ s.strand.requestsClose = true) :
    t.closeRequested = true ∨ t.strand.requestsClose = true := by
  rcases hclose with hclose | hclose
  · left
    cases h <;> first | exact hclose | rfl
  · cases h with
    | tick | elapsed | timerFailed | armed | accepting | managerDropped | destroyed | callerStart
    | callerJoin | callerRefused | callerPosted | closeForgotten | closeDispatched =>
        exact .inr hclose
    | closeCalled | closeClosed | closeOpen | writeFailed => exact .inl rfl
    | errorUnprinted | failing | timedOut | readLimited | disconnecting => exact .inr rfl
    | queuedStart hsends | queuedJoin hsends | sendRefused hsends =>
        cases hsends with
        | error => exact .inr rfl
        | response hstrand | reload hstrand =>
            rw [hstrand] at hclose
            cases hclose
    | @posted next hstrand =>
        cases next with
        | close => exact .inr rfl
        | authenticate | commit | leave =>
            rw [hstrand] at hclose
            cases hclose
    | acceptDropped hidle | acceptFailed hidle | accepted hidle | readDropped hidle
    | readFailed hidle | readPassed hidle | lambdaBusy hidle | lambdaIdle hidle
    | writeAbandoned hidle | writeTaken hidle | writtenClosing hidle | writtenLast hidle
    | writtenMore hidle | deadlineStopped hidle | deadlineRewaited hidle =>
        rw [hidle] at hclose
        cases hclose
    | actionAccepted hstrand | reloadAccepted hstrand | registering hstrand | generated hstrand
    | collided hstrand | registered hstrand | idStored hstrand | authenticated hstrand
    | committed hstrand | guardStopped hstrand | rearmed hstrand | readStopped hstrand
    | reading hstrand | checkBusy hstrand | checkIdle hstrand | closeSkipped hstrand
    | closeBegun hstrand | closeUnregistered hstrand | shutdown hstrand | unregistered hstrand
    | handed hstrand =>
        rw [hstrand] at hclose
        cases hclose

/-- A step asks the limiter about no message, or about one. -/
inductive Asks (window : ℤ) (maxMessages : ℕ) (s t : WebsocketSession) : List Arrival → Prop
  | none (htimestamps : t.messageTimestamps = s.messageTimestamps) (hnow : s.now ≤ t.now) :
      Asks window maxMessages s t []
  | one (admitted : Bool) (hreads : 0 < s.reads) (hnow : t.now = s.now)
      (hlimit : checkRateLimit window maxMessages s.now s.messageTimestamps =
        (t.messageTimestamps, !admitted))
      (hrejected : admitted = false → t.reads + 1 = s.reads ∧ t.accepts = s.accepts ∧
        t.runPhase = s.runPhase ∧ ∃ code message, t.strand = .sendError code message .leave) :
      Asks window maxMessages s t [⟨s.now, admitted⟩]

/-- A read completes on an idle strand. -/
theorem idle_of_onRead {result : ReadResult} (h : (session lib).step s (.onRead result) es t) :
    s.strand = .idle := by
  obtain ⟨r, hr, -⟩ := Option.map_eq_some_iff.mp h
  unfold WebsocketSession.step at hr
  by_contra hbusy
  simp only [hbusy, if_false] at hr
  split at hr <;> cases hr

theorem asks_of_step (h : (session lib).step s a es t) (hlimits : a.ReadsLimits window maxMessages) :
    Asks window maxMessages s t (s.arrivals t a) := by
  cases (transition_of_step h).2 with
  | @readLimited message _ _ _ _ _ _ hreads hopen hlimit =>
      obtain ⟨rfl, rfl⟩ := hlimits
      rw [WebsocketSession.arrivals, if_neg hopen]
      exact .one false (by omega) rfl hlimit fun _ => ⟨hreads.symm, rfl, rfl, _, _, rfl⟩
  | @readPassed message _ _ _ _ _ _ hreads hopen hlimit =>
      obtain ⟨rfl, rfl⟩ := hlimits
      rw [WebsocketSession.arrivals, if_neg hopen, beq_self_eq_true]
      exact .one true (by omega) rfl hlimit (by simp)
  | @readDropped result _ _ _ hclosed =>
      cases result with
      | failed => exact .none rfl (le_refl _)
      | message =>
          rw [WebsocketSession.arrivals, if_pos hclosed]
          exact .none rfl (le_refl _)
  | tick duration => exact .none rfl (Int.le_add_of_nonneg_right (Int.natCast_nonneg duration))
  | failing hmay =>
      cases a with
      | onRead =>
          rw [idle_of_onRead h] at hmay
          exact hmay.elim
      | _ => exact .none rfl (le_refl _)
  | _ => exact .none rfl (le_refl _)

/-- The invariant is kept, whether the step asks the limiter or not. -/
theorem LimiterInv.step (inv : LimiterInv window maxMessages s messages)
    (h : (session lib).step s a es t) (hlimits : a.ReadsLimits window maxMessages) :
    LimiterInv window maxMessages t (messages ++ s.arrivals t a) := by
  obtain ⟨-, htransition⟩ := transition_of_step h
  have hcontrol := inv.control.step h
  have hasks := asks_of_step h hlimits
  generalize s.arrivals t a = asked at hasks ⊢
  cases hasks with
  | none htimestamps hnow =>
      rw [List.append_nil]
      refine ⟨hcontrol, inv.sorted, fun m hm => (inv.past m hm).trans hnow,
        htimestamps.trans inv.timestamps, inv.decided, ?_⟩
      intro before m after hsplit hrejected
      obtain ⟨hlast, hreaders, hclose⟩ := inv.rejected before m after hsplit hrejected
      exact ⟨hlast, Nat.le_zero.mp (hreaders ▸ htransition.readers_le),
        htransition.requestsClose hclose⟩
  | one admitted hreads hnow hlimit hrejected =>
      rw [checkRateLimit_eq_arrive, Prod.mk.injEq] at hlimit
      obtain ⟨hkept, hpassed⟩ := hlimit
      -- a message is read, so that none was rejected before
      have hnone : ∀ before m after, messages = before ++ m :: after → m.admitted = true := by
        intro before m after hsplit
        by_contra hrejects
        have hreaders := (inv.rejected before m after hsplit (by simpa using hrejects)).2.1
        unfold WebsocketSession.readers at hreaders
        omega
      have hdecides : admitted = true ↔ SlidingWindow.Admits window maxMessages
          (messages.map Arrival.time) s.now := by
        rw [SlidingWindow.Admits, ← inv.timestamps]
        cases admitted <;> simpa using hpassed
      refine ⟨hcontrol, ?_, ?_, ?_, ?_, ?_⟩
      · rw [List.map_append, List.map_singleton, List.pairwise_append]
        refine ⟨inv.sorted, List.pairwise_singleton _ _, ?_⟩
        intro time htime last hlast
        obtain ⟨m, hm, rfl⟩ := List.mem_map.mp htime
        rw [List.mem_singleton.mp hlast]
        exact inv.past m hm
      · rw [hnow]
        exact List.forall_mem_append.mpr ⟨inv.past, by simp⟩
      · rw [List.map_append, List.map_singleton, SlidingWindow.kept_snoc, ← inv.timestamps, ← hkept]
      · intro before m after hsplit
        rcases Machine.eq_append_cons_of_snoc hsplit with ⟨rest, -, hsplit⟩ | ⟨-, rfl, rfl⟩
        · exact inv.decided before m rest hsplit
        · exact hdecides
      · intro before m after hsplit hm
        rcases Machine.eq_append_cons_of_snoc hsplit with ⟨rest, -, hsplit⟩ | ⟨hlast, rfl, -⟩
        · rw [hnone before m rest hsplit] at hm
          cases hm
        · obtain ⟨hreads', haccepts, hphase, code, message, hstrand⟩ := hrejected hm
          refine ⟨hlast, ?_, .inr (by rw [hstrand]; rfl)⟩
          have hreaders := inv.control.readers_le
          unfold WebsocketSession.readers at hreaders ⊢
          rw [hstrand, haccepts, hphase]
          have hleave : (Strand.sendError code message .leave).reading = 0 := rfl
          omega

theorem limiterInv_of_run {now handshakeTimeout : ℤ} {as : List Action}
    (run : (limited lib).Run (.construct now handshakeTimeout) as messages s)
    (hlimits : ∀ a ∈ as, a.ReadsLimits window maxMessages) :
    LimiterInv window maxMessages s messages := by
  refine (run.restrict_of_forall hlimits).invariant (limiterInv_construct _ _) ?_
  rintro messages s a asked t inv ⟨hlimits, h⟩
  obtain ⟨⟨t, es⟩, hstep, hnext⟩ := Option.map_eq_some_iff.mp h
  cases hnext
  exact inv.step hstep hlimits

end Steps

/-- The rate limiter is exact, in every run of a session whose configured limits do not change. -/
theorem rateLimiter_exact {lib : JsonLib} {now handshakeTimeout window : ℤ} {maxMessages : ℕ}
    {as : List Action} {messages : List Arrival} {s : WebsocketSession} (hpos : 1 ≤ maxMessages)
    (run : (limited lib).Run (.construct now handshakeTimeout) as messages s)
    (hlimits : ∀ a ∈ as, a.ReadsLimits window maxMessages) :
    LimitsExactly window maxMessages messages s := by
  have inv := limiterInv_of_run run hlimits
  refine ⟨?_, ?_, ?_, ?_, ?_⟩
  · intro before m after hsplit
    exact inv.decided.admitted_iff inv.sorted hsplit
  · intro start
    rw [← countP_admittedTimes fun t => start ≤ t ∧ t ≤ start + window,
      inv.decided.admittedTimes_eq]
    exact SlidingWindow.countP_admitted_le inv.sorted start
  · rw [inv.timestamps]
    exact SlidingWindow.length_kept_le
  · intro hmoderate m hm
    by_contra hrejected
    obtain ⟨start, hcrowded⟩ := inv.decided.crowded inv.sorted hpos hm (by simpa using hrejected)
    exact absurd (hmoderate start) (not_le.mpr hcrowded)
  · intro before m after hsplit hrejected
    obtain ⟨hlast, -, hclose⟩ := inv.rejected before m after hsplit hrejected
    exact ⟨hlast, hclose⟩

/-- The library knows the three messages of the client. -/
def busyLib : JsonLib :=
  .knowing [handshakeEnvelope, foldEnvelope (text "sess_a") 0, foldEnvelope (text "sess_a") 1]

/-- A client that is authenticated with its first message and folds twice, where a second admits
two messages. -/
def busyActions : List Action :=
  [.armDeadline, .startAccept, .onAccept none, .resume,
    .onRead (.message (handshakeEnvelope.print 4) (seconds 1) 2 2), .handleMessage 100 100,
    .generated (text "sess_a"), .emplaced (.success 1), .resume, .resume, .resume, .resume,
    .rearm (seconds 10), .resume, .tick 500000000,
    .onRead (.message ((foldEnvelope (text "sess_a") 0).print 4) (seconds 1) 2 2),
    .handleMessage 100 100, .rearm (seconds 10), .resume, .tick 500000000,
    .onRead (.message ((foldEnvelope (text "sess_a") 1).print 4) (seconds 1) 2 2)]

def busyRun : WebsocketSession × List Arrival :=
  (Machine.exec (limitedStep busyLib) (.construct 0 (seconds 10)) busyActions).get
    (by decide +kernel)

/-- The third message comes exactly a second after the first, and is rejected. -/
theorem rateLimiter_exact_busyRun :
    busyRun.2.map Arrival.admitted = [true, true, false] ∧
      LimitsExactly (seconds 1) 2 busyRun.2 busyRun.1 := by
  have run : (limited busyLib).Run (.construct 0 (seconds 10)) busyActions busyRun.2 busyRun.1 :=
    Machine.run_get _
  refine ⟨by decide +kernel, rateLimiter_exact (by decide) run ?_⟩
  simp [busyActions, Action.ReadsLimits]

end CppSim.Server
