import CppSim.Library.Word
import CppSim.Server.RuntimeConfig
import CppSim.Server.Session.Transition

/-!
# A client that reloads while nothing is written

An authenticated session whose client does not read keeps one write outstanding, and every
reply stays in its queue.  `Serving` is such a session between two messages, and
`Serving.reload` takes it through one RELOAD_REQUEST, with what it reads of a
configuration.

From these cycles follows how far the queue of a client can grow that keeps within the
rate limit:

* `exists_serving`: to any length up to the limit of the queue, one message a window;
* `exists_full_within`: to the limit of the queue within one window, if the window admits
  so many messages.

`Serving.exists_refused` is what happens then.
-/

namespace CppSim.Server

open Protocol

/-! ## What a session reads of the configuration -/

namespace RuntimeConfig

/-- The window of the rate limiter, in the ticks of the steady clock. -/
def window (config : RuntimeConfig) : ℤ := seconds config.rateLimitWindow.toInt

theorem Valid.window_le {config : RuntimeConfig} (h : config.Valid) : seconds 1 ≤ config.window := by
  have hleast : (1 : ℤ) ≤ config.rateLimitWindow.toInt :=
    Int64.le_iff_toInt_le.mp h.rateLimitWindow.1
  simp only [window, seconds]
  omega

/-- Every reading that the step makes of the configuration finds these values. -/
def ReadBy (config : RuntimeConfig) : Action → Prop
  | .onRead (.message _ rateLimitWindow maxMessages maxMessagesLogged) =>
      rateLimitWindow = config.window ∧ maxMessages = config.maxMessagesPerWindow.toNat ∧
        maxMessagesLogged = config.maxMessagesPerWindow.toNat
  | .handleMessage maxSequenceGap maxSequenceGapLogged =>
      maxSequenceGap = config.maxSequenceGap ∧ maxSequenceGapLogged = config.maxSequenceGap
  | .rearm wsIdleTimeout => wsIdleTimeout = seconds config.wsIdleTimeout.toInt
  | _ => True

end RuntimeConfig

/-- The steps that a session takes by itself, without the manager. -/
def Action.own : Action → Bool
  | .generated _ | .emplaced _ | .dropManager | .destroy | .send _ | .close => false
  | _ => true

/-- The session comes from `s` to `t` by itself, while it reads the configuration. -/
def Reaches (lib : JsonLib) (config : RuntimeConfig) (s t : WebsocketSession) : Prop :=
  ∃ as es, (session lib).Run s as es t ∧ ∀ a ∈ as, a.own = true ∧ config.ReadBy a

section Reaches

variable {lib : JsonLib} {config : RuntimeConfig} {s t u : WebsocketSession}

theorem Reaches.refl (s : WebsocketSession) : Reaches lib config s s := ⟨[], [], .refl s, by simp⟩

theorem Reaches.trans (h : Reaches lib config s t) (h' : Reaches lib config t u) :
    Reaches lib config s u := by
  obtain ⟨as, es, run, has⟩ := h
  obtain ⟨bs, fs, run', hbs⟩ := h'
  refine ⟨as ++ bs, es ++ fs, run.trans run', fun a ha => ?_⟩
  rcases List.mem_append.mp ha with ha | ha
  · exact has a ha
  · exact hbs a ha

theorem Reaches.of_step (a : Action) (es : List Event) (h : (session lib).step s a es t)
    (hown : a.own = true) (hread : config.ReadBy a) : Reaches lib config s t :=
  ⟨[a], es, .single h, by simp [hown, hread]⟩

end Reaches

/-! ## Between two messages -/

/-- The client is authenticated as `sid`, and its session waits for a message while a write
is outstanding. -/
structure Serving (sid : Text) (s : WebsocketSession) : Prop where
  live : s.destroyed = false
  strand : s.strand = .idle
  state : s.state = .authenticated
  closeRequested : s.closeRequested = false
  sessionId : s.sessionId = sid
  reads : s.reads = 1
  writing : s.writing = true
  past : ∀ timestamp ∈ s.messageTimestamps, timestamp ≤ s.now

/-- The library prints what the session sends, and the message is a RELOAD_REQUEST of the
client that is accepted. -/
structure Reloads (lib : JsonLib) (sid message : Text) (amount : Int64) : Prop where
  accepted : ∀ (s : WebsocketSession) (gap logged : Int64), s.state = .authenticated →
    s.sessionId = sid → (s.handle lib message gap logged).verdict = .acceptReload amount
  printsReload : ∀ m, ∃ response, serializeReloadResponse lib m = .ok response
  printsError : ∀ m, ∃ err, serializeError lib m = .ok err

section Cycle

variable {lib : JsonLib} {config : RuntimeConfig} {sid message : Text} {amount : Int64}
  {s : WebsocketSession}

theorem Serving.isClosing (h : Serving sid s) : s.isClosing = false :=
  WebsocketSession.isClosing_eq_false.mpr ⟨by simp [h.state], h.closeRequested⟩

/-- Time passes. -/
theorem Serving.tick (lib : JsonLib) (config : RuntimeConfig) (h : Serving sid s) (duration : ℕ) :
    Reaches lib config s { s with now := s.now + duration } ∧
      Serving sid { s with now := s.now + duration } := by
  constructor
  · refine .of_step (.tick duration) [] ?_ rfl trivial
    simp [session, Machine.ofStep, sessionStep, WebsocketSession.step, h.live]
  · exact { h with past := fun timestamp hmem => by have := h.past timestamp hmem; simp only; omega }

/-- The session while it handles the message, once the limiter let it pass. -/
def WebsocketSession.handling (s : WebsocketSession) (message : Text) (messageTimestamps : List ℤ) :
    WebsocketSession :=
  { s with reads := 0, messageTimestamps, strand := .checkBurst message }

/-- The limiter lets the message pass. -/
theorem Serving.read (lib : JsonLib) (message : Text) (h : Serving sid s)
    {messageTimestamps : List ℤ}
    (hlimit : checkRateLimit config.window config.maxMessagesPerWindow.toNat s.now
      s.messageTimestamps = (messageTimestamps, false)) :
    Reaches lib config s (s.handling message messageTimestamps) := by
  refine .of_step (.onRead (.message message config.window
    config.maxMessagesPerWindow.toNat config.maxMessagesPerWindow.toNat)) [] ?_ rfl
    ⟨rfl, rfl, rfl⟩
  simp [session, Machine.ofStep, sessionStep, WebsocketSession.step, WebsocketSession.start,
    WebsocketSession.onRead, WebsocketSession.handling, h.live, h.strand, h.reads, h.state, hlimit]

theorem Serving.step_handling (h : Serving sid s) (message : Text) (messageTimestamps : List ℤ)
    (gap logged : Int64) :
    sessionStep lib (s.handling message messageTimestamps) (.handleMessage gap logged) =
      some (((s.handling message messageTimestamps).handleMessage lib message gap logged).next,
        ((s.handling message messageTimestamps).handleMessage lib message gap logged).events) := by
  unfold sessionStep WebsocketSession.step
  rw [if_neg (by simp [WebsocketSession.handling, h.live])]
  rfl

/-- The burst detector lets it pass, and it is accepted. -/
theorem Serving.accept (h : Serving sid s) (client : Reloads lib sid message amount)
    (messageTimestamps : List ℤ) {activity : Activity}
    (hquiet : checkSuspiciousActivity s.now s.activity = (activity, false)) (gap logged : Int64) :
    (session lib).step (s.handling message messageTimestamps) (.handleMessage gap logged)
      [.reloadAccepted amount]
      { s.handling message messageTimestamps with
        activity, strand := .sendReload amount (min (s.currentStack + amount) maxAmount) } := by
  have hverdict := client.accepted (s.handling message messageTimestamps) gap logged h.state
    h.sessionId
  have hquiet' : checkSuspiciousActivity (s.handling message messageTimestamps).now
      (s.handling message messageTimestamps).activity = (activity, false) := hquiet
  refine (h.step_handling message messageTimestamps gap logged).trans ?_
  simp only [WebsocketSession.handleMessage, hquiet', hverdict]
  rfl

/-- The burst detector flags it. -/
theorem Serving.flag (lib : JsonLib) (message : Text) (h : Serving sid s)
    (messageTimestamps : List ℤ) {activity : Activity}
    (hflagged : checkSuspiciousActivity s.now s.activity = (activity, true)) (gap logged : Int64) :
    (session lib).step (s.handling message messageTimestamps) (.handleMessage gap logged) []
      { s.handling message messageTimestamps with
        activity, strand := .sendError ErrorCode.sessionClosed
          (text "Suspicious activity detected") .leave } := by
  have hflagged' : checkSuspiciousActivity (s.handling message messageTimestamps).now
      (s.handling message messageTimestamps).activity = (activity, true) := hflagged
  refine (h.step_handling message messageTimestamps gap logged).trans ?_
  simp only [WebsocketSession.handleMessage, hflagged']

/-- The limiter refuses the message. -/
theorem Serving.limit (lib : JsonLib) (message : Text) (h : Serving sid s)
    {messageTimestamps : List ℤ}
    (hlimit : checkRateLimit config.window config.maxMessagesPerWindow.toNat s.now
      s.messageTimestamps = (messageTimestamps, true)) :
    Reaches lib config s
      { s with reads := 0, messageTimestamps, strand := .sendError ErrorCode.sessionClosed
                (text "Rate limit exceeded") .leave } := by
  refine .of_step (.onRead (.message message config.window
    config.maxMessagesPerWindow.toNat config.maxMessagesPerWindow.toNat)) [] ?_ rfl
    ⟨rfl, rfl, rfl⟩
  simp [session, Machine.ofStep, sessionStep, WebsocketSession.step, WebsocketSession.start,
    WebsocketSession.onRead, h.live, h.strand, h.reads, h.state, hlimit]

/-- The response is queued. -/
theorem Serving.queue (h : Serving sid s) (client : Reloads lib sid message amount)
    (messageTimestamps : List ℤ) (activity : Activity) (newStack : Int64)
    (hroom : s.writeQueue.length < Config.maxWriteQueueSize) :
    ∃ response, (session lib).step
      { s.handling message messageTimestamps with
        activity, strand := .sendReload amount newStack }
      .resume [.queued (.reloadResponse amount newStack) response]
      { s.handling message messageTimestamps with
        activity, writeQueue := s.writeQueue ++ [response], strand := .commitReload newStack } := by
  obtain ⟨response, hprint⟩ := client.printsReload { granted := true, newStack }
  have hroom' : ¬ s.writeQueue.length ≥ Config.maxWriteQueueSize := Nat.not_le.mpr hroom
  refine ⟨response, ?_⟩
  simp [session, Machine.ofStep, sessionStep, WebsocketSession.step, WebsocketSession.resume,
    WebsocketSession.sendReload, hprint, WebsocketSession.sendOnStrand,
    WebsocketSession.queueMessage, WebsocketSession.isClosing, WebsocketSession.handling, h.live,
    h.state, h.closeRequested, h.writing, hroom', Next.strand]

/-- The response is queued, and the session waits for the next message. -/
theorem Serving.respond (config : RuntimeConfig) (h : Serving sid s)
    (client : Reloads lib sid message amount) {messageTimestamps : List ℤ} {activity : Activity}
    {newStack : Int64} (hroom : s.writeQueue.length < Config.maxWriteQueueSize)
    (hstamps : ∀ timestamp ∈ messageTimestamps, timestamp ≤ s.now) :
    ∃ t, Reaches lib config
        { s.handling message messageTimestamps with
          activity, strand := .sendReload amount newStack } t ∧
      Serving sid t ∧ t.writeQueue.length = s.writeQueue.length + 1 ∧ t.now = s.now ∧
      t.messageTimestamps = messageTimestamps ∧ t.activity = activity := by
  obtain ⟨response, hqueue⟩ := h.queue client messageTimestamps activity newStack hroom
  let sent : WebsocketSession :=
    { s.handling message messageTimestamps with
      activity, writeQueue := s.writeQueue ++ [response], strand := .commitReload newStack }
  let committed : WebsocketSession := { sent with currentStack := newStack, strand := .readGuard }
  let timeout := seconds config.wsIdleTimeout.toInt
  let rearmed : WebsocketSession :=
    { committed with deadline := s.deadline.expiresAt (s.now + timeout), strand := .doRead }
  have hsent : Reaches lib config
      { s.handling message messageTimestamps with
        activity, strand := .sendReload amount newStack } sent :=
    .of_step _ _ hqueue rfl trivial
  have hcommitted : Reaches lib config sent committed := by
    refine .of_step .resume [.stackCommitted newStack] ?_ rfl trivial
    simp [session, Machine.ofStep, sessionStep, WebsocketSession.step, WebsocketSession.resume,
      WebsocketSession.handling, h.live, sent, committed]
  have hrearmed : Reaches lib config committed rearmed := by
    refine .of_step (.rearm timeout) [] ?_ rfl rfl
    simp [session, Machine.ofStep, sessionStep, WebsocketSession.step, WebsocketSession.rearm,
      WebsocketSession.isClosing, WebsocketSession.handling, h.live, h.state, h.closeRequested,
      sent, committed, rearmed]
  have hread : Reaches lib config rearmed { rearmed with strand := .idle, reads := 1 } := by
    refine .of_step .resume [] ?_ rfl trivial
    simp [session, Machine.ofStep, sessionStep, WebsocketSession.step, WebsocketSession.resume,
      WebsocketSession.doRead, WebsocketSession.isClosing, WebsocketSession.handling, h.live,
      h.state, h.closeRequested, sent, committed, rearmed]
  refine ⟨_, hsent.trans (hcommitted.trans (hrearmed.trans hread)), ?_, ?_, rfl, rfl, rfl⟩
  · exact { h with strand := rfl, reads := rfl, past := hstamps }
  · simp [rearmed, committed, sent]

/-- The admitted messages that count against the limit. -/
def WebsocketSession.recentCount (s : WebsocketSession) (window : ℤ) : ℕ :=
  (SlidingWindow.recent window s.now s.messageTimestamps).length

theorem recentCount_tick_le (duration : ℕ) (window : ℤ) :
    ({ s with now := s.now + duration } : WebsocketSession).recentCount window ≤
      s.recentCount window := by
  have hlater : s.now ≤ s.now + duration := by omega
  simp only [WebsocketSession.recentCount]
  rw [← SlidingWindow.recent_recent hlater]
  exact List.length_filter_le _ _

/-- Nothing counts any more once a window has passed. -/
theorem Serving.recentCount_later (h : Serving sid s) {window : ℤ} {duration : ℕ}
    (hlater : window < duration) :
    ({ s with now := s.now + duration } : WebsocketSession).recentCount window = 0 := by
  simp only [WebsocketSession.recentCount, SlidingWindow.recent, List.length_eq_zero_iff,
    List.filter_eq_nil_iff, decide_eq_true_eq]
  intro timestamp hmem
  have hpast := h.past timestamp hmem
  omega

/-- Below the limit the limiter lets a message pass, and keeps its time. -/
theorem checkRateLimit_of_recentCount {window : ℤ} {maxMessages : ℕ}
    (h : s.recentCount window < maxMessages) :
    checkRateLimit window maxMessages s.now s.messageTimestamps =
      (SlidingWindow.recent window s.now s.messageTimestamps ++ [s.now], false) := by
  have hbelow : ¬ maxMessages ≤
      (SlidingWindow.recent window s.now s.messageTimestamps).length := Nat.not_le.mpr h
  rw [checkRateLimit_eq_arrive, SlidingWindow.arrive, if_neg hbelow]
  rfl

/-- A RELOAD_REQUEST that passes the limiter and the detector is about to be accepted. -/
theorem Serving.exists_accepting (config : RuntimeConfig) (h : Serving sid s)
    (client : Reloads lib sid message amount)
    (hadmitted : s.recentCount config.window < config.maxMessagesPerWindow.toNat)
    (hquiet : (checkSuspiciousActivity s.now s.activity).2 = false) :
    Reaches lib config s
        (s.handling message
          (SlidingWindow.recent config.window s.now s.messageTimestamps ++ [s.now])) ∧
      (session lib).step
        (s.handling message
          (SlidingWindow.recent config.window s.now s.messageTimestamps ++ [s.now]))
        (.handleMessage config.maxSequenceGap config.maxSequenceGap) [.reloadAccepted amount]
        { s.handling message
            (SlidingWindow.recent config.window s.now s.messageTimestamps ++ [s.now]) with
          activity := ⟨s.now, s.activity.messageCount + 1⟩
          strand := .sendReload amount (min (s.currentStack + amount) maxAmount) } := by
  have hactivity : checkSuspiciousActivity s.now s.activity =
      (⟨s.now, s.activity.messageCount + 1⟩, false) := Prod.ext rfl hquiet
  exact ⟨h.read lib message (checkRateLimit_of_recentCount hadmitted),
    h.accept client _ hactivity _ _⟩

/-- Its response is about to be queued. -/
theorem Serving.exists_queueing (config : RuntimeConfig) (h : Serving sid s)
    (client : Reloads lib sid message amount)
    (hroom : s.writeQueue.length < Config.maxWriteQueueSize)
    (hadmitted : s.recentCount config.window < config.maxMessagesPerWindow.toNat)
    (hquiet : (checkSuspiciousActivity s.now s.activity).2 = false) :
    ∃ t u source response, Reaches lib config s t ∧
      (session lib).step t .resume [.queued source response] u ∧
        u.writeQueue.length = s.writeQueue.length + 1 := by
  obtain ⟨hread, haccept⟩ := h.exists_accepting config client hadmitted hquiet
  obtain ⟨response, hqueue⟩ := h.queue client
    (SlidingWindow.recent config.window s.now s.messageTimestamps ++ [s.now])
    ⟨s.now, s.activity.messageCount + 1⟩ (min (s.currentStack + amount) maxAmount) hroom
  exact ⟨_, _, _, response, hread.trans (.of_step _ _ haccept rfl ⟨rfl, rfl⟩), hqueue, by simp⟩

/-- One RELOAD_REQUEST, from one wait for a message to the next. -/
theorem Serving.reload (config : RuntimeConfig) (h : Serving sid s)
    (client : Reloads lib sid message amount)
    (hroom : s.writeQueue.length < Config.maxWriteQueueSize)
    (hadmitted : s.recentCount config.window < config.maxMessagesPerWindow.toNat)
    (hquiet : (checkSuspiciousActivity s.now s.activity).2 = false) :
    ∃ t, Reaches lib config s t ∧ Serving sid t ∧
      t.writeQueue.length = s.writeQueue.length + 1 ∧ t.now = s.now ∧
      t.recentCount config.window ≤ s.recentCount config.window + 1 ∧
      t.activity = ⟨s.now, s.activity.messageCount + 1⟩ := by
  let kept := SlidingWindow.recent config.window s.now s.messageTimestamps
  have hstamps : ∀ timestamp ∈ kept ++ [s.now], timestamp ≤ s.now := by
    intro timestamp hmem
    rcases List.mem_append.mp hmem with hmem | hmem
    · exact h.past timestamp (SlidingWindow.mem_recent.mp hmem).1
    · exact (List.mem_singleton.mp hmem).le
  obtain ⟨hread, haccept⟩ := h.exists_accepting config client hadmitted hquiet
  obtain ⟨t, hrespond, hserving, hqueue, hnow, hkept, hcount⟩ :=
    h.respond config client hroom hstamps
  refine ⟨t, hread.trans ((Reaches.of_step _ _ haccept rfl ⟨rfl, rfl⟩).trans hrespond),
    hserving, hqueue, hnow, ?_, hcount⟩
  calc
    t.recentCount config.window ≤ (kept ++ [s.now]).length := by
      rw [WebsocketSession.recentCount, hkept]
      exact List.length_filter_le _ _
    _ = s.recentCount config.window + 1 := by simp [kept, WebsocketSession.recentCount]

/-- The client waits until the window is over. -/
theorem Serving.wait (lib : JsonLib) (config : RuntimeConfig) (h : Serving sid s)
    (hwindow : seconds 1 ≤ config.window) :
    ∃ t, Reaches lib config s t ∧ Serving sid t ∧ t.writeQueue = s.writeQueue ∧
      t.recentCount config.window = 0 ∧ t.activity = s.activity ∧ s.now + seconds 1 ≤ t.now := by
  have hpositive : 0 ≤ config.window := le_trans (by decide) hwindow
  obtain ⟨duration, hduration⟩ : ∃ duration : ℕ, (duration : ℤ) = config.window + 1 :=
    ⟨_, Int.toNat_of_nonneg (by omega)⟩
  obtain ⟨hwait, hwaiting⟩ := h.tick lib config duration
  have hlater : config.window < duration := by omega
  exact ⟨_, hwait, hwaiting, rfl, h.recentCount_later hlater, rfl, by simp only; omega⟩

/-! ## How far the queue grows -/

theorem toInt_messageCount_succ {count : Int64} (h : count.toInt < 100) :
    (count + 1).toInt = count.toInt + 1 := by
  have hlow := count.le_toInt
  exact Int64.toInt_add_of_lt (show -2 ^ 63 ≤ count.toInt + 1 by omega)
    (show count.toInt + 1 < 2 ^ 63 by omega)

/-- The detector does not flag the first hundred messages. -/
theorem not_suspicious_of_few {now : ℤ} {activity : Activity}
    (h : activity.messageCount.toInt < 100) : (checkSuspiciousActivity now activity).2 = false := by
  have hfew : activity.messageCount + 1 ≤ 100 := by
    rw [Int64.le_iff_toInt_le, toInt_messageCount_succ h]
    exact h
  simp [checkSuspiciousActivity, Int64.not_lt.mpr hfew]

/-- The detector does not flag a message that comes a second after the last. -/
theorem not_suspicious_of_spaced {now : ℤ} {activity : Activity}
    (h : activity.lastActivity + seconds 1 ≤ now) :
    (checkSuspiciousActivity now activity).2 = false := by
  have helapsed : (now - activity.lastActivity).tdiv (seconds 1) ≠ 0 := by
    simp only [seconds] at h ⊢
    rw [Int.tdiv_eq_ediv_of_nonneg (by omega)]
    omega
  simp [checkSuspiciousActivity, helapsed]

/-- One message a window: the queue grows to any length up to its limit. -/
theorem exists_serving (config : RuntimeConfig) (h : Serving sid s)
    (client : Reloads lib sid message amount) (hmax : 0 < config.maxMessagesPerWindow.toNat)
    (hwindow : seconds 1 ≤ config.window) (hempty : s.writeQueue = [])
    (hactive : s.activity.lastActivity ≤ s.now) (k : ℕ) (hk : k ≤ Config.maxWriteQueueSize) :
    ∃ t, Reaches lib config s t ∧ Serving sid t ∧ t.writeQueue.length = k ∧
      t.activity.lastActivity ≤ t.now := by
  induction k with
  | zero => exact ⟨s, .refl s, h, by rw [hempty]; rfl, hactive⟩
  | succ k ih =>
      obtain ⟨t, hreach, hserving, hqueue, hlast⟩ := ih (Nat.le_of_succ_le hk)
      obtain ⟨u, hwait, hwaiting, hsame, hrecent, hactivity, hnow⟩ :=
        hserving.wait lib config hwindow
      have hroom : u.writeQueue.length < Config.maxWriteQueueSize := by
        rw [hsame, hqueue]
        exact hk
      have hquiet : (checkSuspiciousActivity u.now u.activity).2 = false :=
        not_suspicious_of_spaced (by rw [hactivity]; omega)
      obtain ⟨v, hcycle, hserving', hqueue', hnow', -, hactivity'⟩ :=
        hwaiting.reload config client hroom (by omega) hquiet
      refine ⟨v, hreach.trans (hwait.trans hcycle), hserving', ?_, ?_⟩
      · rw [hqueue', hsame, hqueue]
      · rw [hactivity', hnow']

/-- All messages of a window at once, up to the hundredth of the session. -/
theorem exists_serving_at_once (config : RuntimeConfig) (h : Serving sid s)
    (client : Reloads lib sid message amount)
    (hempty : s.writeQueue = []) (hcount : s.activity.messageCount.toInt ≤ 1)
    (hlast : s.activity.lastActivity ≤ s.now) (hrecent : s.recentCount config.window = 0) (k : ℕ)
    (hk : k < 100) (hmax : k ≤ config.maxMessagesPerWindow.toNat) :
    ∃ t, Reaches lib config s t ∧ Serving sid t ∧ t.writeQueue.length = k ∧ t.now = s.now ∧
      t.recentCount config.window ≤ k ∧ t.activity.messageCount.toInt ≤ k + 1 ∧
      t.activity.lastActivity ≤ t.now := by
  induction k with
  | zero => exact ⟨s, .refl s, h, by rw [hempty]; rfl, rfl, hrecent.le, hcount, hlast⟩
  | succ k ih =>
      obtain ⟨t, hreach, hserving, hqueue, hnow, hrecent, hcount, hlast⟩ := ih (by omega) (by omega)
      obtain ⟨u, hcycle, hserving', hqueue', hnow', hrecent', hactivity⟩ :=
        hserving.reload config client
          (by rw [hqueue]; exact Nat.lt_of_succ_lt hk) (by omega)
          (not_suspicious_of_few (by omega))
      refine ⟨u, hreach.trans hcycle, hserving', by omega, by omega, by omega, ?_, ?_⟩
      · rw [hactivity, toInt_messageCount_succ (by omega)]
        push_cast
        omega
      · rw [hactivity, hnow']

/-- If a window admits as many messages as the queue holds, a client fills the queue within
one window: a message waits a second at the end, so that it is not taken for a burst. -/
theorem exists_full_within (config : RuntimeConfig) (h : Serving sid s)
    (client : Reloads lib sid message amount)
    (hempty : s.writeQueue = []) (hcount : s.activity.messageCount.toInt ≤ 1)
    (hlast : s.activity.lastActivity ≤ s.now) (hrecent : s.recentCount config.window = 0)
    (hmax : Config.maxWriteQueueSize ≤ config.maxMessagesPerWindow.toNat)
    (hwindow : seconds 1 ≤ config.window) :
    ∃ t, Reaches lib config s t ∧ Serving sid t ∧
      t.writeQueue.length = Config.maxWriteQueueSize ∧ t.now ≤ s.now + config.window := by
  have hmax' : 100 ≤ config.maxMessagesPerWindow.toNat := hmax
  obtain ⟨t, hreach, hserving, hqueue, hnow, hrecent, hcount, hlast⟩ :=
    exists_serving_at_once config h client hempty hcount hlast hrecent 99 (by decide)
      (by omega)
  obtain ⟨hwait, hwaiting⟩ := hserving.tick lib config 1000000000
  have hrecent' := recentCount_tick_le (s := t) 1000000000 config.window
  obtain ⟨u, hcycle, hserving', hqueue', hnow', -, -⟩ :=
    hwaiting.reload config client (by simp only [hqueue]; decide) (by omega)
      (not_suspicious_of_spaced (by simp only [seconds]; omega))
  refine ⟨u, hreach.trans (hwait.trans hcycle), hserving', ?_, ?_⟩
  · simp only [hqueue] at hqueue'
    exact hqueue'
  · simp only [seconds] at hwindow
    simp only at hnow'
    omega

/-! ## The reply that finds the queue full -/

/-- An error that finds the queue full is refused. -/
theorem refused_error (client : Reloads lib sid message amount) {errorCode line : Text}
    {after : After} (hlive : s.destroyed = false) (hopen : s.isClosing = false)
    (hstrand : s.strand = .sendError errorCode line after)
    (hfull : Config.maxWriteQueueSize ≤ s.writeQueue.length) :
    ∃ err t, (session lib).step s .resume [.refused .error err] t := by
  obtain ⟨err, hprint⟩ := client.printsError
    ⟨errorCode, line, if s.sessionId = [] then none else some s.sessionId⟩
  refine ⟨err, { s with strand := .close after }, ?_⟩
  simp [session, Machine.ofStep, sessionStep, WebsocketSession.step, WebsocketSession.resume,
    WebsocketSession.sendProtocolError, hprint, WebsocketSession.sendOnStrand,
    WebsocketSession.queueMessage, hlive, hopen, hstrand, hfull]

/-- A reload response that finds the queue full is refused. -/
theorem refused_response (client : Reloads lib sid message amount) {newStack : Int64}
    (hlive : s.destroyed = false) (hopen : s.isClosing = false)
    (hstrand : s.strand = .sendReload amount newStack)
    (hfull : Config.maxWriteQueueSize ≤ s.writeQueue.length) :
    ∃ response t,
      (session lib).step s .resume [.refused (.reloadResponse amount newStack) response] t := by
  obtain ⟨response, hprint⟩ := client.printsReload { granted := true, newStack }
  refine ⟨response, { s with strand := .close .readGuard }, ?_⟩
  simp [session, Machine.ofStep, sessionStep, WebsocketSession.step, WebsocketSession.resume,
    WebsocketSession.sendReload, hprint, WebsocketSession.sendOnStrand,
    WebsocketSession.queueMessage, hlive, hopen, hstrand, hfull]

/-- Whatever the limiter and the detector make of the next message, its reply is refused. -/
theorem Serving.exists_refused (config : RuntimeConfig) (h : Serving sid s)
    (client : Reloads lib sid message amount)
    (hfull : Config.maxWriteQueueSize ≤ s.writeQueue.length) :
    ∃ t u source line, Reaches lib config s t ∧ t.isClosing = false ∧ t.now = s.now ∧
      (session lib).step t .resume [.refused source line] u := by
  rcases hlimit : checkRateLimit config.window config.maxMessagesPerWindow.toNat s.now
    s.messageTimestamps with ⟨messageTimestamps, _ | _⟩
  · have hread := h.read lib message hlimit
    rcases hactivity : checkSuspiciousActivity s.now s.activity with ⟨activity, _ | _⟩
    · have haccept := h.accept client messageTimestamps hactivity
        config.maxSequenceGap config.maxSequenceGap
      obtain ⟨response, u, hrefused⟩ := refused_response (s := { s.handling message
          messageTimestamps with
          activity, strand := .sendReload amount (min (s.currentStack + amount) maxAmount) })
        client h.live h.isClosing rfl hfull
      exact ⟨_, u, _, response, hread.trans (.of_step _ _ haccept rfl ⟨rfl, rfl⟩), h.isClosing, rfl,
        hrefused⟩
    · have hflag := h.flag lib message messageTimestamps hactivity config.maxSequenceGap
        config.maxSequenceGap
      obtain ⟨err, u, hrefused⟩ := refused_error (s := { s.handling message messageTimestamps with
          activity, strand := .sendError ErrorCode.sessionClosed
            (text "Suspicious activity detected") .leave }) client h.live h.isClosing rfl hfull
      exact ⟨_, u, _, err, hread.trans (.of_step _ _ hflag rfl ⟨rfl, rfl⟩), h.isClosing, rfl,
        hrefused⟩
  · have hlimited := h.limit lib message hlimit
    obtain ⟨err, u, hrefused⟩ := refused_error (s := { s with
        reads := 0, messageTimestamps, strand := .sendError ErrorCode.sessionClosed
          (text "Rate limit exceeded") .leave }) client h.live h.isClosing rfl hfull
    exact ⟨_, u, _, err, hlimited, h.isClosing, rfl, hrefused⟩

end Cycle

end CppSim.Server
