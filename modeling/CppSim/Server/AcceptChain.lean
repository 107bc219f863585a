import CppSim.Library.Word
import CppSim.Server.WebsocketServer

/-!
# The chain of accepts

`run` starts a chain: an accept, the handler of its completion, the backoff timer that
the handler may start, the handler of the timer, the next accept.  There is never more
than one link of it (`ChainInv`), whatever throws and whatever `stop` does in between.

* `acceptChain_single` is the law of the backoff: after `k` transient errors since the
  last success the delay is `min (2 ^ (k - 1)) 30` seconds.
* `attended_iff` says which runs never abandon the loop.  The chain breaks where a
  completion ends without another link, which before `stop` it does after a fatal error
  or an aborted operation and where `do_accept` throws.
-/

namespace CppSim.Server

/-! ## One chain -/

/-- A handler on the strand is a link of the chain. -/
def AcceptStrand.link : AcceptStrand → ℕ
  | .idle => 0
  | _ => 1

/-- The links of the chain. -/
def AcceptLoop.links (v : AcceptLoop) : ℕ := v.accepts + v.backoffWaits.length + v.strand.link

/-- Before `stop`, the timer that is waited for is `backoff_timer_`. -/
structure AcceptLoop.Running (v : AcceptLoop) : Prop where
  alive : v.alive = true
  acceptorOpen : v.acceptorOpen = true
  current : ∀ timer, timer ∈ v.backoffWaits ∨ v.strand = .checkRetry timer →
    v.backoffTimer = some timer

/-- What holds of an accept loop after one call of `run`. -/
structure ChainInv (v : AcceptLoop) : Prop where
  links_le : v.links ≤ 1
  stopped_of_phase : v.stopPhase ≠ .notCalled → v.stopped = true
  running : v.stopped = false → v.Running

theorem AcceptStrand.link_le (strand : AcceptStrand) : strand.link ≤ 1 := by
  cases strand <;> simp [link]

theorem AcceptStrand.link_of_ne_idle {strand : AcceptStrand} (h : strand ≠ .idle) :
    strand.link = 1 := by
  cases strand <;> first | rfl | exact absurd rfl h

section Chain

variable {v v' : AcceptLoop} {a : AcceptAction} {es : List AcceptEvent}

theorem AcceptLoop.links_doAccept (v : AcceptLoop) (throws : Bool) :
    (v.doAccept throws).links = v.links + (if throws then 0 else 1) := by
  unfold doAccept links
  cases throws with
  | false =>
      simp only [Bool.false_eq_true, if_false]
      omega
  | true => simp

/-- The construction and `run`. -/
theorem chainInv_doAccept (throws : Bool) : ChainInv (AcceptLoop.construct.doAccept throws) := by
  cases throws <;> refine ⟨by decide, fun h => absurd rfl h, fun _ => ⟨rfl, rfl, ?_⟩⟩ <;>
    · intro timer htimer
      rcases htimer with htimer | htimer <;> cases htimer

/-- Only `run` adds a link. -/
theorem AcceptTransition.links_le (h : AcceptTransition v a es v') (hrun : a.isRun = false) :
    v'.links ≤ v.links := by
  cases h with
  | ran => cases hrun
  | acceptEnded haccepts =>
      simp only [AcceptLoop.links]
      omega
  | acceptFailed haccepts hidle | accepted haccepts hidle =>
      simp only [AcceptLoop.links, hidle, AcceptStrand.link]
      omega
  | backedOff hstrand =>
      simp only [AcceptLoop.links, AcceptLoop.backoff, hstrand, AcceptStrand.link,
        List.length_append, List.length_singleton]
      omega
  | timerReleased hstrand =>
      simp only [AcceptLoop.links, hstrand, AcceptStrand.link]
      exact le_refl _
  | discarded | stale =>
      simp only [AcceptLoop.links, AcceptStrand.link]
      omega
  | @went _ strand _ hbusy =>
      have hlink := AcceptStrand.link_of_ne_idle hbusy
      have hle := strand.link_le
      simp only [AcceptLoop.links]
      omega
  | @reaccepting throws hstrand =>
      rw [AcceptLoop.links_doAccept]
      simp only [AcceptLoop.links, hstrand, AcceptStrand.link]
      split <;> omega
  | backoffEnded hidle hwaits | backoffElapsed hidle hwaits =>
      have hpos := List.length_pos_of_mem hwaits
      simp only [AcceptLoop.links, List.length_erase_of_mem hwaits, hidle, AcceptStrand.link]
      omega
  | stopRequested | stopAgain => exact le_refl _
  | stopping _ _ _ haccepts hwaits hstrand =>
      rw [AcceptLoop.links, haccepts, hwaits, hstrand]
      exact le_refl _

theorem ChainInv.waits_eq_nil (inv : ChainInv v) (hbusy : v.strand ≠ .idle) :
    v.backoffWaits = [] := by
  have hlinks := inv.links_le
  have hlink := AcceptStrand.link_of_ne_idle hbusy
  rw [AcceptLoop.links] at hlinks
  exact List.length_eq_zero_iff.mp (by omega)

theorem AcceptTransition.stopped_of_phase (h : AcceptTransition v a es v') (inv : ChainInv v)
    (hphase : v'.stopPhase ≠ .notCalled) : v'.stopped = true := by
  cases h with
  | stopRequested => rfl
  | stopping hphase _ hstopped => exact hstopped.trans (inv.stopped_of_phase hphase)
  | @ran throws => cases throws <;> exact inv.stopped_of_phase hphase
  | @reaccepting throws => cases throws <;> exact inv.stopped_of_phase hphase
  | _ => exact inv.stopped_of_phase hphase

/-- Only `stop` clears `alive_` and closes the acceptor. -/
theorem AcceptTransition.unstopped (h : AcceptTransition v a es v') (inv : ChainInv v)
    (hstopped : v'.stopped = false) :
    v.stopped = false ∧ v'.alive = v.alive ∧ v'.acceptorOpen = v.acceptorOpen := by
  cases h with
  | @ran throws => cases throws <;> exact ⟨hstopped, rfl, rfl⟩
  | @reaccepting throws => cases throws <;> exact ⟨hstopped, rfl, rfl⟩
  | stopRequested => cases hstopped
  | stopping hphase _ hstopped' =>
      rw [hstopped', inv.stopped_of_phase hphase] at hstopped
      cases hstopped
  | _ => exact ⟨hstopped, rfl, rfl⟩

/-- A step before `stop` leaves the timer that is waited for in `backoff_timer_`. -/
theorem AcceptTransition.current (h : AcceptTransition v a es v') (inv : ChainInv v)
    (hrunning : v.Running) (hstopped : v'.stopped = false) {timer : ℕ}
    (htimer : timer ∈ v'.backoffWaits ∨ v'.strand = .checkRetry timer) :
    v'.backoffTimer = some timer := by
  cases h with
  | @ran throws => cases throws <;> exact hrunning.current timer htimer
  | acceptEnded | stopAgain => exact hrunning.current timer htimer
  | acceptFailed | accepted | discarded | stale =>
      rcases htimer with hwaits | hstrand
      · exact hrunning.current timer (.inl hwaits)
      · cases hstrand
  | backedOff hstrand =>
      -- the strand held the only link
      have hnone := inv.waits_eq_nil (by simp [hstrand])
      rcases htimer with hwaits | hidle
      · simp only [AcceptLoop.backoff, hnone, List.nil_append, List.mem_singleton] at hwaits
        rw [hwaits]
        rfl
      · cases hidle
  | timerReleased hstrand =>
      have hnone := inv.waits_eq_nil (by simp [hstrand])
      simp [hnone] at htimer
  | went _ _ _ hnext =>
      rcases htimer with hwaits | hstrand
      · exact hrunning.current timer (.inl hwaits)
      · exact absurd hstrand (hnext.2.2 timer)
  | @reaccepting throws =>
      have hwaits : timer ∈ v.backoffWaits := by cases throws <;> simpa [AcceptLoop.doAccept] using htimer
      cases throws <;> exact hrunning.current timer (.inl hwaits)
  | backoffEnded =>
      rcases htimer with hwaits | hstrand
      · exact hrunning.current timer (.inl (List.mem_of_mem_erase hwaits))
      · exact hrunning.current timer (.inr hstrand)
  | backoffElapsed _ helapsed =>
      rcases htimer with hwaits | hstrand
      · exact hrunning.current timer (.inl (List.mem_of_mem_erase hwaits))
      · cases hstrand
        exact hrunning.current _ (.inl helapsed)
  | stopRequested => cases hstopped
  | stopping hphase _ hstopped' =>
      rw [hstopped', inv.stopped_of_phase hphase] at hstopped
      cases hstopped

theorem AcceptTransition.running (h : AcceptTransition v a es v') (inv : ChainInv v)
    (hstopped : v'.stopped = false) : v'.Running := by
  obtain ⟨hbefore, halive, hopen⟩ := h.unstopped inv hstopped
  have hrunning := inv.running hbefore
  exact ⟨halive.trans hrunning.alive, hopen.trans hrunning.acceptorOpen,
    fun _ htimer => h.current inv hrunning hstopped htimer⟩

theorem ChainInv.step (inv : ChainInv v) (h : acceptLoop.step v a es v') (hrun : a.isRun = false) :
    ChainInv v' := by
  have htransition := acceptTransition_of_step h
  exact ⟨(htransition.links_le hrun).trans inv.links_le, htransition.stopped_of_phase inv,
    htransition.running inv⟩

theorem chainInv_of_run {as : List AcceptAction} {throws : Bool}
    (run : acceptLoop.Run (AcceptLoop.construct.doAccept throws) as es v)
    (honce : ∀ a ∈ as, a.isRun = false) : ChainInv v :=
  (run.restrict_of_forall honce).preserves (chainInv_doAccept throws)
    fun _ _ _ _ inv h => inv.step h.2 h.1

theorem AcceptLoop.eq_of_run {throws : Bool} (h : acceptLoop.step .construct (.run throws) es v) :
    v = construct.doAccept throws ∧ es = [] := by
  cases h
  exact ⟨rfl, rfl⟩

/-- A server, too, has one chain after one call of `run`. -/
theorem ServerRun.accepts_le {lib : JsonLib} {handshakeTimeout : ℤ} {as : List ServerAction}
    {es : List WorldEvent} {v : WebsocketServer}
    (run : ServerRun lib handshakeTimeout (.run :: as) es v)
    (honce : ∀ a ∈ as, a.isRun = false) : v.accepts + v.backoffWaits.length ≤ 1 := by
  obtain ⟨_, t, _, hfirst, rest, rfl⟩ := Machine.Run.of_cons run
  have hloop : t.toAcceptLoop = AcceptLoop.construct.doAccept false := by
    cases hfirst
    rfl
  obtain ⟨bs, fs, loop, hruns⟩ := AcceptLoop.run_of_server rest
  rw [hloop] at loop
  have hlinks := (chainInv_of_run loop (hruns honce)).links_le
  rw [AcceptLoop.links] at hlinks
  omega

end Chain

/-! ## The backoff -/

/-- The transient errors in a row, by how the last accept ended. -/
def AcceptEvent.errors (k : ℕ) : AcceptEvent → ℕ
  | .accepted => 0
  | .failed => k + 1
  | .retryAfter _ => k

/-- The transient errors since the last success. -/
def consecutiveErrors (es : List AcceptEvent) : ℕ := es.foldl AcceptEvent.errors 0

/-- The law of the backoff. -/
structure BacksOff (es : List AcceptEvent) (v : AcceptLoop) : Prop where
  /-- After `k` errors since the last success the delay is `min (2 ^ (k - 1)) 30` seconds. -/
  delay : ∀ before delay after, es = before ++ .retryAfter delay :: after →
    0 < consecutiveErrors before ∧ delay.toInt = min (2 ^ (consecutiveErrors before - 1)) 30
  /-- A transient error is followed by a retry, unless its handler still runs. -/
  retries : ∀ before after, es = before ++ .failed :: after →
    after = [] ∧ v.strand = .backoff ∨ ∃ delay rest, after = .retryAfter delay :: rest

/-- What a step means for the backoff. -/
inductive BackoffStep (v v' : AcceptLoop) : List AcceptEvent → Prop
  | quiet (hstrand : v'.strand = .backoff ↔ v.strand = .backoff)
      (hseconds : v'.backoffSeconds = v.backoffSeconds) : BackoffStep v v' []
  | reset (hidle : v.strand ≠ .backoff) (hstrand : v'.strand ≠ .backoff)
      (hseconds : v'.backoffSeconds = 1) : BackoffStep v v' [.accepted]
  | failed (hidle : v.strand ≠ .backoff) (hstrand : v'.strand = .backoff)
      (hseconds : v'.backoffSeconds = v.backoffSeconds) : BackoffStep v v' [.failed]
  | retried (hstrand : v.strand = .backoff) (hidle : v'.strand ≠ .backoff)
      (hseconds : v'.backoffSeconds = min (v.backoffSeconds * 2) (Int32.ofNat Config.maxBackoff)) :
      BackoffStep v v' [.retryAfter v.backoffSeconds]

section Backoff

variable {v v' : AcceptLoop} {a : AcceptAction} {es es' : List AcceptEvent}

theorem AcceptTransition.backoffStep (h : AcceptTransition v a es v') : BackoffStep v v' es := by
  cases h with
  | @ran throws => cases throws <;> exact .quiet Iff.rfl rfl
  | acceptEnded | backoffEnded | stopRequested | stopAgain => exact .quiet Iff.rfl rfl
  | acceptFailed _ hidle => exact .failed (by simp [hidle]) rfl rfl
  | accepted _ hidle => exact .reset (by simp [hidle]) (by simp) rfl
  | backedOff hstrand => exact .retried hstrand (by simp [AcceptLoop.backoff]) rfl
  | timerReleased hstrand | stale hstrand => exact .quiet (by simp [hstrand]) rfl
  | discarded hstrand =>
      refine .quiet ?_ rfl
      rcases hstrand with hstrand | hstrand <;> simp [hstrand]
  | went _ _ hstrand hnext => exact .quiet (by simp [hstrand, hnext.2.1]) rfl
  | @reaccepting throws hstrand =>
      cases throws <;> exact .quiet (by simp [AcceptLoop.doAccept, hstrand]) rfl
  | backoffElapsed hidle => exact .quiet (by simp [hidle]) rfl
  | stopping _ _ _ _ _ hstrand hseconds => exact .quiet (by rw [hstrand]) hseconds

/-- Doubling does not overflow between 1 and 30. -/
theorem toInt_double {seconds : Int32} (hpos : 1 ≤ seconds.toInt) (hle : seconds.toInt ≤ 30) :
    (seconds * 2).toInt = seconds.toInt * 2 := by
  rw [Int32.toInt_mul]
  exact Int.bmod_eq_of_le (by simp; omega) (by simp; omega)

theorem one_le_min_pow (k : ℕ) : 1 ≤ min ((2 : ℤ) ^ k) 30 :=
  le_min (one_le_pow₀ (by decide)) (by decide)

theorem toInt_next {seconds : Int32} {k : ℕ} (h : seconds.toInt = min (2 ^ k) 30) :
    (min (seconds * 2) (Int32.ofNat Config.maxBackoff)).toInt = min (2 ^ (k + 1)) 30 := by
  have hpos := one_le_min_pow k
  have hcap : (Int32.ofNat Config.maxBackoff).toInt = 30 := by decide
  rw [Int32.toInt_min, toInt_double (by omega) (by omega), hcap, pow_succ]
  omega

@[simp] theorem consecutiveErrors_snoc (es : List AcceptEvent) (e : AcceptEvent) :
    consecutiveErrors (es ++ [e]) = e.errors (consecutiveErrors es) := by
  simp [consecutiveErrors]

/-- The law along a run: `backoff_seconds_` is the delay after the next error, and in the handler
of an error the delay after this one. -/
structure BackoffInv (v : AcceptLoop) (es : List AcceptEvent) : Prop where
  waiting : v.strand ≠ .backoff → v.backoffSeconds.toInt = min (2 ^ consecutiveErrors es) 30
  failing : v.strand = .backoff → 0 < consecutiveErrors es ∧
    v.backoffSeconds.toInt = min (2 ^ (consecutiveErrors es - 1)) 30
  law : BacksOff es v

theorem backoffInv_doAccept (throws : Bool) :
    BackoffInv (AcceptLoop.construct.doAccept throws) [] := by
  cases throws <;>
    · refine ⟨fun _ => by decide, ?_, ⟨by simp, by simp⟩⟩
      intro hstrand
      cases hstrand

/-- An event that is not a retry, outside the handler of an error. -/
theorem BacksOff.snoc {e : AcceptEvent} (law : BacksOff es v) (hidle : v.strand ≠ .backoff)
    (hretry : ∀ delay, e ≠ .retryAfter delay) (hfailed : e = .failed → v'.strand = .backoff) :
    BacksOff (es ++ [e]) v' := by
  constructor
  · intro before delay after hsplit
    rcases Machine.eq_append_cons_of_snoc hsplit with ⟨rest, -, hsplit⟩ | ⟨-, he, -⟩
    · exact law.delay before delay rest hsplit
    · exact absurd he.symm (hretry delay)
  · intro before after hsplit
    rcases Machine.eq_append_cons_of_snoc hsplit with ⟨rest, rfl, hbefore⟩ | ⟨rfl, he, -⟩
    · rcases law.retries before rest hbefore with ⟨-, hstrand⟩ | ⟨delay, rest, rfl⟩
      · exact absurd hstrand hidle
      · exact .inr ⟨delay, rest ++ [e], rfl⟩
    · exact .inl ⟨rfl, hfailed he.symm⟩

theorem BacksOff.retry {delay : Int32} (law : BacksOff es v) (hpos : 0 < consecutiveErrors es)
    (hdelay : delay.toInt = min (2 ^ (consecutiveErrors es - 1)) 30) :
    BacksOff (es ++ [.retryAfter delay]) v' := by
  constructor
  · intro before delay' after hsplit
    rcases Machine.eq_append_cons_of_snoc hsplit with ⟨rest, -, hsplit⟩ | ⟨-, he, rfl⟩
    · exact law.delay before delay' rest hsplit
    · cases he
      exact ⟨hpos, hdelay⟩
  · intro before after hsplit
    rcases Machine.eq_append_cons_of_snoc hsplit with ⟨rest, rfl, hbefore⟩ | ⟨-, he, -⟩
    · rcases law.retries before rest hbefore with ⟨rfl, -⟩ | ⟨delay', rest, rfl⟩
      · exact .inr ⟨delay, [], rfl⟩
      · exact .inr ⟨delay', rest ++ [.retryAfter delay], rfl⟩
    · cases he

theorem BackoffInv.step (inv : BackoffInv v es) (h : BackoffStep v v' es') :
    BackoffInv v' (es ++ es') := by
  cases h with
  | quiet hstrand hseconds =>
      rw [List.append_nil]
      refine ⟨?_, ?_, inv.law.delay, ?_⟩
      · intro hidle
        rw [hseconds]
        exact inv.waiting fun h => hidle (hstrand.mpr h)
      · intro hfailing
        rw [hseconds]
        exact inv.failing (hstrand.mp hfailing)
      · intro before after hsplit
        exact (inv.law.retries before after hsplit).imp_left fun h => ⟨h.1, hstrand.mpr h.2⟩
  | reset hidle hstrand hseconds =>
      refine ⟨?_, fun h => absurd h hstrand, inv.law.snoc hidle (by simp) (by simp)⟩
      intro _
      rw [hseconds, consecutiveErrors_snoc]
      rfl
  | failed hidle hstrand hseconds =>
      refine ⟨fun h => absurd hstrand h, ?_, inv.law.snoc hidle (by simp) fun _ => hstrand⟩
      intro _
      rw [hseconds, consecutiveErrors_snoc]
      exact ⟨Nat.succ_pos _, inv.waiting hidle⟩
  | retried hstrand hidle hseconds =>
      obtain ⟨hpos, hdelay⟩ := inv.failing hstrand
      refine ⟨?_, fun h => absurd h hidle, inv.law.retry hpos hdelay⟩
      intro _
      rw [hseconds, toInt_next hdelay, consecutiveErrors_snoc, AcceptEvent.errors]
      rw [Nat.sub_add_cancel hpos]

/-- `backoff_seconds_` stays in range. -/
theorem BackoffInv.seconds (inv : BackoffInv v es) :
    1 ≤ v.backoffSeconds.toInt ∧ v.backoffSeconds.toInt ≤ 30 := by
  by_cases hstrand : v.strand = .backoff
  · rw [(inv.failing hstrand).2]
    exact ⟨one_le_min_pow _, min_le_right _ _⟩
  · rw [inv.waiting hstrand]
    exact ⟨one_le_min_pow _, min_le_right _ _⟩

end Backoff

/-- After one call of `run` at most one accept or backoff wait is outstanding, and the backoff
keeps to its law, in range and without overflow. -/
theorem acceptChain_single {throws : Bool} {as : List AcceptAction} {es : List AcceptEvent}
    {v : AcceptLoop} (run : acceptLoop.Run .construct (.run throws :: as) es v)
    (honce : ∀ a ∈ as, a.isRun = false) :
    v.accepts + v.backoffWaits.length ≤ 1 ∧
      (1 ≤ v.backoffSeconds.toInt ∧ v.backoffSeconds.toInt ≤ 30 ∧
        (v.backoffSeconds * 2).toInt = v.backoffSeconds.toInt * 2) ∧
      BacksOff es v := by
  obtain ⟨es₁, t, es, hfirst, rest, rfl⟩ := run.of_cons
  obtain ⟨rfl, rfl⟩ := AcceptLoop.eq_of_run hfirst
  have hlinks := (chainInv_of_run rest honce).links_le
  have inv : BackoffInv v es :=
    rest.invariant (I := BackoffInv) (backoffInv_doAccept throws) fun _ _ _ _ _ inv h =>
      inv.step (acceptTransition_of_step h).backoffStep
  obtain ⟨hpos, hle⟩ := inv.seconds
  refine ⟨?_, ⟨hpos, hle, toInt_double hpos hle⟩, inv.law⟩
  rw [AcceptLoop.links] at hlinks
  omega

/-- Two accepts fail, each is retried, and the third succeeds. -/
def retriedActions : List AcceptAction :=
  [.onAccept (.failed false), .resume, .onBackoff 0 false, .resume, .doAccept false,
    .onAccept (.failed false), .resume, .onBackoff 1 false, .resume, .doAccept false,
    .onAccept .accepted, .resume, .resume, .resume, .create none, .doAccept false]

def retriedRun : AcceptLoop × List AcceptEvent :=
  (Machine.exec AcceptLoop.step .construct (.run false :: retriedActions)).get (by decide +kernel)

theorem acceptChain_single_retriedRun :
    retriedRun.2 = [.failed, .retryAfter 1, .failed, .retryAfter 2, .accepted] ∧
      retriedRun.1.accepts + retriedRun.1.backoffWaits.length ≤ 1 ∧
      BacksOff retriedRun.2 retriedRun.1 := by
  have run : acceptLoop.Run .construct (.run false :: retriedActions) retriedRun.2 retriedRun.1 :=
    Machine.run_get _
  have hsingle := acceptChain_single run (by decide +kernel)
  exact ⟨by decide +kernel, hsingle.1, hsingle.2.2⟩

/-! ## The loop is attended to -/

/-- Where no handler runs, an accept is outstanding, or a backoff timer whose handler will call
`do_accept`, or the server is stopped. -/
def Attended (v : AcceptLoop) : Prop :=
  v.strand = .idle →
    0 < v.accepts ∨
      (∃ timer ∈ v.backoffWaits, v.backoffTimer = some timer ∧ v.alive = true ∧
        v.acceptorOpen = true) ∨
      v.stopped = true

/-- `do_accept` throws, an accept ends with a fatal error or aborted, or a backoff wait with an
error. -/
def AcceptAction.disrupts : AcceptAction → Bool
  | .run throws | .doAccept throws => throws
  | .onAccept .aborted | .onAccept (.failed true) | .onBackoff _ true => true
  | _ => false

/-- None of this happens before the server is stopped. -/
def Undisrupted (v : AcceptLoop) (a : AcceptAction) : Prop := a.disrupts = true → v.stopped = true

instance (v : AcceptLoop) (a : AcceptAction) : Decidable (Undisrupted v a) :=
  inferInstanceAs (Decidable (_ → _))

section Attended

variable {v v' : AcceptLoop} {a : AcceptAction} {es : List AcceptEvent}

/-- The chain holds until the server is stopped. -/
def Chained (v : AcceptLoop) : Prop := v.stopped = false → 0 < v.links

theorem Chained.attended (h : Chained v) (inv : ChainInv v) : Attended v := by
  intro hidle
  by_cases hstopped : v.stopped = true
  · exact .inr (.inr hstopped)
  · rw [Bool.not_eq_true] at hstopped
    have hrunning := inv.running hstopped
    have hlinks := h hstopped
    rw [AcceptLoop.links, hidle, AcceptStrand.link] at hlinks
    cases hwaits : v.backoffWaits with
    | nil =>
        rw [hwaits, List.length_nil] at hlinks
        exact .inl (by omega)
    | cons timer rest =>
        have hcurrent := hrunning.current timer (.inl (by simp [hwaits]))
        exact .inr (.inl ⟨timer, by simp, hcurrent, hrunning.alive, hrunning.acceptorOpen⟩)

/-- A step that keeps to the condition leaves another link. -/
theorem AcceptTransition.chained (h : AcceptTransition v a es v') (inv : ChainInv v)
    (hchained : Chained v) (hrun : a.isRun = false) (hkeeps : Undisrupted v a) : Chained v' := by
  intro hstopped'
  obtain ⟨hstopped, -⟩ := h.unstopped inv hstopped'
  have hrunning := inv.running hstopped
  have hlinks := hchained hstopped
  have hquiet : a.disrupts = false := by
    by_contra hdisrupts
    exact absurd (hkeeps (by simpa using hdisrupts)) (by simp [hstopped])
  cases h with
  | ran => cases hrun
  | acceptEnded _ _ hends =>
      rcases hends with rfl | rfl | ⟨rfl, hclosed⟩
      · cases hquiet
      · cases hquiet
      · rw [hrunning.acceptorOpen] at hclosed
        cases hclosed
  | acceptFailed | accepted | timerReleased | backoffElapsed =>
      simp [AcceptLoop.links, AcceptStrand.link]
  | backedOff => simp [AcceptLoop.links, AcceptLoop.backoff]
  | went _ _ _ hnext =>
      rw [AcceptLoop.links, AcceptStrand.link_of_ne_idle hnext.1]
      omega
  | discarded _ hstop =>
      rcases hstop with hstop | hstop
      · rw [hstopped] at hstop
        cases hstop
      · rw [hrunning.alive] at hstop
        cases hstop
  | stale hstrand hstale =>
      rcases hstale with hclosed | hother
      · rw [hrunning.acceptorOpen] at hclosed
        cases hclosed
      · exact absurd (hrunning.current _ (.inr hstrand)) hother
  | backoffEnded _ _ hends =>
      rcases hends with rfl | hends
      · cases hquiet
      · rw [hrunning.alive] at hends
        cases hends
  | reaccepting =>
      cases hquiet
      simp [AcceptLoop.links, AcceptLoop.doAccept]
  | stopRequested | stopAgain => exact hlinks
  | stopping _ _ _ haccepts hwaits hstrand =>
      rw [AcceptLoop.links, haccepts, hwaits, hstrand]
      exact hlinks

/-- Nothing is outstanding where no link is left. -/
theorem not_attended_of_links (hidle : v.strand = .idle) (hnone : v.links = 0)
    (hstopped : v.stopped = false) : ¬ Attended v := by
  intro hattended
  rw [AcceptLoop.links] at hnone
  rcases hattended hidle with haccepts | ⟨timer, hwaits, -⟩ | hstop
  · omega
  · have hpos := List.length_pos_of_mem hwaits
    omega
  · rw [hstopped] at hstop
    cases hstop

/-- A step that does not keep to it breaks the chain. -/
theorem AcceptTransition.breaks (h : AcceptTransition v a es v') (inv : ChainInv v)
    (hrun : a.isRun = false) (hleaves : ¬ Undisrupted v a) : ¬ Attended v' := by
  obtain ⟨hdisrupts, hstopped⟩ : a.disrupts = true ∧ v.stopped = false := by
    simpa [Undisrupted] using hleaves
  have hlinks := inv.links_le
  rw [AcceptLoop.links] at hlinks
  cases h with
  | ran => cases hrun
  | acceptEnded haccepts hidle =>
      refine not_attended_of_links hidle ?_ hstopped
      simp only [AcceptLoop.links, hidle, AcceptStrand.link] at hlinks ⊢
      omega
  | backoffEnded hidle hwaits =>
      refine not_attended_of_links hidle ?_ hstopped
      have hpos := List.length_pos_of_mem hwaits
      simp only [AcceptLoop.links, hidle, AcceptStrand.link, List.length_erase_of_mem hwaits]
        at hlinks ⊢
      omega
  | reaccepting hstrand =>
      cases hdisrupts
      refine not_attended_of_links rfl ?_ hstopped
      simp only [AcceptLoop.doAccept, if_true, AcceptLoop.links, hstrand, AcceptStrand.link]
        at hlinks ⊢
      omega
  | went hgoes =>
      rcases hgoes with rfl | ⟨session, rfl⟩ <;> cases hdisrupts
  | _ => cases hdisrupts

end Attended

/-- After one call of `run`, the accept loop is attended to in every state it comes to exactly
in those runs that are not disrupted. -/
theorem attended_iff {throws : Bool} {as : List AcceptAction} {us : List AcceptLoop}
    {v : AcceptLoop} (run : acceptLoop.visiting.Run .construct (.run throws :: as) us v)
    (honce : ∀ a ∈ as, a.isRun = false) :
    (∀ u ∈ us, Attended u) ↔
      (acceptLoop.visiting.restrict Undisrupted).Run .construct (.run throws :: as) us v := by
  obtain ⟨us₁, t, us, ⟨⟨es, hfirst⟩, rfl⟩, rest, rfl⟩ := run.of_cons
  obtain ⟨rfl, rfl⟩ := AcceptLoop.eq_of_run hfirst
  cases throws with
  | true =>
      -- `do_accept` of `run` throws, and nothing was ever outstanding
      constructor
      · intro hall
        have hattended := hall (AcceptLoop.construct.doAccept true) (by simp)
        exact absurd hattended (not_attended_of_links rfl rfl rfl)
      · intro kept
        obtain ⟨_, _, _, ⟨hkeeps, -⟩, -⟩ := kept.of_cons
        cases hkeeps rfl
  | false =>
      have inv : ChainInv (AcceptLoop.construct.doAccept false) ∧
          Chained (AcceptLoop.construct.doAccept false) :=
        ⟨chainInv_doAccept false, fun _ => by decide⟩
      have hrest := rest.forall_visited_iff_restrict (C := Undisrupted)
        (I := fun v => ChainInv v ∧ Chained v) (P := Attended) inv honce
        (by
          rintro v a es v' ⟨inv, hchained⟩ hrun h hkeeps
          have inv' := inv.step h hrun
          have hchained' := (acceptTransition_of_step h).chained inv hchained hrun hkeeps
          exact ⟨⟨inv', hchained'⟩, hchained'.attended inv'⟩)
        (by
          rintro v a es v' ⟨inv, -⟩ hrun h hleaves
          exact (acceptTransition_of_step h).breaks inv hrun hleaves)
      rw [List.forall_mem_append, hrest]
      constructor
      · rintro ⟨-, kept⟩
        have hkeeps : Undisrupted .construct (.run false) := nofun
        exact kept.cons ⟨hkeeps, ⟨_, hfirst⟩, rfl⟩
      · intro kept
        obtain ⟨us₁, t, us', ⟨-, -, rfl⟩, kept, heq⟩ := kept.of_cons
        cases heq
        refine ⟨?_, kept⟩
        simpa using inv.2.attended inv.1

/-- The accepts that fail are retried, and the loop goes on though a session cannot be made. -/
theorem attended_iff_retriedRun :
    ∃ us, (acceptLoop.visiting.restrict Undisrupted).Run .construct
        (.run false :: retriedActions) us retriedRun.1 ∧ ∀ u ∈ us, Attended u := by
  have run : (acceptLoop.restrict Undisrupted).Run .construct (.run false :: retriedActions)
      ((Machine.exec (Machine.guarded Undisrupted AcceptLoop.step) .construct
        (.run false :: retriedActions)).get (by decide +kernel)).2 retriedRun.1 :=
    Machine.run_restrict_get _
  obtain ⟨us, visited⟩ := run.visiting
  exact ⟨us, visited, (attended_iff visited.of_restrict (by decide +kernel)).mpr visited⟩

/-- An accept fails with `access_denied`: nothing is outstanding then, and the server goes on. -/
theorem not_attended :
    ¬ ∀ (throws : Bool) (as : List AcceptAction) (us : List AcceptLoop) (v : AcceptLoop),
      acceptLoop.visiting.Run .construct (.run throws :: as) us v →
      (∀ a ∈ as, a.isRun = false) → ∀ u ∈ us, Attended u := by
  intro hall
  have hfirst : acceptLoop.visiting.step .construct (.run false)
      [AcceptLoop.construct.doAccept false] (AcceptLoop.construct.doAccept false) :=
    ⟨⟨[], rfl⟩, rfl⟩
  have hfatal : acceptLoop.visiting.step (AcceptLoop.construct.doAccept false)
      (.onAccept (.failed true)) [.construct] .construct := ⟨⟨[], rfl⟩, rfl⟩
  have hattended := hall false [.onAccept (.failed true)] _ _ (.cons hfirst (.single hfatal))
    (by decide) .construct (by simp)
  exact not_attended_of_links rfl rfl rfl hattended

end CppSim.Server
