import CppSim.Server.Session.Barred

/-!
# Replies within a window

The limiter admits a bounded number of messages in any window, and a handler replies to a
message at most once.  A session whose write queue is empty when a window starts therefore
holds no more messages at its end than were admitted, if no other thread sends any
(`WindowInv`).

The reply to a message may be an error that closes the session; between the error and the
close the queue holds one message more.  No reply is sent there.
-/

namespace CppSim.Server

/-- The replies that the handler on the strand may yet send to the message it handles. -/
def Strand.owes : Strand → ℕ
  | .checkBurst _ | .generate _ | .insert _ _ | .storeId _ | .sendResponse _
  | .sendReload _ _ => 1
  | _ => 0

/-- The handler has sent an error, and is about to request a close. -/
def Strand.leaves : Strand → Bool
  | .close _ | .post (.close _) => true
  | _ => false

@[simp] theorem After.owes_strand (after : After) : after.strand.owes = 0 := by
  cases after <;> rfl

@[simp] theorem After.leaves_strand (after : After) : after.strand.leaves = false := by
  cases after <;> rfl

theorem Next.owes_strand (next : Next) : next.strand.owes = 0 := by
  cases next <;> rfl

/-- The messages in the queue, and the reply that is owed. -/
def WebsocketSession.backlog (s : WebsocketSession) : ℕ := s.writeQueue.length + s.strand.owes

/-- The messages admitted since a time, of those the limiter remembers. -/
def WebsocketSession.admittedSince (s : WebsocketSession) (start : ℤ) : ℕ :=
  s.messageTimestamps.countP fun timestamp => start ≤ timestamp

/-- What holds of a session up to the end of the window that starts at `start`: while it is
open, the backlog is at most the number of messages that were admitted. -/
structure WindowInv (start window : ℤ) (maxMessages : ℕ) (s : WebsocketSession) : Prop where
  started : start ≤ s.now
  bounded : s.now ≤ start + window → s.isClosing = false → s.strand.leaves = false →
    s.backlog ≤ maxMessages ∧ s.backlog ≤ s.admittedSince start

section Window

variable {lib : JsonLib} {s t : WebsocketSession} {a : Action} {es : List Event}
  {start window : ℤ} {maxMessages : ℕ}

/-- At the start of a window the queue is empty and no message is being handled. -/
theorem windowInv_start (hidle : s.strand = .idle) (hqueue : s.writeQueue = []) :
    WindowInv s.now window maxMessages s where
  started := le_refl _
  bounded := by
    intro _ _ _
    simp [WebsocketSession.backlog, hidle, hqueue, Strand.owes]

theorem Transition.now_le (h : Transition lib s a es t) : s.now ≤ t.now := by
  cases h with
  | tick duration => exact Int.le_add_of_nonneg_right (Int.natCast_nonneg duration)
  | _ => exact le_refl _

/-- A step that closes the session, or is about to. -/
private theorem WindowInv.of_gone (inv : WindowInv start window maxMessages s)
    (hnow : s.now ≤ t.now) (hgone : t.isClosing = false → t.strand.leaves = true) :
    WindowInv start window maxMessages t where
  started := inv.started.trans hnow
  bounded := by
    intro _ hopen hleaves
    rw [hgone hopen] at hleaves
    cases hleaves

/-- A step that adds nothing to the backlog. -/
private theorem WindowInv.of_le (inv : WindowInv start window maxMessages s)
    (hnow : s.now ≤ t.now) (hclosing : s.isClosing = true → t.isClosing = true)
    (hleaves : t.isClosing = false → t.strand.leaves = false → s.strand.leaves = false)
    (hbacklog : t.backlog ≤ s.backlog) (hstamps : t.messageTimestamps = s.messageTimestamps) :
    WindowInv start window maxMessages t where
  started := inv.started.trans hnow
  bounded := by
    intro hend hopen hstays
    have hopen' : s.isClosing = false := by
      by_contra hclosed
      rw [hclosing (by simpa using hclosed)] at hopen
      cases hopen
    obtain ⟨hmax, hadmitted⟩ := inv.bounded (hnow.trans hend) hopen' (hleaves hopen hstays)
    refine ⟨hbacklog.trans hmax, hbacklog.trans ?_⟩
    rw [WebsocketSession.admittedSince, hstamps]
    exact hadmitted

/-- The limiter counts the message that it admits, and forgets none of the window. -/
private theorem WindowInv.of_limiter {n : ℕ} {strand : Strand} {limited : Bool}
    {messageTimestamps : List ℤ} (inv : WindowInv start window maxMessages s)
    (hidle : s.strand = .idle) (howes : strand.owes ≤ (!limited).toNat)
    (hlimit : checkRateLimit window maxMessages s.now s.messageTimestamps =
      (messageTimestamps, limited)) :
    WindowInv start window maxMessages { s with reads := n, messageTimestamps, strand } where
  started := inv.started
  bounded := by
    intro hend hopen _
    obtain ⟨hmax, hadmitted⟩ := inv.bounded hend hopen (by rw [hidle]; rfl)
    rw [checkRateLimit_eq_arrive, Prod.mk.injEq] at hlimit
    obtain ⟨hstamps, hpassed⟩ := hlimit
    have hcount := SlidingWindow.countP_arrive maxMessages s.messageTimestamps inv.started hend
    have hadmits : (SlidingWindow.arrive window maxMessages s.messageTimestamps s.now).2 =
        !limited := by
      rw [← hpassed, Bool.not_not]
    rw [hstamps, hadmits] at hcount
    have hqueue : s.backlog = s.writeQueue.length := by
      simp [WebsocketSession.backlog, hidle, Strand.owes]
    have hsince : s.backlog ≤ s.messageTimestamps.countP fun timestamp => start ≤ timestamp :=
      hadmitted
    simp only [WebsocketSession.backlog, WebsocketSession.admittedSince]
    rw [hcount]
    refine ⟨?_, by omega⟩
    cases limited with
    | true => simp at howes; omega
    | false =>
        have hlength : messageTimestamps.length ≤ maxMessages := by
          rw [← hstamps]
          exact SlidingWindow.length_arrive_le hadmits
        have hle : messageTimestamps.countP (fun timestamp => start ≤ timestamp) ≤
            messageTimestamps.length := List.countP_le_length
        simp at howes hcount
        omega

/-- A step away from a point of a handler that adds nothing to the backlog. -/
private theorem WindowInv.of_strand (inv : WindowInv start window maxMessages s)
    (hnow : s.now ≤ t.now) (hclosing : s.isClosing = true → t.isClosing = true)
    (hstays : s.strand.leaves = false) (howes : t.strand.owes ≤ s.strand.owes)
    (hqueue : t.writeQueue.length ≤ s.writeQueue.length)
    (hstamps : t.messageTimestamps = s.messageTimestamps) :
    WindowInv start window maxMessages t :=
  inv.of_le hnow hclosing (fun _ _ => hstays) (Nat.add_le_add hqueue howes) hstamps

/-- A message queued on the strand is the reply that was owed, or it closes the session. -/
private theorem WindowInv.of_queued {source : Source} {message : Text} {next : Next}
    {failed strand : Strand} {writing : Bool} (inv : WindowInv start window maxMessages s)
    (hsends : Sends lib s source message next failed)
    (hstrand : strand = .post next ∨ strand = next.strand) :
    WindowInv start window maxMessages
      { s with writeQueue := s.writeQueue ++ [message], writing, strand } := by
  have howes : strand.owes = 0 := by
    rcases hstrand with rfl | rfl
    · rfl
    · exact Next.owes_strand next
  cases hsends with
  | error =>
      refine inv.of_gone (le_refl _) fun _ => ?_
      rcases hstrand with rfl | rfl <;> rfl
  | response hsending | reload hsending =>
      have hone : s.strand.owes = 1 := by rw [hsending]; rfl
      refine inv.of_le (le_refl _) id (fun _ _ => ?_) ?_ rfl
      · rw [hsending]
        rfl
      · simp [WebsocketSession.backlog, hone, howes]

/-- The limiter reads these limits, and no other thread sends. -/
def Action.Windowed (window : ℤ) (maxMessages : ℕ) : Action → Prop
  | .onRead (.message _ rateLimitWindow limit _) => rateLimitWindow = window ∧ limit = maxMessages
  | .send _ => False
  | _ => True

theorem WindowInv.step (inv : WindowInv start window maxMessages s) (control : ControlInv s)
    (hlimits : a.Windowed window maxMessages) (h : Transition lib s a es t) :
    WindowInv start window maxMessages t := by
  have hnow : s.now ≤ t.now := h.now_le
  have hclosing : s.isClosing = true → t.isClosing = true := h.isClosing control
  cases h with
  | callerStart | callerJoin | callerRefused => exact hlimits.elim
  | tick | elapsed | timerFailed | armed | accepting | managerDropped | destroyed | acceptDropped
  | readDropped | deadlineStopped | deadlineRewaited | callerPosted | closeForgotten
  | closeDispatched | writtenLast | writeAbandoned =>
      exact inv.of_le hnow hclosing (fun _ => id) (le_refl _) rfl
  | acceptFailed | readFailed | closeBegun =>
      refine inv.of_gone hnow fun hopen => ?_
      rw [WebsocketSession.isClosing_of_closed rfl] at hopen
      cases hopen
  | closeCalled | closeClosed | closeOpen | writeFailed =>
      refine inv.of_gone hnow fun hopen => ?_
      rw [WebsocketSession.isClosing_of_closeRequested rfl] at hopen
      cases hopen
  | disconnecting | errorUnprinted => exact inv.of_gone hnow fun _ => rfl
  | sendRefused hsends =>
      refine inv.of_gone hnow fun _ => ?_
      cases hsends <;> rfl
  | queuedStart hsends => exact inv.of_queued hsends (Or.inl rfl)
  | queuedJoin hsends => exact inv.of_queued hsends (Or.inr rfl)
  | readLimited hidle _ _ hlimit =>
      obtain ⟨rfl, rfl⟩ := hlimits
      exact inv.of_limiter hidle (Nat.zero_le _) hlimit
  | readPassed hidle _ _ hlimit =>
      obtain ⟨rfl, rfl⟩ := hlimits
      exact inv.of_limiter hidle (le_refl _) hlimit
  | failing hmay =>
      refine inv.of_strand hnow hclosing ?_ (Nat.zero_le _) (le_refl _) rfl
      cases hstrand : s.strand with
      | close | post => exact absurd hmay (by rw [hstrand]; exact id)
      | _ => rfl
  | @posted next hstrand =>
      cases next with
      | close after => exact inv.of_gone hnow fun _ => rfl
      | authenticate | commit | leave =>
          exact inv.of_strand hnow hclosing (by rw [hstrand]; rfl) (Nat.zero_le _) (le_refl _) rfl
  | checkBusy hstrand | closeSkipped hstrand | shutdown hstrand =>
      refine inv.of_strand hnow hclosing (by rw [hstrand]; rfl) ?_ (le_refl _) rfl
      rw [After.owes_strand]
      exact Nat.zero_le _
  | writeTaken hidle _ _ hqueue =>
      refine inv.of_strand hnow hclosing (by rw [hidle]; rfl) (Nat.zero_le _) ?_ rfl
      rw [hqueue]
      exact Nat.le_succ _
  | registering hstrand | generated hstrand | collided hstrand | registered hstrand
  | idStored hstrand | reloadAccepted hstrand =>
      exact inv.of_strand hnow hclosing (by rw [hstrand]; rfl) (by rw [hstrand]; rfl) (le_refl _) rfl
  | accepted hstrand | actionAccepted hstrand | authenticated hstrand | committed hstrand
  | guardStopped hstrand | rearmed hstrand | readStopped hstrand | reading hstrand
  | checkIdle hstrand | lambdaBusy hstrand | lambdaIdle hstrand | closeUnregistered hstrand
  | unregistered hstrand | handed hstrand | writtenClosing hstrand | writtenMore hstrand
  | timedOut hstrand =>
      exact inv.of_strand hnow hclosing (by rw [hstrand]; rfl) (Nat.zero_le _) (le_refl _) rfl

/-- Within the window a reply of an open session finds at most the messages admitted. -/
theorem WindowInv.length_le (inv : WindowInv start window maxMessages s)
    (hend : s.now ≤ start + window) (hopen : s.isClosing = false) {source : Source}
    {message : Text} {next : Next} {failed : Strand}
    (hsends : Sends lib s source message next failed) : s.writeQueue.length ≤ maxMessages := by
  have hstays : s.strand.leaves = false := by
    cases hsends with
    | error hstrand | response hstrand | reload hstrand => rw [hstrand]; rfl
  exact (Nat.le_add_right _ _).trans (inv.bounded hend hopen hstays).1

end Window

end CppSim.Server
