import CppSim.Library.AntiReplay
import CppSim.Library.Word
import CppSim.Server.Session.Control

/-!
# Replay protection

`handle_action` accepts a sequence number that exceeds the last one by at most
`max_sequence_gap`, and computes the difference in `uint64_t`.  Since the number is
larger than the last one, the wrapped difference is the true one, from the sentinel
`-1` up to the largest `int64_t` (`gap_le_iff`).  The session is therefore an anti-replay
receiver that starts at `-1`.
-/

namespace CppSim.Server

open Protocol

/-! ## The gap -/

/-- The comparison `handle_action` makes in `uint64_t`. -/
theorem gap_le_iff {seq lastSeq gap : Int64} (hnew : lastSeq < seq) (hgap : 0 ≤ gap.toInt) :
    seq.toUInt64 - lastSeq.toUInt64 ≤ gap.toUInt64 ↔ seq.toInt ≤ lastSeq.toInt + gap.toInt := by
  have hdiff := Int64.toNat_toUInt64_sub (Int64.lt_iff_toInt_lt.mp hnew).le
  have hlimit : (gap.toUInt64.toNat : ℤ) = gap.toInt := by
    rw [Int64.toNat_toUInt64, Int.emod_eq_of_lt hgap]
    have := gap.toInt_lt
    omega
  rw [UInt64.le_iff_toNat_le]
  omega

/-- A reading of `max_sequence_gap` in the range the configuration is kept in. -/
def Action.GapInRange : Action → Prop
  | .handleMessage maxSequenceGap _ => 100 ≤ maxSequenceGap.toInt ∧ maxSequenceGap.toInt ≤ 100000
  | _ => True

/-! ## Runs -/

section Replay

variable {lib : JsonLib} {now handshakeTimeout : ℤ} {s t : WebsocketSession} {a : Action}
  {as : List Action} {es fs : List Event}

/-- The sequence numbers of the accepted actions, each with the gap read for it. -/
def acceptedActions (es : List Event) : List (ℤ × ℤ) :=
  es.filterMap fun
    | .actionAccepted seq maxSequenceGap => some (seq.toInt, maxSequenceGap.toInt)
    | _ => none

/-- The session is an anti-replay receiver that starts at the sentinel. -/
structure ReplayInv (s : WebsocketSession) (es : List Event) : Prop where
  history : AntiReplay.History (-1) (acceptedActions es)
  latest : s.lastSequenceNumber.toInt = AntiReplay.latest (-1) (acceptedActions es)

theorem ReplayInv.step (h : Transition lib s a fs t) (hgap : a.GapInRange)
    (inv : ReplayInv s es) : ReplayInv t (es ++ fs) := by
  have hsilent (hnone : acceptedActions fs = [])
      (hlast : t.lastSequenceNumber = s.lastSequenceNumber) : ReplayInv t (es ++ fs) := by
    have happend : acceptedActions (es ++ fs) = acceptedActions es := by
      rw [acceptedActions, List.filterMap_append, ← acceptedActions, ← acceptedActions, hnone,
        List.append_nil]
    exact ⟨happend ▸ inv.history, happend ▸ hlast ▸ inv.latest⟩
  cases h with
  | @actionAccepted message gap logged seq activity hstrand hquiet hverdict =>
      obtain ⟨_, header, _, _, haction⟩ := WebsocketSession.handle_eq_acceptAction.mp hverdict
      obtain ⟨action, _, _, _, hnew, hnear⟩ :=
        WebsocketSession.handleAction_eq_acceptAction.mp haction
      have hgap' : 0 ≤ gap.toInt := (by norm_num : (0 : ℤ) ≤ 100).trans hgap.1
      rw [gap_le_iff hnew hgap', inv.latest] at hnear
      rw [Int64.lt_iff_toInt_lt, inv.latest] at hnew
      have happend : acceptedActions (es ++ [.actionAccepted seq gap]) =
          acceptedActions es ++ [(seq.toInt, gap.toInt)] := by
        simp [acceptedActions]
      refine ⟨?_, ?_⟩
      · rw [happend]
        exact inv.history.snoc ⟨hnew, hnear⟩
      · rw [happend, AntiReplay.latest_snoc]
  | destroyed _ hes =>
      refine hsilent ?_ rfl
      rw [hes]
      split
      · rfl
      · exact WebsocketSession.filterMap_unregisterEvents (fun _ => rfl) _
  | closeUnregistered | unregistered =>
      exact hsilent (WebsocketSession.filterMap_unregisterEvents (fun _ => rfl) _) rfl
  | shutdown _ he =>
      refine hsilent ?_ rfl
      rw [he]
      split <;> rfl
  | _ => exact hsilent rfl rfl

theorem replayInv_of_run (run : SessionRun lib now handshakeTimeout as es s)
    (hgaps : ∀ a ∈ as, a.GapInRange) : ReplayInv s es :=
  (run.restrict_of_forall hgaps).invariant ⟨.nil, rfl⟩ fun _ _ _ _ _ inv hstep =>
    inv.step (transition_of_step hstep.2).2 hstep.1

/-- A client message that is well formed: it parses as the ACTION `action` of the session. -/
structure WellFormedAction (lib : JsonLib) (s : WebsocketSession) (message : Text)
    (action : ActionMessage) : Prop where
  authenticated : s.state ≠ .unauthenticated
  parses : ∃ header, (extractMessageTypeAndJson lib message).value = some header ∧
    header.messageType = MessageType.action ∧
    (parseActionFromEnvelope lib header.envelopeJson).value = some action
  sessionId : action.sessionId = s.sessionId

/-- What `handle_message` decides about a well-formed action. -/
theorem WellFormedAction.verdict_iff {message : Text} {action : ActionMessage}
    {gap logged : Int64} (h : WellFormedAction lib s message action) (hgap : 0 ≤ gap.toInt) :
    (s.handle lib message gap logged).verdict = .acceptAction action.sequenceNumber ↔
      AntiReplay.Accepts s.lastSequenceNumber.toInt action.sequenceNumber.toInt gap.toInt := by
  obtain ⟨header, hheader, htype, hparse⟩ := h.parses
  rw [WebsocketSession.handle_eq_acceptAction]
  constructor
  · rintro ⟨_, header', hheader', _, hverdict⟩
    obtain rfl : header = header' := Option.some.inj (hheader ▸ hheader')
    obtain ⟨_, _, _, _, hnew, hnear⟩ := WebsocketSession.handleAction_eq_acceptAction.mp hverdict
    exact ⟨Int64.lt_iff_toInt_lt.mp hnew, (gap_le_iff hnew hgap).mp hnear⟩
  · rintro ⟨hnew, hnear⟩
    have hnew' := Int64.lt_iff_toInt_lt.mpr hnew
    exact ⟨h.authenticated, header, hheader, htype,
      WebsocketSession.handleAction_eq_acceptAction.mpr
        ⟨action, hparse, h.sessionId, rfl, hnew', (gap_le_iff hnew' hgap).mpr hnear⟩⟩

/-- The message handler accepts an action when its verdict is to accept it. -/
theorem step_actionAccepted_iff {message : Text} {gap logged seq : Int64} {activity : Activity}
    (hlive : s.destroyed = false) (hstrand : s.strand = .checkBurst message)
    (hquiet : checkSuspiciousActivity s.now s.activity = (activity, false)) :
    (∃ t, (session lib).step s (.handleMessage gap logged) [.actionAccepted seq gap] t) ↔
      (s.handle lib message gap logged).verdict = .acceptAction seq := by
  constructor
  · rintro ⟨t, hstep⟩
    obtain ⟨_, htransition⟩ := transition_of_step hstep
    cases htransition with
    | actionAccepted hstrand' _ hverdict =>
        obtain rfl : message = _ := Strand.checkBurst.inj (hstrand ▸ hstrand')
        exact hverdict
  · intro hverdict
    refine ⟨{ s with activity, lastSequenceNumber := seq, strand := .readGuard }, ?_⟩
    show sessionStep lib s _ = _
    simp [sessionStep, WebsocketSession.step, hlive, hstrand, WebsocketSession.handleMessage,
      hquiet, hverdict]

/-- The accepted sequence numbers of a run are strictly increasing, nonnegative and without
repetition, each within the gap read for it; and a well-formed action that is not part of
a burst is accepted exactly when its number is new and within the gap. -/
theorem replay_protection (run : SessionRun lib now handshakeTimeout as es s)
    (hgaps : ∀ a ∈ as, a.GapInRange) :
    ((acceptedActions es).map Prod.fst).Pairwise (· < ·) ∧
      ((acceptedActions es).map Prod.fst).Nodup ∧
      (∀ entry ∈ acceptedActions es, 0 ≤ entry.1) ∧
      (∀ before number gap after, acceptedActions es = before ++ (number, gap) :: after →
        AntiReplay.latest (-1) before < number ∧
          number ≤ AntiReplay.latest (-1) before + gap) ∧
      ∀ message action gap logged activity, s.strand = .checkBurst message →
        checkSuspiciousActivity s.now s.activity = (activity, false) →
        WellFormedAction lib s message action → (Action.handleMessage gap logged).GapInRange →
        ((∃ t, (session lib).step s (.handleMessage gap logged)
            [.actionAccepted action.sequenceNumber gap] t) ↔
          AntiReplay.latest (-1) (acceptedActions es) < action.sequenceNumber.toInt ∧
            action.sequenceNumber.toInt ≤
              AntiReplay.latest (-1) (acceptedActions es) + gap.toInt) := by
  have inv := replayInv_of_run run hgaps
  refine ⟨inv.history.pairwise_lt, inv.history.nodup, ?_, ?_, ?_⟩
  · intro entry hmem
    have := (inv.history.bounds.2 entry hmem).1
    omega
  · intro before number gap after hsplit
    exact inv.history.accepts hsplit
  · intro message action gap logged activity hstrand hquiet hformed hgap
    have hlive : s.destroyed = false := by
      by_contra hdestroyed
      have hidle := (controlInv_of_run run).idle_of_destroyed (by simpa using hdestroyed)
      rw [hidle] at hstrand
      cases hstrand
    rw [step_actionAccepted_iff hlive hstrand hquiet,
      hformed.verdict_iff ((by norm_num : (0 : ℤ) ≤ 100).trans hgap.1), inv.latest]
    rfl

/-! ## A client that folds -/

/-- The id of the sample session. -/
def foldSid : Text := text "sess_0000000000000001"

def foldLib : JsonLib :=
  .knowing [handshakeEnvelope, foldEnvelope foldSid 9999, foldEnvelope foldSid 10000]

/-- Up to the second fold, which the limiter has passed. -/
def foldActions : List Action :=
  connectActions foldSid ++
    [.onRead (.message ((foldEnvelope foldSid 9999).print 4) (seconds 1) 10 10),
      .handleMessage 10000 10000, .rearm (seconds 86400), .resume,
      .onRead (.message ((foldEnvelope foldSid 10000).print 4) (seconds 1) 10 10)]

def foldRun : WebsocketSession × List Event :=
  (Machine.exec (sessionStep foldLib) (.construct 0 (seconds 10)) foldActions).get
    (by decide +kernel)

/-- The first number has the largest gap from the sentinel, and the second is the next one. -/
theorem replay_protection_fold :
    acceptedActions foldRun.2 = [(9999, 10000)] ∧
      ((acceptedActions foldRun.2).map Prod.fst).Nodup ∧
      ∃ t, (session foldLib).step foldRun.1 (.handleMessage 100 100) [.actionAccepted 10000 100] t := by
  have run : SessionRun foldLib 0 (seconds 10) foldActions foldRun.2 foldRun.1 := Machine.run_get _
  have hgaps : ∀ a ∈ foldActions, a.GapInRange := by
    have hten : (10000 : Int64).toInt = 10000 := by decide
    simp [foldActions, connectActions, Action.GapInRange, hten]
  have haccepted : acceptedActions foldRun.2 = [(9999, 10000)] := by decide +kernel
  obtain ⟨_, hnodup, _, _, hiff⟩ := replay_protection run hgaps
  refine ⟨haccepted, hnodup, ?_⟩
  refine (hiff ((foldEnvelope foldSid 10000).print 4)
    { sessionId := foldSid, actionType := ActionType.fold, amount := none, sequenceNumber := 10000 }
    100 100 ⟨0, 3⟩ (by decide +kernel) (by decide +kernel) ?_ ⟨by decide, by decide⟩).mpr ?_
  · have hparses : ((extractMessageTypeAndJson foldLib
        ((foldEnvelope foldSid 10000).print 4)).value.map fun header =>
        (header.messageType, (parseActionFromEnvelope foldLib header.envelopeJson).value)) =
        some (MessageType.action, some ⟨foldSid, ActionType.fold, none, 10000⟩) := by
      decide +kernel
    obtain ⟨header, hheader, hfields⟩ := Option.map_eq_some_iff.mp hparses
    obtain ⟨htype, hparse⟩ := Prod.mk.inj hfields
    exact ⟨by decide +kernel, ⟨header, hheader, htype, hparse⟩, by decide +kernel⟩
  · rw [haccepted]
    decide

end Replay

end CppSim.Server
