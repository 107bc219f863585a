import CppSim.Library.Saturation
import CppSim.Library.Word
import CppSim.Server.Session.Transition

/-!
# The reload ledger

`current_stack_` is the balance of a ledger.  An accepted RELOAD_REQUEST is answered by
one RELOAD_RESPONSE, which names the balance the request leads to; the balance is
stored only once the response is queued.  `Ledger` says which sequences of requests,
responses and stores that allows and which balance each leaves; a session keeps to it,
and where its strand is within such a sequence is its `ReloadStage`.

The amounts are bounded by the parser and the balance by the cap, so the sum of the two
is far from the end of `int64_t`.
-/

namespace CppSim.Server

open Protocol

/-! ## The ledger -/

/-- The stack a reload of `amount` leads to. -/
def reloaded (stack amount : Int64) : Int64 := min (stack + amount) maxAmount

/-- The events a reload consists of. -/
def Event.isReload : Event → Bool
  | .reloadAccepted _ | .queued (.reloadResponse _ _) _ | .refused (.reloadResponse _ _) _
  | .stackCommitted _ => true
  | _ => false

/-- An amount the parser lets pass. -/
def ValidAmount (amount : Int64) : Prop :=
  0 < amount.toInt ∧ amount.toInt ≤ maxAmount.toInt

/-- The balances and the reloads that led to them. -/
inductive Ledger (lib : JsonLib) : Int64 → List Event → Prop
  | opened : Ledger lib Config.placeholderStack []
  /-- The response is queued, and the balance it names is stored. -/
  | granted {stack amount : Int64} {τ : List Event} {response : Text} :
      Ledger lib stack τ → ValidAmount amount →
      serializeReloadResponse lib { granted := true, newStack := reloaded stack amount } =
        .ok response →
      Ledger lib (reloaded stack amount)
        (τ ++ [.reloadAccepted amount, .queued (.reloadResponse amount (reloaded stack amount)) response,
          .stackCommitted (reloaded stack amount)])
  /-- The response is not queued. -/
  | declined {stack amount : Int64} {τ : List Event} {response : Text} :
      Ledger lib stack τ → ValidAmount amount →
      Ledger lib stack
        (τ ++ [.reloadAccepted amount,
          .refused (.reloadResponse amount (reloaded stack amount)) response])
  /-- The response could not be printed. -/
  | unanswered {stack amount : Int64} {τ : List Event} :
      Ledger lib stack τ → ValidAmount amount → Ledger lib stack (τ ++ [.reloadAccepted amount])

/-- The amounts of the requests whose response was queued. -/
def grantedAmounts (es : List Event) : List ℤ :=
  es.filterMap fun
    | .queued (.reloadResponse requestedAmount _) _ => some requestedAmount.toInt
    | _ => none

section Balance

variable {lib : JsonLib} {stack amount : Int64} {τ : List Event}

theorem toInt_maxAmount : maxAmount.toInt = 1000000000000000 := by decide

/-- The sum of a balance and an amount fits. -/
theorem toInt_add_amount (hstack : 0 ≤ stack.toInt ∧ stack.toInt ≤ maxAmount.toInt)
    (hamount : ValidAmount amount) : (stack + amount).toInt = stack.toInt + amount.toInt := by
  obtain ⟨hpos, hle⟩ := hamount
  rw [toInt_maxAmount] at hstack hle
  exact Int64.toInt_add_of_lt (by omega) (by omega)

theorem toInt_reloaded (hstack : 0 ≤ stack.toInt ∧ stack.toInt ≤ maxAmount.toInt)
    (hamount : ValidAmount amount) :
    (reloaded stack amount).toInt = min maxAmount.toInt (stack.toInt + amount.toInt) := by
  rw [reloaded, Int64.toInt_min, toInt_add_amount hstack hamount, min_comm]

/-- A balance stays within its bounds and is the cut-off sum of the granted amounts. -/
theorem Ledger.balance (h : Ledger lib stack τ) :
    0 ≤ stack.toInt ∧ stack.toInt ≤ maxAmount.toInt ∧
      stack.toInt = min maxAmount.toInt (grantedAmounts τ).sum := by
  induction h with
  | opened => decide
  | @granted stack amount τ response _ hamount _ ih =>
      obtain ⟨hnonneg, hle, hsum⟩ := ih
      have hgranted : grantedAmounts (τ ++ [.reloadAccepted amount,
          .queued (.reloadResponse amount (reloaded stack amount)) response,
          .stackCommitted (reloaded stack amount)]) = grantedAmounts τ ++ [amount.toInt] := by
        simp [grantedAmounts]
      have hnew := toInt_reloaded ⟨hnonneg, hle⟩ hamount
      refine ⟨?_, ?_, ?_⟩
      · rw [hnew, toInt_maxAmount]
        have := hamount.1
        omega
      · rw [hnew]
        exact min_le_left _ _
      · rw [hgranted, Saturation.min_sum_snoc _ hamount.1.le, ← hsum, hnew]
  | declined | unanswered =>
      simpa [grantedAmounts] using ‹_›

end Balance

/-! ## Where the strand is in a reload -/

inductive ReloadStage
  | settled
  /-- A request is accepted and its response is yet to be sent. -/
  | requested (amount newStack : Int64)
  /-- The response is queued and the balance is yet to be stored. -/
  | answered (newStack : Int64)

def Strand.reloadStage : Strand → ReloadStage
  | .sendReload amount newStack => .requested amount newStack
  | .post (.commit newStack) | .commitReload newStack => .answered newStack
  | _ => .settled

@[simp] theorem After.reloadStage_strand (after : After) : after.strand.reloadStage = .settled := by
  cases after <;> rfl

theorem Next.reloadStage_strand (next : Next) :
    next.strand.reloadStage = (Strand.post next).reloadStage := by
  cases next with
  | close | authenticate | commit | leave => rfl

/-- The events of a run that belong to reloads. -/
def reloadTrace (es : List Event) : List Event := es.filter Event.isReload

/-- The ledger, and what the current reload has added to it. -/
def LedgerInv (lib : JsonLib) (s : WebsocketSession) (es : List Event) : Prop :=
  match s.strand.reloadStage with
  | .settled => Ledger lib s.currentStack (reloadTrace es)
  | .requested amount newStack => ∃ τ, Ledger lib s.currentStack τ ∧ ValidAmount amount ∧
      newStack = reloaded s.currentStack amount ∧ reloadTrace es = τ ++ [.reloadAccepted amount]
  | .answered newStack => ∃ τ amount response, Ledger lib s.currentStack τ ∧ ValidAmount amount ∧
      newStack = reloaded s.currentStack amount ∧
      serializeReloadResponse lib { granted := true, newStack } = .ok response ∧
      reloadTrace es = τ ++ [.reloadAccepted amount,
        .queued (.reloadResponse amount newStack) response]

section Invariant

variable {lib : JsonLib} {s t : WebsocketSession} {a : Action} {es fs : List Event}

theorem reloadTrace_append : reloadTrace (es ++ fs) = reloadTrace es ++ reloadTrace fs :=
  List.filter_append ..

theorem reloadTrace_unregisterEvents (sid : Text) : reloadTrace (s.unregisterEvents sid) = [] := by
  unfold WebsocketSession.unregisterEvents
  split <;> rfl

/-- A step that is no part of a reload. -/
private theorem LedgerInv.of_silent (inv : LedgerInv lib s es) (htrace : reloadTrace fs = [])
    (hstack : t.currentStack = s.currentStack)
    (hstage : t.strand.reloadStage = s.strand.reloadStage) : LedgerInv lib t (es ++ fs) := by
  unfold LedgerInv at inv ⊢
  rw [reloadTrace_append, htrace, List.append_nil, hstage, hstack]
  exact inv

/-- The ledger between reloads. -/
private theorem LedgerInv.settled (inv : LedgerInv lib s es)
    (hstage : s.strand.reloadStage = .settled) : Ledger lib s.currentStack (reloadTrace es) := by
  unfold LedgerInv at inv
  rw [hstage] at inv
  exact inv

/-- `on_read` gives a message up: a request that was accepted stays unanswered. -/
private theorem LedgerInv.of_failing {activity : Activity} {errorCode message : Text}
    {after : After} (inv : LedgerInv lib s es) (hmay : s.strand.mayFail) :
    LedgerInv lib { s with activity, strand := .sendError errorCode message after } (es ++ []) := by
  rw [List.append_nil]
  cases hstrand : s.strand with
  | sendReload amount newStack =>
      unfold LedgerInv at inv
      rw [hstrand] at inv
      obtain ⟨τ, hledger, hamount, _, htrace⟩ := inv
      show Ledger lib s.currentStack (reloadTrace es)
      rw [htrace]
      exact hledger.unanswered hamount
  | checkBurst | generate | insert | sendResponse =>
      exact inv.settled (by rw [hstrand]; rfl)
  | _ => exact absurd hmay (by rw [hstrand]; exact id)

/-- A message queued on the strand. -/
private theorem LedgerInv.of_queued {source : Source} {message : Text} {next : Next}
    {failed strand : Strand} {writing : Bool} (inv : LedgerInv lib s es)
    (hsends : Sends lib s source message next failed)
    (hstage : strand.reloadStage = (Strand.post next).reloadStage) :
    LedgerInv lib
      { s with writeQueue := s.writeQueue ++ [message], writing, strand }
      (es ++ [.queued source message]) := by
  unfold LedgerInv at inv ⊢
  dsimp only
  rw [hstage, reloadTrace_append]
  cases hsends with
  | error hstrand | response hstrand =>
      rw [hstrand] at inv
      simpa [reloadTrace, Event.isReload, Strand.reloadStage] using inv
  | reload hstrand hprint =>
      rw [hstrand] at inv
      obtain ⟨τ, hledger, hamount, hnew, htrace⟩ := inv
      exact ⟨τ, _, message, hledger, hamount, hnew, hprint,
        by rw [htrace, List.append_assoc]; rfl⟩

/-- A message refused on the strand. -/
private theorem LedgerInv.of_refused {source : Source} {message : Text} {next : Next}
    {failed : Strand} (inv : LedgerInv lib s es)
    (hsends : Sends lib s source message next failed) :
    LedgerInv lib { s with strand := failed } (es ++ [.refused source message]) := by
  unfold LedgerInv at inv ⊢
  rw [reloadTrace_append]
  cases hsends with
  | error hstrand | response hstrand =>
      rw [hstrand] at inv
      simpa [reloadTrace, Event.isReload, Strand.reloadStage] using inv
  | reload hstrand =>
      rw [hstrand] at inv
      obtain ⟨τ, hledger, hamount, hnew, htrace⟩ := inv
      rw [htrace, List.append_assoc, hnew]
      exact hledger.declined hamount

theorem LedgerInv.step (h : Transition lib s a fs t) (inv : LedgerInv lib s es) :
    LedgerInv lib t (es ++ fs) := by
  cases h with
  | tick | elapsed | timerFailed | managerDropped | deadlineStopped | deadlineRewaited
  | callerStart | callerJoin | callerRefused | callerPosted | closeCalled | closeForgotten
  | closeDispatched | writeAbandoned | writtenLast | armed | accepting | acceptDropped
  | acceptFailed | readDropped => exact inv.of_silent rfl rfl rfl
  | lambdaBusy hidle => exact inv.of_silent rfl rfl (by rw [hidle])
  | destroyed _ hes =>
      refine inv.of_silent ?_ rfl rfl
      rw [hes]
      split
      · rfl
      · exact reloadTrace_unregisterEvents _
  | failing hmay => exact inv.of_failing hmay
  | @reloadAccepted message gap logged amount activity hstrand hquiet hverdict =>
      obtain ⟨_, header, _, _, hreload⟩ := WebsocketSession.handle_eq_acceptReload.mp hverdict
      obtain ⟨reload, hparse, _, rfl⟩ :=
        WebsocketSession.handleReloadMsg_eq_acceptReload.mp hreload
      refine ⟨reloadTrace es, inv.settled (by rw [hstrand]; rfl), requestedAmount_bounds hparse,
        rfl, ?_⟩
      rw [reloadTrace_append]
      rfl
  | queuedStart hsends => exact inv.of_queued hsends rfl
  | queuedJoin hsends => exact inv.of_queued hsends (Next.reloadStage_strand _)
  | sendRefused hsends => exact inv.of_refused hsends
  | posted hstrand =>
      exact inv.of_silent rfl rfl (by rw [hstrand]; exact Next.reloadStage_strand _)
  | committed hstrand =>
      unfold LedgerInv at inv
      rw [hstrand] at inv
      obtain ⟨τ, amount, response, hledger, hamount, hnew, hprint, htrace⟩ := inv
      subst hnew
      show Ledger lib (reloaded s.currentStack amount) (reloadTrace (es ++ _))
      rw [reloadTrace_append, htrace, List.append_assoc]
      exact hledger.granted hamount hprint
  | closeUnregistered hstrand | unregistered hstrand =>
      exact inv.of_silent (reloadTrace_unregisterEvents _) rfl (by rw [hstrand]; rfl)
  | shutdown hstrand he =>
      refine inv.of_silent ?_ rfl (by rw [hstrand]; exact After.reloadStage_strand _)
      rw [he]
      split <;> rfl
  | closeClosed hstrand | checkBusy hstrand | closeSkipped hstrand =>
      exact inv.of_silent rfl rfl (by rw [hstrand]; exact After.reloadStage_strand _)
  | readFailed hidle =>
      refine inv.of_silent rfl rfl ?_
      rw [hidle]
      dsimp only
      split <;> rfl
  | accepted hstrand | readLimited hstrand | readPassed hstrand | actionAccepted hstrand
  | disconnecting hstrand | registering hstrand | generated hstrand | collided hstrand
  | registered hstrand | idStored hstrand | authenticated hstrand | guardStopped hstrand
  | rearmed hstrand | readStopped hstrand | reading hstrand | errorUnprinted hstrand
  | closeOpen hstrand | checkIdle hstrand | lambdaIdle hstrand | closeBegun hstrand
  | writeTaken hstrand | handed hstrand | writeFailed hstrand
  | writtenClosing hstrand | writtenMore hstrand | timedOut hstrand =>
      exact inv.of_silent rfl rfl (by rw [hstrand]; rfl)

/-- Whatever the stage, the balance is one of a ledger. -/
theorem LedgerInv.ledger (inv : LedgerInv lib s es) : ∃ τ, Ledger lib s.currentStack τ := by
  unfold LedgerInv at inv
  split at inv
  · exact ⟨_, inv⟩
  · obtain ⟨τ, hledger, _⟩ := inv
    exact ⟨τ, hledger⟩
  · obtain ⟨τ, _, _, hledger, _⟩ := inv
    exact ⟨τ, hledger⟩

theorem grantedAmounts_reloadTrace (es : List Event) :
    grantedAmounts (reloadTrace es) = grantedAmounts es := by
  rw [grantedAmounts, reloadTrace, List.filterMap_filter]
  refine List.filterMap_congr fun e _ => ?_
  cases e with
  | queued source => cases source <;> rfl
  | refused source => cases source <;> rfl
  | _ => rfl

/-- The stack changes by a store, which follows the request it belongs to. -/
theorem LedgerInv.stack_step (h : Transition lib s a fs t) (inv : LedgerInv lib s es) :
    t.currentStack = s.currentStack ∨
      ∃ amount, ValidAmount amount ∧ fs = [.stackCommitted t.currentStack] ∧
        t.currentStack = reloaded s.currentStack amount := by
  cases h with
  | committed hstrand =>
      unfold LedgerInv at inv
      rw [hstrand] at inv
      obtain ⟨_, amount, _, _, hamount, hnew, _⟩ := inv
      exact .inr ⟨amount, hamount, rfl, hnew⟩
  | _ => exact .inl rfl

/-- A reload is accepted with an amount the parser lets pass. -/
theorem Transition.validAmount (h : Transition lib s a fs t) {amount : Int64}
    (he : .reloadAccepted amount ∈ fs) : ValidAmount amount := by
  cases h with
  | reloadAccepted _ _ hverdict =>
      obtain rfl := Event.reloadAccepted.inj (List.mem_singleton.mp he)
      obtain ⟨_, header, _, _, hreload⟩ := WebsocketSession.handle_eq_acceptReload.mp hverdict
      obtain ⟨reload, hparse, _, rfl⟩ :=
        WebsocketSession.handleReloadMsg_eq_acceptReload.mp hreload
      exact requestedAmount_bounds hparse
  | destroyed _ hes =>
      rw [hes] at he
      split at he
      · cases he
      · cases (WebsocketSession.mem_unregisterEvents he).1
  | closeUnregistered | unregistered => cases (WebsocketSession.mem_unregisterEvents he).1
  | shutdown _ hshutdown =>
      exfalso
      rw [List.mem_singleton, hshutdown] at he
      split at he <;> cases he
  | _ => simp at he

end Invariant

/-! ## Runs -/

section Runs

variable {lib : JsonLib} {now handshakeTimeout : ℤ} {s : WebsocketSession} {as : List Action}
  {es : List Event}

theorem ledgerInv_of_run (run : SessionRun lib now handshakeTimeout as es s) :
    LedgerInv lib s es :=
  run.invariant (I := LedgerInv lib) Ledger.opened fun _ _ _ _ _ inv hstep =>
    inv.step (transition_of_step hstep).2

/-- The stack stays within its bounds.  Between reloads it is the balance of a ledger and the
cut-off sum of the amounts whose response was queued.  No step lowers it, only the store
at the end of a granted reload changes it, and the sum a reload computes does not
overflow. -/
theorem reload_ledger (run : SessionRun lib now handshakeTimeout as es s) :
    0 ≤ s.currentStack.toInt ∧ s.currentStack.toInt ≤ maxAmount.toInt ∧
      (s.strand.reloadStage = .settled →
        Ledger lib s.currentStack (reloadTrace es) ∧
          s.currentStack.toInt = min maxAmount.toInt (grantedAmounts es).sum) ∧
      ∀ a fs t, (session lib).step s a fs t →
        s.currentStack ≤ t.currentStack ∧
          ((∀ newStack, .stackCommitted newStack ∉ fs) → t.currentStack = s.currentStack) ∧
          ∀ amount, .reloadAccepted amount ∈ fs →
            (s.currentStack + amount).toInt = s.currentStack.toInt + amount.toInt := by
  have inv := ledgerInv_of_run run
  obtain ⟨_, hledger⟩ := inv.ledger
  obtain ⟨hnonneg, hle, _⟩ := hledger.balance
  refine ⟨hnonneg, hle, ?_, ?_⟩
  · intro hstage
    have hsettled := inv.settled hstage
    refine ⟨hsettled, ?_⟩
    rw [← grantedAmounts_reloadTrace]
    exact hsettled.balance.2.2
  · intro a fs t hstep
    have htransition := (transition_of_step hstep).2
    refine ⟨?_, ?_, fun amount he => toInt_add_amount ⟨hnonneg, hle⟩ (htransition.validAmount he)⟩
    · rcases inv.stack_step htransition with hsame | ⟨amount, hamount, _, hnew⟩
      · rw [hsame]
        exact Int64.le_refl _
      · rw [Int64.le_iff_toInt_le, hnew, toInt_reloaded ⟨hnonneg, hle⟩ hamount]
        have := hamount.1
        omega
    · intro hnone
      rcases inv.stack_step htransition with hsame | ⟨_, _, hfs, _⟩
      · exact hsame
      · exact absurd (hfs ▸ List.mem_singleton_self _) (hnone _)

/-! ## A client that reloads twice -/

def reloadSid : Text := text "sess_0000000000000001"

def reloadLib : JsonLib :=
  .knowing [handshakeEnvelope, reloadEnvelope reloadSid 600000000000000,
    reloadEnvelope reloadSid 700000000000000]

/-- The steps of one reload, while the handshake response waits to be written. -/
def reloadActions (requestedAmount : Int64) : List Action :=
  [.onRead (.message ((reloadEnvelope reloadSid requestedAmount).print 4) (seconds 1) 10 10),
    .handleMessage 10000 10000, .resume, .resume, .rearm (seconds 86400), .resume]

def reloadRun : WebsocketSession × List Event :=
  (Machine.exec (sessionStep reloadLib) (.construct 0 (seconds 10))
    (connectActions reloadSid ++ reloadActions 600000000000000 ++
      reloadActions 700000000000000)).get (by decide +kernel)

/-- The second reload is cut off at the cap. -/
theorem reload_ledger_twice :
    grantedAmounts reloadRun.2 = [600000000000000, 700000000000000] ∧
      reloadRun.1.currentStack.toInt = maxAmount.toInt := by
  have run : SessionRun reloadLib 0 (seconds 10) _ reloadRun.2 reloadRun.1 := Machine.run_get _
  have hgranted : grantedAmounts reloadRun.2 = [600000000000000, 700000000000000] := by
    decide +kernel
  have hstrand : reloadRun.1.strand = .idle := by decide +kernel
  obtain ⟨_, hsum⟩ := (reload_ledger run).2.2.1 (by rw [hstrand]; rfl)
  refine ⟨hgranted, ?_⟩
  rw [hsum, hgranted]
  decide

end Runs

end CppSim.Server
