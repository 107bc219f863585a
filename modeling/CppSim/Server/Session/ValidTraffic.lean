import CppSim.Common.Validation
import CppSim.Server.IssuedIds
import CppSim.Server.Session.Ledger

/-!
# Valid traffic

The public validators are not called by the server, so that nothing keeps what a session sends
from failing them but the rules of its own.  `traffic_validates` says that it never does: over
every run of a session, each id it is registered under or shows in a HANDSHAKE_RESPONSE, each
amount it accepts, and each stack it shows or stores passes its validator, and the stack that
follows a reload is no less than what was asked for.  The seat and the stack that a
HANDSHAKE_RESPONSE shows beside the id are placeholders, and neither is valid.
-/

namespace CppSim.Server

open Protocol

/-- The validators accept what the event shows. -/
def Event.Validates (lib : JsonLib) : Event → Prop
  | .registered sid => isValidSessionId sid = true
  | .queued .handshakeResponse response => ∃ sid, isValidSessionId sid = true ∧
      serializeHandshakeResponse lib
        ⟨sid, Config.placeholderSeat, Config.placeholderStack⟩ = .ok response
  | .reloadAccepted requestedAmount => isValidAmount requestedAmount none none = true
  | .queued (.reloadResponse requestedAmount newStack) response =>
      isValidAmount newStack (some requestedAmount) none = true ∧
        serializeReloadResponse lib { granted := true, newStack } = .ok response
  | .stackCommitted newStack => isValidAmount newStack none none = true
  | _ => True

section Amounts

variable {lib : JsonLib} {s : WebsocketSession} {a : Action} {es : List Event} {e : Event}
  {stack amount : Int64}

theorem isValidAmount_of_validAmount (h : ValidAmount amount) :
    isValidAmount amount none none = true := by
  rw [isValidAmount_iff, Int64.lt_iff_toInt_lt, Int64.le_iff_toInt_le]
  exact ⟨h.1, h.2, by simp, by simp⟩

/-- The stack after a reload is valid, and no less than the amount. -/
theorem isValidAmount_reloaded (hstack : 0 ≤ stack.toInt ∧ stack.toInt ≤ maxAmount.toInt)
    (hamount : ValidAmount amount) :
    isValidAmount (reloaded stack amount) (some amount) none = true := by
  obtain ⟨hpos, hle⟩ := hamount
  have hnew := toInt_reloaded hstack ⟨hpos, hle⟩
  have hge : amount.toInt ≤ (reloaded stack amount).toInt := by
    rw [hnew]
    omega
  rw [isValidAmount_iff]
  refine ⟨?_, ?_, ?_, by simp⟩
  · rw [Int64.lt_iff_toInt_lt]
    exact hpos.trans_le hge
  · rw [Int64.le_iff_toInt_le, hnew]
    exact min_le_left _ _
  · simpa [Int64.le_iff_toInt_le] using hge

theorem isValidAmount_weaken {newStack : Int64} (h : isValidAmount newStack (some amount) none = true) :
    isValidAmount newStack none none = true := by
  rw [isValidAmount_iff] at h ⊢
  exact ⟨h.1, h.2.1, by simp, by simp⟩

/-! ## Steps -/

/-- The reload that the strand is in leads to a valid stack. -/
theorem LedgerInv.valid_requested {newStack : Int64} (inv : LedgerInv lib s es)
    (hstage : s.strand.reloadStage = .requested amount newStack) :
    isValidAmount newStack (some amount) none = true := by
  unfold LedgerInv at inv
  rw [hstage] at inv
  obtain ⟨τ, hledger, hamount, rfl, -⟩ := inv
  exact isValidAmount_reloaded ⟨hledger.balance.1, hledger.balance.2.1⟩ hamount

theorem LedgerInv.valid_answered {newStack : Int64} (inv : LedgerInv lib s es)
    (hstage : s.strand.reloadStage = .answered newStack) :
    isValidAmount newStack none none = true := by
  unfold LedgerInv at inv
  rw [hstage] at inv
  obtain ⟨τ, amount, response, hledger, hamount, rfl, -⟩ := inv
  exact isValidAmount_weaken
    (isValidAmount_reloaded ⟨hledger.balance.1, hledger.balance.2.1⟩ hamount)

/-- The events of amounts are valid when they are emitted. -/
theorem validates_of_emits (inv : LedgerInv lib s es) (hemits : Emits lib s a e)
    (hregistered : ∀ sid, e ≠ .registered sid)
    (hresponse : ∀ response, e ≠ .queued .handshakeResponse response) : e.Validates lib := by
  cases hemits with
  | queued hsends =>
      cases hsends with
      | error => trivial
      | response => exact absurd rfl (hresponse _)
      | reload hstrand hprint => exact ⟨inv.valid_requested (by rw [hstrand]; rfl), hprint⟩
  | reloadAccepted _ hverdict =>
      obtain ⟨_, header, _, _, hreload⟩ := WebsocketSession.handle_eq_acceptReload.mp hverdict
      obtain ⟨reload, hparse, -, rfl⟩ :=
        WebsocketSession.handleReloadMsg_eq_acceptReload.mp hreload
      exact isValidAmount_of_validAmount (requestedAmount_bounds hparse)
  | stackCommitted hstrand => exact inv.valid_answered (by rw [hstrand]; rfl)
  | registered => exact absurd rfl (hregistered _)
  | refused | callerQueued | callerRefused | handed | written | writeFailed | actionAccepted
  | unregister | timedOut | socketClosed | asyncClosed => trivial

end Amounts

section Runs

variable {lib : JsonLib} {now handshakeTimeout : ℤ} {s : WebsocketSession} {as : List Action}
  {es : List Event} {sid response : Text}

/-- The ids of a session that are not empty are valid. -/
theorem validIds_of_run (run : SessionRun lib now handshakeTimeout as es s)
    (hgenerates : ∀ a ∈ as, a.Generates) :
    IdsHold (fun sid => sid ≠ [] → isValidSessionId sid = true) s :=
  idsHold_of_run (fun h => absurd rfl h)
    (fun _ hid _ => isValidSessionId_iff.mpr hid.usable.format) run hgenerates

/-- The id a session was registered under is valid. -/
theorem isValidSessionId_of_registered (run : SessionRun lib now handshakeTimeout as es s)
    (hgenerates : ∀ a ∈ as, a.Generates) (hmem : .registered sid ∈ es) :
    isValidSessionId sid = true := by
  have hids := validIds_of_run run hgenerates
  cases registration_of_run run with
  | fresh hregs =>
      rw [← mem_registrations, hregs] at hmem
      cases hmem
  | @held sid' hregs hne hcarries =>
      rw [← mem_registrations, hregs, List.mem_singleton] at hmem
      subst hmem
      -- the session holds it, or its strand is about to store it
      cases hstrand : s.strand with
      | storeId newSessionId =>
          rw [hstrand] at hcarries
          obtain ⟨rfl, -⟩ := hcarries
          exact hids.heldId _ (by rw [hstrand]; rfl) hne
      | unregister sid' =>
          rw [hstrand] at hcarries
          obtain ⟨rfl, -⟩ := hcarries
          exact hids.heldId _ (by rw [hstrand]; rfl) hne
      | _ =>
          rw [hstrand] at hcarries
          obtain rfl : s.sessionId = sid := hcarries
          exact hids.sessionId hne

end Runs

/-- In every run of a session the ids, amounts and stacks that it accepts, shows and stores pass
the public validators. -/
theorem traffic_validates {lib : JsonLib} {now handshakeTimeout : ℤ} {s : WebsocketSession}
    {as : List Action} {es : List Event} (run : SessionRun lib now handshakeTimeout as es s)
    (hgenerates : ∀ a ∈ as, a.Generates) : ∀ e ∈ es, e.Validates lib := by
  have hamounts := run.invariant
    (I := fun s es => LedgerInv lib s es ∧ ∀ e ∈ es, (∀ sid, e ≠ .registered sid) →
      (∀ response, e ≠ .queued .handshakeResponse response) → e.Validates lib)
    ⟨Ledger.opened, by simp⟩
    (fun es s a fs t ⟨ledger, hvalid⟩ h => by
      have htransition := (transition_of_step h).2
      refine ⟨ledger.step htransition, fun e hmem => ?_⟩
      rcases List.mem_append.mp hmem with hold | hnew
      · exact hvalid e hold
      · exact validates_of_emits ledger (htransition.emits hnew))
  intro e hmem
  cases e with
  | registered sid => exact isValidSessionId_of_registered run hgenerates hmem
  | queued source message =>
      cases source with
      | handshakeResponse =>
          obtain ⟨hne, hprinted⟩ := (greeting_of_run run).responded message hmem
          exact ⟨s.sessionId, (validIds_of_run run hgenerates).sessionId hne, hprinted⟩
      | caller | error | reloadResponse => exact hamounts.2 _ hmem (by simp) (by simp)
  | _ => exact hamounts.2 _ hmem (by simp) (by simp)

example : isValidSeatNumber Config.placeholderSeat 10 = false ∧
    isValidAmount Config.placeholderStack none none = false := by
  decide

/-! ## A client that reloads -/

def issuedSid : Text := generateSessionId 1 0

def validLib : JsonLib := .knowing [handshakeEnvelope, reloadEnvelope issuedSid 600000000000000]

/-- The client is greeted as the id, and asks for more than half of the maximum. -/
def validActions : List Action :=
  connectActions issuedSid ++
    [.onRead (.message ((reloadEnvelope issuedSid 600000000000000).print 4) (seconds 1) 10 10),
      .handleMessage 10000 10000, .resume, .resume, .rearm (seconds 86400), .resume]

theorem isSome_validRun :
    (Machine.exec (sessionStep validLib) (.construct 0 (seconds 10)) validActions).isSome = true := by
  decide +kernel

theorem traffic_validates_reload :
    ∃ es s, SessionRun validLib 0 (seconds 10) validActions es s ∧
      .stackCommitted 600000000000000 ∈ es ∧ ∀ e ∈ es, e.Validates validLib := by
  have run : SessionRun validLib 0 (seconds 10) validActions _ _ := Machine.run_get isSome_validRun
  refine ⟨_, _, run, by decide +kernel, traffic_validates run ?_⟩
  simp only [validActions, connectActions, List.cons_append, List.nil_append, List.forall_mem_cons,
    Action.Generates, true_and]
  exact ⟨.inl ⟨1, 0, rfl⟩, by simp⟩

end CppSim.Server
