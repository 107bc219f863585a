import CppSim.Server.HandshakeGate
import CppSim.Server.Session.Finality

/-!
# Closed sessions of a world

Whether a session whose close was requested still registers is decided by the registry, which the
other sessions change.  `final_iff` says for every run of a world from then on when the session's
sequence number, stack, id and registration are final: exactly when it handles no acceptable
action, and no HANDSHAKE of it finds the registry below its limit and its id unused.
-/

namespace CppSim.Server

open Protocol

/-- In the step session `i` handles no acceptable action, and no insertion for a HANDSHAKE of it
finds room in the registry and its id unused. -/
def World.Harmless (lib : JsonLib) (i : ℕ) (w : World) (a : WorldAction) : Prop :=
  World.On (HandlesNone lib) i w a ∧ ∀ t ∈ w.tryOf i a, ¬ t.Grants

section Closed

variable {lib : JsonLib} {w w' : World} {a : WorldAction} {as : List WorldAction}
  {es fs : List WorldEvent} {i : ℕ} {s t : WebsocketSession} {b : Action}

/-- What is harmless in the world is what is harmless for the session. -/
theorem World.harmless_iff (hget : w.sessions[i]? = some s) (hb : w.actionOn i a = some b)
    (hresults : b.results = (w.tryOf i a).map (Try.result i)) :
    World.Harmless lib i w a ↔ CppSim.Server.Harmless lib s b := by
  constructor
  · rintro ⟨hnone, hrefused⟩
    refine ⟨hnone s b hget hb, ?_⟩
    rintro count rfl
    have hmem : EmplaceResult.success count ∈ (w.tryOf i a).map (Try.result i) :=
      hresults ▸ List.mem_singleton_self _
    obtain ⟨t, htry, hresult⟩ := List.mem_map.mp hmem
    exact hrefused t htry (t.grants_iff.mpr ⟨count, hresult⟩)
  · rintro ⟨hnone, hrefused⟩
    refine ⟨fun s' b' hs' hb' => ?_, fun t htry hgrants => ?_⟩
    · obtain rfl := Option.some.inj (hget.symm.trans hs')
      obtain rfl := Option.some.inj (hb.symm.trans hb')
      exact hnone
    · obtain ⟨count, hresult⟩ := t.grants_iff.mp hgrants
      have hmem : .success count ∈ b.results := by
        rw [hresults]
        exact List.mem_map.mpr ⟨t, htry, hresult⟩
      cases b with
      | emplaced result => exact hrefused count (by rw [List.mem_singleton.mp hmem])
      | _ => cases hmem

/-- What does not concern the session is harmless. -/
theorem World.harmless_of_none (hb : w.actionOn i a = none) (htries : w.tryOf i a = []) :
    World.Harmless lib i w a := by
  refine ⟨fun s b _ hsome => ?_, by simp [htries]⟩
  rw [hb] at hsome
  cases hsome

/-- Harmless steps of a world keep what a session is. -/
theorem finalInv_of_run (hget : w.sessions[i]? = some s) (hidle : s.strand = .idle)
    (hclose : s.closeRequested = true)
    (run : ((world lib).restrict (World.Harmless lib i)).Run w as es w') :
    ∃ t, w'.sessions[i]? = some t ∧ FinalInv s (ownEvents i es) t := by
  refine run.invariant (I := fun v fs => ∃ u, v.sessions[i]? = some u ∧
    FinalInv s (ownEvents i fs) u) ⟨s, hget, finalInv_refl hidle hclose⟩ ?_
  rintro fs v a gs v' ⟨u, hu, inv⟩ ⟨hharmless, hstep⟩
  rw [ownEvents_append]
  rcases step_on hstep hu with ⟨-, -, hsame, hnone⟩ | ⟨b, u', hb, -, hresults, hown, hu'⟩
  · rw [hnone, List.append_nil]
    exact ⟨u, hsame, inv⟩
  · exact ⟨u', hu', inv.step (transition_of_step hown).2
      ((World.harmless_iff hu hb hresults).mp hharmless)⟩

/-- The sequence numbers of a session never go back. -/
theorem lastSequenceNumber_le_of_world (hget : w.sessions[i]? = some s)
    (run : (world lib).Run w as es w') :
    ∃ t, w'.sessions[i]? = some t ∧ s.lastSequenceNumber ≤ t.lastSequenceNumber := by
  refine run.preserves (I := fun v => ∃ u, v.sessions[i]? = some u ∧
    s.lastSequenceNumber ≤ u.lastSequenceNumber) ⟨s, hget, Int64.le_refl _⟩ ?_
  rintro v a gs v' ⟨u, hu, hle⟩ hstep
  rcases step_on hstep hu with ⟨-, -, hsame, -⟩ | ⟨b, u', -, -, -, hown, hu'⟩
  · exact ⟨u, hsame, hle⟩
  · exact ⟨u', hu', Int64.le_trans hle (transition_of_step hown).2.lastSequenceNumber_le⟩

/-- After a requested close everything of a session is final exactly when it handles no acceptable
action and no HANDSHAKE of it finds room in the registry and its id unused. -/
theorem final_iff (hget : w.sessions[i]? = some s) (hidle : s.strand = .idle)
    (hclose : s.closeRequested = true) (run : (world lib).Run w as es w')
    (hget' : w'.sessions[i]? = some t) :
    Final s (ownEvents i es) t ↔
      ((world lib).restrict (World.Harmless lib i)).Run w as es w' := by
  constructor
  · intro hfinal
    rcases run.restrict_or_leaves (C := World.Harmless lib i) with kept | ⟨before, esBefore, v, b,
      esStep, v', after, esAfter, kept, hharm, hstep, rest, rfl, rfl⟩
    · exact kept
    · exfalso
      obtain ⟨u, hu, inv⟩ := finalInv_of_run hget hidle hclose kept
      rcases step_on hstep hu with ⟨hnone, htries, -, -⟩ | ⟨c, u', hc, -, hresults, hown, hu'⟩
      · exact hharm (World.harmless_of_none hnone htries)
      · obtain ⟨t', ht', hle⟩ := lastSequenceNumber_le_of_world hu' rest
        obtain rfl := Option.some.inj (hget'.symm.trans ht')
        rw [ownEvents_append, ownEvents_append] at hfinal
        exact hharm ((World.harmless_iff hu hc hresults).mpr (hfinal.harmless inv hown hle))
  · intro kept
    obtain ⟨t', ht', inv⟩ := finalInv_of_run hget hidle hclose kept
    obtain rfl := Option.some.inj (hget'.symm.trans ht')
    exact inv.final

/-! ## A close while a write is in flight -/

/-- A client is authenticated and its response is being written when another thread closes
the session, whose read is still pending. -/
def closingActions : List WorldAction :=
  .create 0 (seconds 10) :: (connectActions foldSid).map (.ofAction 0 1) ++
    [Action.doWrite, .resume, .close, .dispatchClose, .closeLambda].map (.session 0)

def closingRun : World × List WorldEvent :=
  (Machine.exec (World.step foldLib) .initial closingActions).get (by decide +kernel)

def closedSession : WebsocketSession := (closingRun.1.sessions[0]?).get (by decide +kernel)

theorem get_closedSession : closingRun.1.sessions[0]? = some closedSession :=
  (Option.some_get _).symm

/-- The write ends, and `on_write` shuts the session down. -/
def flushActions : List WorldAction :=
  [Action.onWrite none, .resume, .resume, .resume].map (.session 0)

def flushRun : World × List WorldEvent :=
  (Machine.exec (World.step foldLib) closingRun.1 flushActions).get (by decide +kernel)

theorem final_iff_flush :
    Final closedSession (ownEvents 0 flushRun.2)
      ((flushRun.1.sessions[0]?).get (by decide +kernel)) := by
  have run : (world foldLib).Run closingRun.1 flushActions flushRun.2 flushRun.1 :=
    Machine.run_get _
  refine (final_iff get_closedSession (by decide +kernel) (by decide +kernel) run
    (Option.some_get _).symm).mpr ?_
  refine (run.restrict_of_forall (P := fun a => ∀ v, World.Harmless foldLib 0 v a) ?_).mono
    fun v a h => h v
  simp [flushActions, World.Harmless, World.On, World.actionOn, World.tryOf, HandlesNone]

/-- The client folds before the write ends. -/
def lateFoldRun : World × List WorldEvent :=
  (Machine.exec (World.step foldLib) closingRun.1
    ([Action.onRead (.message ((foldEnvelope foldSid 9999).print 4) (seconds 1) 10 10),
      .handleMessage 10000 10000].map (.session 0))).get (by decide +kernel)

/-- The fold is accepted although a close was requested. -/
theorem not_final :
    ¬ ∀ (lib : JsonLib) (as bs : List WorldAction) (es fs : List WorldEvent) (w w' : World) (i : ℕ)
      (s t : WebsocketSession), WorldRun lib as es w → w.sessions[i]? = some s →
      s.strand = .idle → s.closeRequested = true → (world lib).Run w bs fs w' →
      w'.sessions[i]? = some t → Final s (ownEvents i fs) t := by
  intro hall
  have first : WorldRun foldLib closingActions closingRun.2 closingRun.1 := Machine.run_get _
  have second : (world foldLib).Run closingRun.1 _ lateFoldRun.2 lateFoldRun.1 :=
    Machine.run_get _
  obtain ⟨t, hget⟩ : ∃ t, lateFoldRun.1.sessions[0]? = some t :=
    Option.isSome_iff_exists.mp (by decide +kernel)
  have hfinal := hall _ _ _ _ _ _ _ _ _ _ first get_closedSession (by decide +kernel)
    (by decide +kernel) second hget
  have hmoved : ∀ u ∈ lateFoldRun.1.sessions[0]?, u.lastSequenceNumber ≠
      closedSession.lastSequenceNumber := by decide +kernel
  exact hmoved t hget hfinal.lastSequenceNumber

end Closed

end CppSim.Server
