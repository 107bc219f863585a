import CppSim.Server.Registry

/-!
# The capacity of the server

`register_session` looks at the number of entries under the lock under which it inserts, so that
the registry never holds more than `MAX_CONNECTIONS` of them.  An authenticated session has an
entry of its own from before it is authenticated until it has ended, unless `stop_all` takes it.
So `MAX_CONNECTIONS` bounds the number of clients that are served at the same time, however the
threads of the server are interleaved.
-/

namespace CppSim.Server

section Capacity

variable {lib : JsonLib} {w w' : World} {a : WorldAction} {as : List WorldAction}
  {es fs : List WorldEvent} {i : ℕ} {s : WebsocketSession}

/-! ## The registry -/

theorem ConnectionManager.sessionCount_observe (m : ConnectionManager) (gs : List Event) :
    (gs.foldl .observe m).sessionCount ≤ m.sessionCount := by
  induction gs generalizing m with
  | nil => exact le_rfl
  | cons e gs ih =>
      refine (ih _).trans ?_
      cases e with
      | unregister sid => exact (List.kerase_sublist sid _).length_le
      | _ => exact le_rfl

/-- No step takes the registry over its limit. -/
theorem sessionCount_le_of_step (h : WorldTransition lib w a fs w')
    (hle : w.manager.sessionCount ≤ Config.maxConnections) :
    w'.manager.sessionCount ≤ Config.maxConnections := by
  cases h with
  | own => exact (ConnectionManager.sessionCount_observe _ _).trans hle
  | registered _ _ hroom hfree =>
      unfold ConnectionManager.sessionCount at hroom ⊢
      dsimp only
      rw [AList.entries_insert_of_notMem hfree, List.length_cons]
      exact hroom
  | swept => exact Nat.zero_le _
  | _ => exact hle

theorem sessionCount_le (run : WorldRun lib as es w) :
    w.manager.sessionCount ≤ Config.maxConnections :=
  run.preserves (I := fun w => w.manager.sessionCount ≤ Config.maxConnections)
    (Nat.zero_le _) fun _ _ _ _ hle h => sessionCount_le_of_step (worldTransition_of_step h) hle

/-! ## The clients that are served -/

/-- The session is authenticated, alive, and was not taken out of the registry by `stop_all`. -/
def Serves (es : List WorldEvent) (s : WebsocketSession) : Prop :=
  s.state = .authenticated ∧ s.destroyed = false ∧ .swept s.sessionId ∉ es

instance (es : List WorldEvent) (s : WebsocketSession) : Decidable (Serves es s) :=
  inferInstanceAs (Decidable (_ ∧ _ ∧ _))

/-- An authenticated session was registered under the id it holds. -/
theorem registered_of_authenticated (run : WorldRun lib as es w) (hget : w.sessions[i]? = some s)
    (hstate : s.state = .authenticated) :
    s.sessionId ≠ [] ∧ .session i (.registered s.sessionId) ∈ es := by
  obtain ⟨control, registration, -⟩ := session_invariants run hget
  have hne : s.sessionId ≠ [] := by
    cases registration with
    | fresh _ _ hopen => exact absurd hstate hopen
    | @held sid _ hne hsid =>
        have hheld : s.sessionId = sid := by
          cases hstrand : s.strand <;> rw [hstrand] at hsid
          case storeId =>
            have hopen := control.unauthenticated (by rw [hstrand]; rfl)
            rw [hstate] at hopen
            cases hopen
          case unregister => exact hsid.2
          all_goals exact hsid
        rwa [hheld]
  refine ⟨hne, mem_ownEvents.mp (mem_registrations.mp ?_)⟩
  rw [registration.registrations_of_sessionId hne]
  exact List.mem_singleton_self _

/-- A session that is served has an entry of its own. -/
theorem entry_of_serves (run : WorldRun lib as es w) (hcount : (issuedIds es).length < 2 ^ 32)
    (hget : w.sessions[i]? = some s) (hserves : Serves es s) :
    s.sessionId ≠ [] ∧ w.manager.sessions.lookup s.sessionId = some i := by
  obtain ⟨hstate, hlive, hunswept⟩ := hserves
  obtain ⟨hne, hregistered⟩ := registered_of_authenticated run hget hstate
  refine ⟨hne, ?_⟩
  rcases (registryInv_of_run run hcount).kept _ _ hregistered with hgone | hentry | hswept
  · obtain ⟨-, -, unregistration⟩ := session_invariants run hget
    have hended := (unregistration.mine _ (mem_ownEvents.mpr hgone)).2
    simp [WebsocketSession.ended, hstate, hlive] at hended
  · exact hentry
  · exact absurd hswept hunswept

/-- At most `MAX_CONNECTIONS` clients are served at the same time, whatever the sessions and the
other threads do: at no time are there more authenticated sessions that live and that `stop_all`
did not take out of the registry. -/
theorem served_le_maxConnections (run : WorldRun lib as es w)
    (hcount : (issuedIds es).length < 2 ^ 32) :
    w.sessions.countP (Serves es ·) ≤ Config.maxConnections := by
  have hentries : ∀ sid ∈ (w.sessions.filter (Serves es ·)).map WebsocketSession.sessionId,
      sid ∈ w.manager.sessions.keys := by
    intro sid hsid
    obtain ⟨s, hs, rfl⟩ := List.mem_map.mp hsid
    obtain ⟨hmem, hserves⟩ := List.mem_filter.mp hs
    obtain ⟨i, hget⟩ := List.getElem?_of_mem hmem
    have hentry := (entry_of_serves run hcount hget (by simpa using hserves)).2
    exact AList.mem_keys.mp (AList.lookup_isSome.mp (by rw [hentry]; rfl))
  -- two sessions have the same entry only if they are the same
  have hdistinct : ((w.sessions.filter (Serves es ·)).map WebsocketSession.sessionId).Nodup := by
    have hpairs : w.sessions.Pairwise fun s t =>
        Serves es s → Serves es t → s.sessionId ≠ t.sessionId := by
      rw [List.pairwise_iff_getElem]
      intro i j hi hj hlt hs ht hsame
      have hentry := (entry_of_serves run hcount (List.getElem?_eq_getElem hi) hs).2
      have hentry' := (entry_of_serves run hcount (List.getElem?_eq_getElem hj) ht).2
      rw [hsame, hentry', Option.some.injEq] at hentry
      omega
    refine List.pairwise_map.mpr ((hpairs.filter _).imp_of_mem fun hs ht hne => ?_)
    exact hne (by simpa using (List.mem_filter.mp hs).2) (by simpa using (List.mem_filter.mp ht).2)
  calc w.sessions.countP (Serves es ·)
      = ((w.sessions.filter (Serves es ·)).map WebsocketSession.sessionId).length := by
        rw [List.length_map, List.countP_eq_length_filter]
    _ ≤ w.manager.sessions.keys.length := (hdistinct.subperm hentries).length_le
    _ = w.manager.sessionCount := List.length_map _
    _ ≤ Config.maxConnections := sessionCount_le run

/-- Of two clients that were authenticated one is still served. -/
theorem served_le_pair :
    pairRun.1.sessions.length = 2 ∧
      pairRun.1.sessions.countP (Serves pairRun.2 ·) ≤ Config.maxConnections := by
  have run : WorldRun (.knowing [Protocol.handshakeEnvelope]) pairActions pairRun.2 pairRun.1 :=
    Machine.run_get _
  exact ⟨by decide +kernel, served_le_maxConnections run (by decide +kernel)⟩

end Capacity

end CppSim.Server
