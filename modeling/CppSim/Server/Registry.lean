import CppSim.Server.ConnectionManager

/-!
# The registry agrees with the sessions

Three invariants of a world, each about what has been observed so far.

* **Ids.**  As long as fewer than `2^32` ids were generated, no two are the same
  (`IdInv`), so an id belongs to the session it was generated for.
* **Entries.**  An entry is that of a session that was registered and has not
  unregistered, and only `stop_all` removes the entry of such a session
  (`RegistryInv`).
* **Sessions.**  What one session does about its own registration is the content of
  `Registration` and `Unregistration`.

`registry_agrees` puts them together.
-/

namespace CppSim.Server

open Protocol

section Registry

variable {lib : JsonLib} {w w' : World} {a : WorldAction} {as : List WorldAction}
  {es fs : List WorldEvent} {i j : ℕ} {sid : Text} {s t : WebsocketSession}

/-! ## Ids -/

/-- The ids generated so far, with the sessions they were generated for. -/
def issuedIds (es : List WorldEvent) : List (ℕ × Text) :=
  es.filterMap fun | .generated i sid => some (i, sid) | _ => none

theorem issuedIds_append : issuedIds (es ++ fs) = issuedIds es ++ issuedIds fs :=
  List.filterMap_append

theorem mem_issuedIds : (i, sid) ∈ issuedIds es ↔ .generated i sid ∈ es := by
  simp only [issuedIds, List.mem_filterMap]
  constructor
  · rintro ⟨e, hmem, he⟩
    cases e <;> simp at he
    obtain ⟨rfl, rfl⟩ := he
    exact hmem
  · exact fun hmem => ⟨_, hmem, rfl⟩

/-- An id came from a counter that has moved on. -/
def ConnectionManager.issued (m : ConnectionManager) (sid : Text) : Prop :=
  (∃ id rnd, id < m.counter ∧ sid = generateSessionId id rnd) ∨
    ∃ id, id < m.fallbackCounter ∧ sid = fallbackSessionId id

/-- The counters count, and the ids are distinct. -/
structure IdInv (w : World) (es : List WorldEvent) : Prop where
  counter : w.manager.counter.toNat = (issuedIds es).length
  fallback : w.manager.fallbackCounter.toNat ≤ (issuedIds es).length
  issued : ∀ sid ∈ (issuedIds es).map Prod.snd, w.manager.issued sid
  nodup : ((issuedIds es).map Prod.snd).Nodup

theorem ConnectionManager.issued_mono {m m' : ConnectionManager} (h : m.issued sid)
    (hcounter : m.counter ≤ m'.counter) (hfallback : m.fallbackCounter ≤ m'.fallbackCounter) :
    m'.issued sid := by
  rcases h with ⟨id, rnd, hlt, rfl⟩ | ⟨id, hlt, rfl⟩
  · exact .inl ⟨id, rnd, UInt64.lt_of_lt_of_le hlt hcounter, rfl⟩
  · exact .inr ⟨id, UInt64.lt_of_lt_of_le hlt hfallback, rfl⟩

theorem ConnectionManager.not_issued_generate {m : ConnectionManager} {rnd : UInt32}
    (hcounter : m.counter.toNat < 2 ^ 32) (hfallback : m.fallbackCounter.toNat < 2 ^ 32) :
    ¬ m.issued (generateSessionId m.counter rnd) := by
  rintro (⟨id, rnd', hlt, heq⟩ | ⟨id, hlt, heq⟩) <;> rw [UInt64.lt_iff_toNat_lt] at hlt
  · rw [← generateSessionId_inj hcounter (by omega) heq] at hlt
    exact lt_irrefl _ hlt
  · exact generateSessionId_ne_fallback (by omega) heq

theorem ConnectionManager.not_issued_fallback {m : ConnectionManager}
    (hfallback : m.fallbackCounter.toNat < 2 ^ 32) :
    ¬ m.issued (fallbackSessionId m.fallbackCounter) := by
  rintro (⟨id, rnd, hlt, heq⟩ | ⟨id, hlt, heq⟩) <;> rw [UInt64.lt_iff_toNat_lt] at hlt
  · exact generateSessionId_ne_fallback (hfallback.trans (by decide)) heq.symm
  · rw [← fallbackSessionId_inj heq] at hlt
    exact lt_irrefl _ hlt

/-- A step that generates nothing. -/
private theorem IdInv.of_silent (inv : IdInv w es) (hnone : issuedIds fs = [])
    (hcounter : w'.manager.counter = w.manager.counter)
    (hfallback : w'.manager.fallbackCounter = w.manager.fallbackCounter) : IdInv w' (es ++ fs) := by
  obtain ⟨hcount, hcount', hissued, hnodup⟩ := inv
  rw [← hcounter] at hcount
  rw [← hfallback] at hcount'
  constructor <;> rw [issuedIds_append, hnone, List.append_nil] <;> try assumption
  exact fun sid hmem => ConnectionManager.issued_mono (hissued sid hmem)
    (UInt64.le_of_eq hcounter.symm) (UInt64.le_of_eq hfallback.symm)

/-- A step that generates an id. -/
private theorem IdInv.of_generated (inv : IdInv w es)
    (hcounter : w'.manager.counter = w.manager.counter + 1)
    (hcount : (issuedIds es).length + 1 < 2 ^ 32)
    (hfallback : w.manager.fallbackCounter ≤ w'.manager.fallbackCounter)
    (hfallback' : w'.manager.fallbackCounter.toNat ≤ (issuedIds es).length + 1)
    (hnew : ¬ w.manager.issued sid) (hnow : w'.manager.issued sid) :
    IdInv w' (es ++ [.generated i sid]) := by
  have hids : issuedIds (es ++ [.generated i sid]) = issuedIds es ++ [(i, sid)] :=
    issuedIds_append
  have hnext : w'.manager.counter.toNat = w.manager.counter.toNat + 1 := by
    rw [hcounter, UInt64.toNat_add, inv.counter]
    exact Nat.mod_eq_of_lt (hcount.trans (by decide))
  refine ⟨?_, ?_, ?_, ?_⟩ <;> rw [hids]
  · rw [hnext, inv.counter, List.length_append, List.length_singleton]
  · simpa using hfallback'
  · intro sid' hmem
    rw [List.map_append, List.mem_append] at hmem
    rcases hmem with hold | hmem
    · refine ConnectionManager.issued_mono (inv.issued sid' hold) ?_ hfallback
      rw [UInt64.le_iff_toNat_le]
      omega
    · rw [List.mem_singleton.mp hmem]
      exact hnow
  · rw [List.map_append, List.nodup_append']
    refine ⟨inv.nodup, List.nodup_singleton _, ?_⟩
    intro sid' hold hmem
    rw [List.mem_singleton.mp hmem] at hold
    exact hnew (inv.issued _ hold)

theorem counters_foldl_observe (m : ConnectionManager) (fs : List Event) :
    (fs.foldl .observe m).counter = m.counter ∧
      (fs.foldl .observe m).fallbackCounter = m.fallbackCounter := by
  induction fs generalizing m with
  | nil => exact ⟨rfl, rfl⟩
  | cons e fs ih =>
      rw [List.foldl_cons, (ih _).1, (ih _).2]
      cases e <;> exact ⟨rfl, rfl⟩

theorem IdInv.step (h : WorldTransition lib w a fs w')
    (hcount : (issuedIds (es ++ fs)).length < 2 ^ 32) (inv : IdInv w es) : IdInv w' (es ++ fs) := by
  have hbefore := inv.counter
  have hbefore' := inv.fallback
  cases h with
  | own =>
      refine inv.of_silent ?_ (counters_foldl_observe _ _).1 (counters_foldl_observe _ _).2
      simp [issuedIds, List.filterMap_map]
  | swept =>
      refine inv.of_silent ?_ rfl rfl
      simp [issuedIds, List.filterMap_map]
  | created | registered | refused | closing | dispatching | returned =>
      exact inv.of_silent rfl rfl rfl
  | generated =>
      rw [issuedIds_append, List.length_append] at hcount
      replace hcount : (issuedIds es).length + 1 < 2 ^ 32 := hcount
      refine inv.of_generated rfl hcount (UInt64.le_refl _) (Nat.le_succ_of_le inv.fallback)
        (ConnectionManager.not_issued_generate (by omega) (by omega)) (.inl ⟨_, _, ?_, rfl⟩)
      rw [UInt64.lt_iff_toNat_lt]
      simp only [ConnectionManager.generate, UInt64.toNat_add, UInt64.toNat_one]
      omega
  | fallback =>
      rw [issuedIds_append, List.length_append] at hcount
      replace hcount : (issuedIds es).length + 1 < 2 ^ 32 := hcount
      have hnext : (w.manager.fallbackCounter + 1).toNat = w.manager.fallbackCounter.toNat + 1 := by
        rw [UInt64.toNat_add, UInt64.toNat_one]
        omega
      refine inv.of_generated rfl hcount ?_ ?_
        (ConnectionManager.not_issued_fallback (by omega)) (.inr ⟨_, ?_, rfl⟩)
      · rw [UInt64.le_iff_toNat_le]
        simp only [ConnectionManager.generateFallback, hnext]
        omega
      · simp only [ConnectionManager.generateFallback, hnext]
        omega
      · rw [UInt64.lt_iff_toNat_lt]
        simp only [ConnectionManager.generateFallback, hnext]
        omega

/-- An id was generated for one session. -/
theorem IdInv.owner_eq (inv : IdInv w es) (hi : .generated i sid ∈ es)
    (hj : .generated j sid ∈ es) : i = j :=
  congrArg Prod.fst
    (List.inj_on_of_nodup_map inv.nodup (mem_issuedIds.mpr hi) (mem_issuedIds.mpr hj) rfl)

theorem idInv_of_run (run : WorldRun lib as es w) (hcount : (issuedIds es).length < 2 ^ 32) :
    IdInv w es := by
  refine run.invariant (I := fun w es => (issuedIds es).length < 2 ^ 32 → IdInv w es) ?_ ?_ hcount
  · exact fun _ => ⟨rfl, Nat.le_refl _, by simp [issuedIds], List.nodup_nil⟩
  · intro es w a fs w' inv hstep hcount
    refine (inv ?_).step (worldTransition_of_step hstep) hcount
    rw [issuedIds_append, List.length_append] at hcount
    omega

/-! ## Entries -/

/-- An entry is that of a session that was registered and has not unregistered. -/
def EntriesAgree (w : World) (es : List WorldEvent) : Prop :=
  ∀ sid i, w.manager.sessions.lookup sid = some i →
    .session i (.registered sid) ∈ es ∧ .session i (.unregister sid) ∉ es

theorem EntriesAgree.of_quiet (inv : EntriesAgree w es)
    (hsessions : w'.manager.sessions = w.manager.sessions)
    (hunregister : ∀ sid i, .session i (.unregister sid) ∉ fs) : EntriesAgree w' (es ++ fs) := by
  intro sid i hlookup
  rw [hsessions] at hlookup
  obtain ⟨hregs, hnot⟩ := inv sid i hlookup
  exact ⟨List.mem_append_left _ hregs, by simp [hnot, hunregister]⟩

theorem EntriesAgree.of_unregister (inv : EntriesAgree w es)
    (hsessions : w'.manager.sessions = w.manager.sessions.erase sid) :
    EntriesAgree w' (es ++ [.session i (.unregister sid)]) := by
  intro sid' j hlookup
  rw [hsessions] at hlookup
  have hne : sid' ≠ sid := by
    rintro rfl
    rw [AList.lookup_erase] at hlookup
    cases hlookup
  rw [AList.lookup_erase_ne hne] at hlookup
  obtain ⟨hregs, hnot⟩ := inv sid' j hlookup
  exact ⟨List.mem_append_left _ hregs, by simp [hnot, hne]⟩

theorem EntriesAgree.of_registered (inv : EntriesAgree w es)
    (hsessions : w'.manager.sessions = w.manager.sessions.insert sid i)
    (hnew : .session i (.unregister sid) ∉ es) :
    EntriesAgree w' (es ++ [.session i (.registered sid)]) := by
  intro sid' j hlookup
  rw [hsessions] at hlookup
  by_cases hsame : sid' = sid
  · subst hsame
    rw [AList.lookup_insert, Option.some.injEq] at hlookup
    subst hlookup
    exact ⟨by simp, by simp [hnew]⟩
  · rw [AList.lookup_insert_ne hsame] at hlookup
    obtain ⟨hregs, hnot⟩ := inv sid' j hlookup
    exact ⟨List.mem_append_left _ hregs, by simp [hnot]⟩

/-- A session whose strand is at the insertion was not registered before. -/
theorem Registration.registrations_of_inserting {attempt : ℕ} {gs : List Event}
    (inv : Registration s gs) (control : ControlInv s) (hstrand : s.strand = .insert attempt sid) :
    registrations gs = [] := by
  cases inv with
  | fresh hregs => exact hregs
  | held _ _ _ _ hleaving =>
      have hstate := control.unauthenticated (by rw [hstrand]; rfl)
      rw [hstrand] at hleaving
      exact (hleaving hstate).2.elim

/-- A session's own steps do not register. -/
theorem registered_notMem {a : Action} {gs : List Event} (hallows : w.allows i a = true)
    (hstep : sessionStep lib s a = some (t, gs)) : .registered sid ∉ gs := by
  intro hmem
  obtain ⟨_, _, _, rfl, _⟩ := (transition_of_step hstep).2.of_registered hmem
  cases hallows

/-- What a session's own step tells the manager: nothing, or to remove the entry under the
id the session was registered with. -/
theorem unregister_or_quiet {a : Action} {gs : List Event} (m : ConnectionManager)
    (registration : Registration s (ownEvents i es))
    (hstep : sessionStep lib s a = some (t, gs)) :
    (∃ sid, gs = [.unregister sid] ∧ .session i (.registered sid) ∈ es ∧
        (gs.foldl .observe m).sessions = m.sessions.erase sid) ∨
      (∀ sid, .unregister sid ∉ gs) ∧ (gs.foldl .observe m).sessions = m.sessions := by
  have htransition := (transition_of_step hstep).2
  have hlength := htransition.length_events
  match gs, hlength with
  | [], _ => exact .inr ⟨by simp, rfl⟩
  | [e], _ =>
      cases e with
      | unregister sid =>
          have hregs := registration.registrations_of_unregister htransition
            (List.mem_singleton_self _)
          refine .inl ⟨sid, rfl, ?_, rfl⟩
          exact mem_ownEvents.mp (mem_registrations.mp (by rw [hregs]; simp))
      | _ => exact .inr ⟨by simp, rfl⟩

/-- A session that registers has not unregistered under that id. -/
theorem Unregistration.notMem_of_inserting {attempt : ℕ} {gs : List Event}
    (inv : Unregistration s gs) (registration : Registration s gs) (control : ControlInv s)
    (hstrand : s.strand = .insert attempt sid) : .unregister sid ∉ gs := by
  intro hmem
  have hregs := (inv.mine sid hmem).1
  rw [registration.registrations_of_inserting control hstrand] at hregs
  cases hregs

theorem EntriesAgree.step (h : WorldTransition lib w a fs w')
    (hsessions : ∀ (i : ℕ) (s : WebsocketSession), w.sessions[i]? = some s → ControlInv s ∧
      Registration s (ownEvents i es) ∧ Unregistration s (ownEvents i es))
    (inv : EntriesAgree w es) : EntriesAgree w' (es ++ fs) := by
  cases h with
  | created | generated | fallback | refused | closing | dispatching | returned =>
      exact inv.of_quiet rfl (by simp)
  | own hget _ hstep =>
      rcases unregister_or_quiet w.manager (hsessions _ _ hget).2.1 hstep with
        ⟨sid, rfl, -, hsessions⟩ | ⟨hquiet, hsessions⟩
      · exact inv.of_unregister hsessions
      · exact inv.of_quiet hsessions (by simp [hquiet])
  | registered hget hstrand =>
      obtain ⟨control, registration, unregistration⟩ := hsessions _ _ hget
      refine inv.of_registered rfl fun hmem => ?_
      exact unregistration.notMem_of_inserting registration control hstrand (mem_ownEvents.mpr hmem)
  | swept =>
      intro sid i hlookup
      cases hlookup

/-- What the entries of the registry say. -/
structure RegistryInv (w : World) (es : List WorldEvent) : Prop where
  entries : ∀ sid i, w.manager.sessions.lookup sid = some i →
    .session i (.registered sid) ∈ es ∧ .session i (.unregister sid) ∉ es
  kept : ∀ sid i, .session i (.registered sid) ∈ es → .session i (.unregister sid) ∈ es ∨
    w.manager.sessions.lookup sid = some i ∨ .swept sid ∈ es
  issued : ∀ sid i, .session i (.registered sid) ∈ es → .generated i sid ∈ es
  inserting : ∀ (i : ℕ) (s : WebsocketSession) (attempt : ℕ) (sid : Text),
    w.sessions[i]? = some s → s.strand = .insert attempt sid → .generated i sid ∈ es

/-- The invariants of every session of a world. -/
theorem session_invariants (run : WorldRun lib as es w) (hget : w.sessions[i]? = some s) :
    ControlInv s ∧ Registration s (ownEvents i es) ∧ Unregistration s (ownEvents i es) := by
  obtain ⟨_, _, _, own⟩ := session_of_world run hget
  exact ⟨controlInv_of_run own, registration_of_run own, unregistration_of_run own⟩

theorem After.strand_ne_insert (after : After) {attempt : ℕ} :
    after.strand ≠ .insert attempt sid := by
  cases after <;> simp [After.strand]

theorem Next.strand_ne_insert (next : Next) {attempt : ℕ} : next.strand ≠ .insert attempt sid := by
  cases next <;> simp [Next.strand]

/-- An id to insert is the one that was generated. -/
theorem Transition.insert_origin {a : Action} {fs : List Event} {attempt : ℕ}
    (h : Transition lib s a fs t) (hstrand : t.strand = .insert attempt sid) :
    s.strand = .insert attempt sid ∨ a = .generated sid := by
  cases h with
  | generated =>
      cases hstrand
      exact .inr rfl
  | tick | elapsed | timerFailed | managerDropped | destroyed | deadlineStopped
  | deadlineRewaited | callerStart | callerJoin | callerRefused | callerPosted | closeCalled
  | closeForgotten | closeDispatched | writeAbandoned | writtenLast | armed | accepting
  | acceptDropped | acceptFailed | readDropped => exact .inl hstrand
  | readFailed =>
      dsimp only at hstrand
      split at hstrand <;> cases hstrand
  | sendRefused hsends => cases hsends <;> cases hstrand
  | queuedJoin | posted => exact absurd hstrand (Next.strand_ne_insert _)
  | checkBusy | closeClosed | closeSkipped | shutdown =>
      exact absurd hstrand (After.strand_ne_insert _)
  | _ => cases hstrand

/-- The ids to insert, after a step of one session. -/
private theorem RegistryInv.inserting_set {a : Action} {gs : List Event} (inv : RegistryInv w es)
    (hget : w.sessions[i]? = some s) (hstep : sessionStep lib s a = some (t, gs))
    (hgenerated : ∀ sid, a = .generated sid → .generated i sid ∈ fs) (j : ℕ)
    (u : WebsocketSession) (attempt : ℕ) (sid : Text) (hu : (w.sessions.set i t)[j]? = some u)
    (hstrand : u.strand = .insert attempt sid) : .generated j sid ∈ es ++ fs := by
  by_cases hij : i = j
  · subst hij
    rw [List.getElem?_set_self (List.getElem?_eq_some_iff.mp hget).1, Option.some.injEq] at hu
    subst hu
    rcases (transition_of_step hstep).2.insert_origin hstrand with hbefore | ha
    · exact List.mem_append_left _ (inv.inserting i s attempt sid hget hbefore)
    · exact List.mem_append_right _ (hgenerated sid ha)
  · rw [List.getElem?_set_ne hij] at hu
    exact List.mem_append_left _ (inv.inserting j u attempt sid hu hstrand)

/-- A step without a call of `register_session` that succeeds or of `unregister_session`. -/
private theorem RegistryInv.of_quiet (inv : RegistryInv w es)
    (hsessions : w'.manager.sessions = w.manager.sessions)
    (hregistered : ∀ sid i, .session i (.registered sid) ∉ fs)
    (hunregister : ∀ sid i, .session i (.unregister sid) ∉ fs)
    (hinserting : ∀ (i : ℕ) (s : WebsocketSession) (attempt : ℕ) (sid : Text),
      w'.sessions[i]? = some s → s.strand = .insert attempt sid → .generated i sid ∈ es ++ fs) :
    RegistryInv w' (es ++ fs) := by
  refine ⟨EntriesAgree.of_quiet inv.entries hsessions hunregister, ?_, ?_, hinserting⟩
  · intro sid i hmem
    rw [hsessions]
    rcases List.mem_append.mp hmem with hold | hnew
    · exact (inv.kept sid i hold).imp (List.mem_append_left _)
        (Or.imp_right (List.mem_append_left _))
    · exact absurd hnew (hregistered sid i)
  · intro sid i hmem
    rcases List.mem_append.mp hmem with hold | hnew
    · exact List.mem_append_left _ (inv.issued sid i hold)
    · exact absurd hnew (hregistered sid i)

/-- Session `i` unregisters: the entry under its id is its own. -/
private theorem RegistryInv.of_unregister (inv : RegistryInv w es) (ids : IdInv w es)
    (hsessions : w'.manager.sessions = w.manager.sessions.erase sid)
    (hmine : .session i (.registered sid) ∈ es)
    (hinserting : ∀ (j : ℕ) (u : WebsocketSession) (attempt : ℕ) (sid' : Text),
      w'.sessions[j]? = some u → u.strand = .insert attempt sid' →
        .generated j sid' ∈ es ++ [.session i (.unregister sid)]) :
    RegistryInv w' (es ++ [.session i (.unregister sid)]) := by
  refine ⟨EntriesAgree.of_unregister inv.entries hsessions, ?_, ?_, hinserting⟩
  · intro sid' j hmem
    have hold : .session j (.registered sid') ∈ es := by simpa using hmem
    by_cases hsame : sid' = sid
    · subst hsame
      obtain rfl : i = j := ids.owner_eq (inv.issued _ _ hmine) (inv.issued _ _ hold)
      exact .inl (by simp)
    · rw [hsessions, AList.lookup_erase_ne hsame]
      exact (inv.kept sid' j hold).imp (List.mem_append_left _)
        (Or.imp_right (List.mem_append_left _))
  · intro sid' j hmem
    exact List.mem_append_left _ (inv.issued sid' j (by simpa using hmem))

/-- Session `i` registers under an id that is free. -/
private theorem RegistryInv.of_registered (inv : RegistryInv w es)
    (hsessions : w'.manager.sessions = w.manager.sessions.insert sid i)
    (hfree : sid ∉ w.manager.sessions) (hgenerated : .generated i sid ∈ es)
    (hnew : .session i (.unregister sid) ∉ es)
    (hinserting : ∀ (j : ℕ) (u : WebsocketSession) (attempt : ℕ) (sid' : Text),
      w'.sessions[j]? = some u → u.strand = .insert attempt sid' →
        .generated j sid' ∈ es ++ [.session i (.registered sid)]) :
    RegistryInv w' (es ++ [.session i (.registered sid)]) := by
  refine ⟨EntriesAgree.of_registered inv.entries hsessions hnew, ?_, ?_, hinserting⟩
  · intro sid' j hmem
    rw [hsessions]
    rcases List.mem_append.mp hmem with hold | hmem
    · rcases inv.kept sid' j hold with hgone | hentry | hswept
      · exact .inl (List.mem_append_left _ hgone)
      · have hne : sid' ≠ sid := by
          rintro rfl
          rw [AList.lookup_eq_none.mpr hfree] at hentry
          cases hentry
        exact .inr (.inl (by rw [AList.lookup_insert_ne hne, hentry]))
      · exact .inr (.inr (List.mem_append_left _ hswept))
    · cases List.mem_singleton.mp hmem
      exact .inr (.inl (AList.lookup_insert _))
  · intro sid' j hmem
    refine List.mem_append_left _ ?_
    rcases List.mem_append.mp hmem with hold | hmem
    · exact inv.issued sid' j hold
    · cases List.mem_singleton.mp hmem
      exact hgenerated

theorem RegistryInv.step (h : WorldTransition lib w a fs w') (run : WorldRun lib as es w)
    (ids : IdInv w es) (inv : RegistryInv w es) : RegistryInv w' (es ++ fs) := by
  cases h with
  | created now handshakeTimeout =>
      refine inv.of_quiet rfl (by simp) (by simp) fun i s attempt sid hget hstrand => ?_
      rw [List.append_nil]
      rcases Nat.lt_or_ge i w.sessions.length with hlt | hge
      · rw [List.getElem?_append_left hlt] at hget
        exact inv.inserting i s attempt sid hget hstrand
      · rw [List.getElem?_append_right hge] at hget
        rw [List.mem_singleton.mp (List.mem_of_getElem? hget)] at hstrand
        cases hstrand
  | own hget hallows hstep =>
      rename_i i a s t gs
      have hlocal : ∀ sid, a ≠ .generated sid := by
        rintro sid rfl
        cases hallows
      have hquiet : ∀ sid, .registered sid ∉ gs := fun sid => registered_notMem hallows hstep
      rcases unregister_or_quiet w.manager (session_invariants run hget).2.1 hstep with
        ⟨sid, rfl, hmine, hsessions⟩ | ⟨hquiet', hsessions⟩
      · exact inv.of_unregister ids hsessions hmine
          (inv.inserting_set hget hstep fun sid ha => absurd ha (hlocal sid))
      · refine inv.of_quiet hsessions ?_ ?_
          (inv.inserting_set hget hstep fun sid ha => absurd ha (hlocal sid))
        · simp [hquiet]
        · simp [hquiet']
  | generated hget hstep =>
      refine inv.of_quiet rfl (by simp) (by simp) (inv.inserting_set hget hstep fun sid ha => ?_)
      cases ha
      exact List.mem_singleton_self _
  | fallback hget hstep =>
      refine inv.of_quiet rfl (by simp) (by simp) (inv.inserting_set hget hstep fun sid ha => ?_)
      cases ha
      exact List.mem_singleton_self _
  | @registered i attempt count sid s t hget hstrand hroom hfree hstep =>
      obtain ⟨control, registration, unregistration⟩ := session_invariants run hget
      refine inv.of_registered rfl hfree (inv.inserting i s attempt sid hget hstrand) ?_
        (inv.inserting_set hget hstep (by simp))
      intro hmem
      exact unregistration.notMem_of_inserting registration control hstrand (mem_ownEvents.mpr hmem)
  | refused hget hstep =>
      exact inv.of_quiet rfl (by simp) (by simp) (inv.inserting_set hget hstep (by simp))
  | closing hget _ _ hstep | dispatching hget _ _ hstep =>
      exact inv.of_quiet rfl (by simp) (by simp) (inv.inserting_set hget hstep (by simp))
  | returned =>
      refine inv.of_quiet rfl (by simp) (by simp) fun i s attempt sid hget hstrand => ?_
      exact List.mem_append_left _ (inv.inserting i s attempt sid hget hstrand)
  | swept =>
      refine ⟨fun sid i hlookup => ?_, fun sid i hmem => ?_, fun sid i hmem => ?_, ?_⟩
      · cases hlookup
      · have hold : .session i (.registered sid) ∈ es := by simpa using hmem
        rcases inv.kept sid i hold with hgone | hentry | hswept
        · exact .inl (List.mem_append_left _ hgone)
        · refine .inr (.inr (List.mem_append_right _ (List.mem_map.mpr ⟨⟨sid, i⟩, ?_, rfl⟩)))
          exact AList.mem_lookup_iff.mp hentry
        · exact .inr (.inr (List.mem_append_left _ hswept))
      · exact List.mem_append_left _ (inv.issued sid i (by simpa using hmem))
      · intro i s attempt sid hget hstrand
        exact List.mem_append_left _ (inv.inserting i s attempt sid hget hstrand)

theorem registryInv_of_run (run : WorldRun lib as es w) (hcount : (issuedIds es).length < 2 ^ 32) :
    RegistryInv w es := by
  refine (run.invariant (I := fun w es => (issuedIds es).length < 2 ^ 32 →
    (∃ as, WorldRun lib as es w) ∧ RegistryInv w es) ?_ ?_ hcount).2
  · refine fun _ => ⟨⟨[], .refl _⟩, fun _ _ hlookup => ?_, by simp, by simp, by simp [World.initial]⟩
    cases hlookup
  · intro es w a fs w' inv hstep hcount
    have hcount' : (issuedIds es).length < 2 ^ 32 := by
      rw [issuedIds_append, List.length_append] at hcount
      omega
    obtain ⟨⟨as, run⟩, inv⟩ := inv hcount'
    exact ⟨⟨as ++ [a], run.tail hstep⟩,
      inv.step (worldTransition_of_step hstep) run (idInv_of_run run hcount')⟩

/-! ## Agreement -/

/-- The registry agrees with the sessions. -/
structure Agrees (lib : JsonLib) (w : World) (es : List WorldEvent) : Prop where
  /-- An entry is that of a session which, at rest, holds the id and is not closed. -/
  entry : ∀ sid i, w.manager.sessions.lookup sid = some i → ∃ s, w.sessions[i]? = some s ∧
    (s.strand = .idle → s.sessionId = sid ∧ s.state ≠ .closed)
  /-- An authenticated session at rest has an id and an entry, unless `stop_all` took it. -/
  authenticated : ∀ (i : ℕ) (s : WebsocketSession), w.sessions[i]? = some s →
    s.destroyed = false → s.strand = .idle → s.state = .authenticated → s.sessionId ≠ [] ∧
      (w.manager.sessions.lookup s.sessionId = some i ∨ .swept s.sessionId ∈ es)
  once : ∀ (i : ℕ) (s : WebsocketSession), w.sessions[i]? = some s →
    (registrations (ownEvents i es)).length ≤ 1
  distinct : ∀ (i j : ℕ) (s t : WebsocketSession), w.sessions[i]? = some s →
    w.sessions[j]? = some t → s.sessionId ≠ [] → s.sessionId = t.sessionId → i = j
  /-- Apart from `stop_all`, an entry is removed by the session it refers to. -/
  own : ∀ (a : WorldAction) (fs : List WorldEvent) (w' : World) (sid : Text) (i : ℕ),
    (world lib).step w a fs w' → w.manager.sessions.lookup sid = some i →
      w'.manager.sessions.lookup sid ≠ some i → a = .stopAll ∨ .session i (.unregister sid) ∈ fs

theorem IdInv.session_eq (ids : IdInv w es) (inv : RegistryInv w es)
    (hi : .session i (.registered sid) ∈ es) (hj : .session j (.registered sid) ∈ es) : i = j :=
  ids.owner_eq (inv.issued sid i hi) (inv.issued sid j hj)

/-- An entry disappears with a sweep or with a call of its own session. -/
theorem RegistryInv.own_of_removed (inv : RegistryInv w es) (ids : IdInv w es)
    (run : WorldRun lib as es w) (h : WorldTransition lib w a fs w')
    (hbefore : w.manager.sessions.lookup sid = some i)
    (hafter : w'.manager.sessions.lookup sid ≠ some i) :
    a = .stopAll ∨ .session i (.unregister sid) ∈ fs := by
  cases h with
  | swept => exact .inl rfl
  | own hget hallows hstep =>
      rcases unregister_or_quiet w.manager (session_invariants run hget).2.1 hstep with
        ⟨sid', rfl, hmine, hsessions⟩ | ⟨_, hsessions⟩
      · by_cases hsame : sid = sid'
        · subst hsame
          rw [ids.session_eq inv (inv.entries sid i hbefore).1 hmine]
          exact .inr (List.mem_singleton_self _)
        · dsimp only at hafter
          rw [hsessions, AList.lookup_erase_ne hsame] at hafter
          exact absurd hbefore hafter
      · dsimp only at hafter
        rw [hsessions] at hafter
        exact absurd hbefore hafter
  | registered _ _ _ hfree =>
      refine absurd ?_ hafter
      rw [AList.lookup_insert_ne, hbefore]
      rintro rfl
      rw [AList.lookup_eq_none.mpr hfree] at hbefore
      cases hbefore
  | created | generated | fallback | refused | closing | dispatching | returned =>
      exact absurd hbefore hafter

/-- As long as fewer than `2^32` ids were generated, the registry agrees with the sessions,
whatever they do and whoever calls `stop_all` and `close`. -/
theorem registry_agrees (run : WorldRun lib as es w) (hcount : (issuedIds es).length < 2 ^ 32) :
    Agrees lib w es := by
  have ids := idInv_of_run run hcount
  have inv := registryInv_of_run run hcount
  constructor
  · intro sid i hlookup
    obtain ⟨hregs, hnot⟩ := inv.entries sid i hlookup
    obtain ⟨s, hget⟩ := session_of_mem run hregs
    refine ⟨s, hget, fun hidle => ?_⟩
    obtain ⟨_, registration, unregistration⟩ := session_invariants run hget
    obtain ⟨hone, hsid⟩ := registration.sessionId_of_idle hidle (mem_ownEvents.mpr hregs)
    refine ⟨hsid, fun hclosed => hnot (mem_ownEvents.mp ?_)⟩
    exact unregistration.due (managerAlive_of_world run s (List.mem_of_getElem? hget))
      (by simp [WebsocketSession.ended, hclosed]) (by rw [hidle]; rfl) sid hone
  · intro i s hget hlive hidle hstate
    obtain ⟨_, registration, unregistration⟩ := session_invariants run hget
    have hne := registration.sessionId_ne_nil hidle hstate
    refine ⟨hne, ?_⟩
    have hregs := registration.registrations_of_sessionId hne
    have hmem : .session i (.registered s.sessionId) ∈ es :=
      mem_ownEvents.mp (mem_registrations.mp (by rw [hregs]; simp))
    rcases inv.kept _ _ hmem with hgone | hkept
    · have hended := (unregistration.mine _ (mem_ownEvents.mpr hgone)).2
      simp [WebsocketSession.ended, hstate, hlive] at hended
    · exact hkept
  · intro i s hget
    exact (session_invariants run hget).2.1.length_le
  · intro i j s t hi hj hne hsame
    have hmine := (session_invariants run hi).2.1.registrations_of_sessionId hne
    have hother := (session_invariants run hj).2.1.registrations_of_sessionId (hsame ▸ hne)
    have hi' : .session i (.registered s.sessionId) ∈ es :=
      mem_ownEvents.mp (mem_registrations.mp (by rw [hmine]; simp))
    have hj' : .session j (.registered s.sessionId) ∈ es :=
      mem_ownEvents.mp (mem_registrations.mp (by rw [hother, hsame]; simp))
    exact ids.session_eq inv hi' hj'
  · intro a fs w' sid i hstep
    exact inv.own_of_removed ids run (worldTransition_of_step hstep)

/-! ## Two clients -/

/-- Two clients are authenticated one after the other; the first one disconnects, and
`stop_all` closes the second. -/
def pairActions : List WorldAction :=
  [.create 0 (seconds 10), .create 0 (seconds 10)] ++
    (connectActions []).map (.ofAction 0 0xdeadbeef) ++
    (connectActions []).map (.ofAction 1 0xcafe) ++
    [.session 0 (.onRead (.failed .closed)), .session 0 .resume, .stopAll, .stopClose 0 1]

def pairRun : World × List WorldEvent :=
  (Machine.exec (World.step (.knowing [handshakeEnvelope])) .initial pairActions).get
    (by decide +kernel)

theorem registry_agrees_pair : Agrees (.knowing [handshakeEnvelope]) pairRun.1 pairRun.2 := by
  have run : WorldRun (.knowing [handshakeEnvelope]) pairActions pairRun.2 pairRun.1 :=
    Machine.run_get _
  exact registry_agrees run (by decide +kernel)

end Registry

end CppSim.Server
