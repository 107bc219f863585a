import CppSim.Server.RuntimeConfig

/-!
# Concurrent loads

A load stores the values in one critical section and the path in another.  When two
loads of different files overlap, the values of the one may end up beside the path of
the other, and a later reload of an unchanged file replaces the values
(`mixed_loads`).

The values belong to the path again once the calls have returned, provided that no load
stores its path after another load has put different values in the place of its own
(`StoresOwn`).  The condition is as weak as a condition on single steps can be: a load
that stores its path against it leaves a mixed state (`coherent_storePath_iff`).
-/

namespace CppSim.Server

/-- The files are found as `files` has them. -/
def ConfigAction.ReadsFrom (files : Text → FileContents) : ConfigAction → Prop
  | .readFile _ found => found = files
  | _ => True

/-- The values a load has stored, when its path is yet to be stored. -/
def ConfigCall.stored? : ConfigCall → Option RuntimeConfig
  | .storePath _ config => some config
  | _ => none

/-- A load stores its path only while the values in place are those it stored itself, or
equal to them. -/
def StoresOwn (m : RuntimeConfigManager) : ConfigAction → Prop
  | .resume i => ∀ config ∈ m.calls[i]?.bind ConfigCall.stored?, m.config = config
  | _ => True

instance (m : RuntimeConfigManager) : (a : ConfigAction) → Decidable (StoresOwn m a)
  | .resume i => inferInstanceAs (Decidable (∀ config ∈ m.calls[i]?.bind ConfigCall.stored?, _))
  | .tick _ | .loadFromFile _ | .reload | .readFile _ _ | .exportToJson _ => isTrue trivial

theorem storesOwn_iff {m : RuntimeConfigManager} {i : ℕ} {path : Text} {config : RuntimeConfig}
    (hcall : m.calls[i]? = some (.storePath path config)) :
    StoresOwn m (.resume i) ↔ m.config = config := by
  simp [StoresOwn, hcall, ConfigCall.stored?]

/-- The call has returned. -/
def ConfigCall.Returned : ConfigCall → Prop
  | .returned _ => True
  | _ => False

instance : (call : ConfigCall) → Decidable call.Returned
  | .returned _ => isTrue trivial
  | .throttle _ _ | .openFile _ | .storeValues _ _ | .storePath _ _ => isFalse not_false

namespace RuntimeConfigManager

/-- No call is in progress. -/
def Quiescent (m : RuntimeConfigManager) : Prop := ∀ call ∈ m.calls, call.Returned

instance (m : RuntimeConfigManager) : Decidable m.Quiescent :=
  inferInstanceAs (Decidable (∀ call ∈ m.calls, call.Returned))

/-- The values are those of the file at the stored path. -/
def Coherent (files : Text → FileContents) (m : RuntimeConfigManager) : Prop :=
  configAt files m.configPath = some m.config

instance (files : Text → FileContents) (m : RuntimeConfigManager) : Decidable (m.Coherent files) :=
  inferInstanceAs (Decidable (_ = _))

end RuntimeConfigManager

/-- What a load stores is what its file holds. -/
def ConfigCall.ReadFrom (files : Text → FileContents) : ConfigCall → Prop
  | .storeValues path config | .storePath path config => configAt files path = some config
  | .throttle _ _ | .openFile _ | .returned _ => True

section Loads

variable {files : Text → FileContents} {lib : JsonLib} {m m' : RuntimeConfigManager}
  {a : ConfigAction} {es : List ConfigEvent}

/-! ## What the loads store -/

theorem readFrom_step (hcalls : ∀ call ∈ m.calls, call.ReadFrom files) (hreads : a.ReadsFrom files)
    (h : (configManager lib).step m a es m') : ∀ call ∈ m'.calls, call.ReadFrom files := by
  have hat : ∀ {i : ℕ} {call : ConfigCall}, m.calls[i]? = some call → call.ReadFrom files :=
    fun hcall => hcalls _ (List.mem_of_getElem? hcall)
  cases configStep_cases h with
  | tick duration => exact hcalls
  | call path => exact forall_calls_addCall hcalls trivial
  | noPath => exact forall_calls_addCall hcalls trivial
  | reload => exact forall_calls_addCall hcalls trivial
  | @read i path found config hcall hread =>
      have hconfig : configAt files path = some config := by
        obtain rfl : found = files := hreads
        exact hread
      exact forall_calls_setCall hcalls hconfig
  | unread hcall => exact forall_calls_setCall hcalls trivial
  | throttled hcall => exact forall_calls_setCall hcalls trivial
  | reopened hcall => exact forall_calls_setCall hcalls trivial
  | storeValues hcall =>
      have hconfig : configAt files _ = some _ := hat hcall
      exact forall_calls_setCall hcalls hconfig
  | storePath hcall => exact forall_calls_setCall hcalls trivial
  | exported systemTime configJson => exact hcalls

theorem readFrom_initial (now : ℤ) :
    ∀ call ∈ (RuntimeConfigManager.initial now).calls, call.ReadFrom files := by
  simp [RuntimeConfigManager.initial]

/-- A load that stores its path leaves the values of its file exactly if it finds the
values that it has stored. -/
theorem coherent_storePath_iff {now : ℤ} {as : List ConfigAction} {i : ℕ} {path : Text}
    {config : RuntimeConfig} (run : (configManager lib).Run (.initial now) as es m)
    (hfiles : ∀ a ∈ as, a.ReadsFrom files) (hcall : m.calls[i]? = some (.storePath path config))
    {es' : List ConfigEvent} (h : (configManager lib).step m (.resume i) es' m') :
    m'.Coherent files ↔ StoresOwn m (.resume i) := by
  have hcalls : ∀ call ∈ m.calls, call.ReadFrom files :=
    (run.restrict_of_forall hfiles).preserves (readFrom_initial now)
      fun _ _ _ _ hcalls h => readFrom_step hcalls h.1 h.2
  have hconfig : configAt files path = some config := hcalls _ (List.mem_of_getElem? hcall)
  cases configStep_cases h with
  | storePath hcall' =>
      obtain ⟨rfl, rfl⟩ := ConfigCall.storePath.inj (Option.some.inj (hcall.symm.trans hcall'))
      rw [storesOwn_iff hcall, RuntimeConfigManager.Coherent, hconfig, Option.some_inj, eq_comm]
      rfl
  | throttled hcall' => simp [hcall] at hcall'
  | reopened hcall' => simp [hcall] at hcall'
  | storeValues hcall' => simp [hcall] at hcall'

/-! ## Coherence -/

/-- The values belong to the stored path, or to a load that has yet to store its path. -/
def Owned (files : Text → FileContents) (m : RuntimeConfigManager) : Prop :=
  m.Coherent files ∨ ∃ path, ConfigCall.storePath path m.config ∈ m.calls

theorem Owned.addCall (h : Owned files m) (call : ConfigCall) : Owned files (m.addCall call) := by
  rcases h with hcoherent | ⟨path, hmem⟩
  · exact Or.inl hcoherent
  · exact Or.inr ⟨path, List.mem_append_left _ hmem⟩

/-- A call that does not store its path goes on. -/
theorem Owned.setCall {i : ℕ} {call : ConfigCall} (h : Owned files m)
    (hcall : ∀ path config, m.calls[i]? ≠ some (.storePath path config)) :
    Owned files (m.setCall i call) := by
  rcases h with hcoherent | ⟨path, hmem⟩
  · exact Or.inl hcoherent
  · obtain ⟨j, hj⟩ := List.mem_iff_getElem?.mp hmem
    have hne : i ≠ j := by
      rintro rfl
      exact hcall path m.config hj
    refine Or.inr ⟨path, List.mem_of_getElem? (i := j) ?_⟩
    rw [RuntimeConfigManager.setCall, List.getElem?_set_ne hne]
    exact hj

/-- A load that succeeds where the condition holds makes the values those of its file. -/
theorem coherent_of_loaded (hcalls : ∀ call ∈ m.calls, call.ReadFrom files)
    (hstores : StoresOwn m a) (h : (configManager lib).step m a es m')
    (hloaded : ∃ path, ConfigEvent.loaded path ∈ es) : m'.Coherent files := by
  obtain ⟨loadedPath, hmem⟩ := hloaded
  cases configStep_cases h with
  | @storePath i path config hcall =>
      have hconfig : configAt files path = some config := hcalls _ (List.mem_of_getElem? hcall)
      rw [RuntimeConfigManager.Coherent, hconfig, ← (storesOwn_iff hcall).mp hstores]
      rfl
  | _ => simp at hmem

theorem Owned.step (howned : Owned files m) (hcalls : ∀ call ∈ m.calls, call.ReadFrom files)
    (hstores : StoresOwn m a) (h : (configManager lib).step m a es m') : Owned files m' := by
  cases configStep_cases h with
  | tick duration => exact howned
  | call path => exact howned.addCall _
  | noPath => exact howned.addCall _
  | reload => exact howned.addCall _
  | read hcall hread => exact howned.setCall (by simp [hcall])
  | unread hcall => exact howned.setCall (by simp [hcall])
  | throttled hcall => exact howned.setCall (by simp [hcall])
  | reopened hcall => exact howned.setCall (by simp [hcall])
  | @storeValues i path config hcall =>
      obtain ⟨hi, -⟩ := List.getElem?_eq_some_iff.mp hcall
      exact Or.inr ⟨path, List.mem_set hi _⟩
  | @storePath i path config hcall =>
      exact Or.inl (coherent_of_loaded hcalls hstores h ⟨path, List.mem_cons_self⟩)
  | exported systemTime configJson => exact howned

end Loads

/-- Once every call has returned, the values are those of the file at the stored path, in
a run in which every load that stores its path finds the values it has stored. -/
theorem coherentLoads {files : Text → FileContents} {lib : JsonLib} {now : ℤ}
    {as : List ConfigAction} {es : List ConfigEvent} {m : RuntimeConfigManager}
    (run : ((configManager lib).restrict StoresOwn).Run (.initial now) as es m)
    (hfiles : ∀ a ∈ as, a.ReadsFrom files) (hquiet : m.Quiescent)
    (hloaded : ∃ path, ConfigEvent.loaded path ∈ es) : m.Coherent files := by
  have inv : (∀ call ∈ m.calls, call.ReadFrom files) ∧
      ((∃ path, ConfigEvent.loaded path ∈ es) → Owned files m) := by
    apply (run.restrict_of_forall hfiles).invariant
      (I := fun m es => (∀ call ∈ m.calls, call.ReadFrom files) ∧
        ((∃ path, ConfigEvent.loaded path ∈ es) → Owned files m))
    · exact ⟨readFrom_initial now, by simp⟩
    · rintro es m a es' m' ⟨hcalls, howned⟩ ⟨hreads, hstores, h⟩
      refine ⟨readFrom_step hcalls hreads h, ?_⟩
      rintro ⟨path, hpath⟩
      rcases List.mem_append.mp hpath with hpath | hpath
      · exact (howned ⟨path, hpath⟩).step hcalls hstores h
      · exact Or.inl (coherent_of_loaded hcalls hstores h ⟨path, hpath⟩)
  rcases inv.2 hloaded with hcoherent | ⟨path, hmem⟩
  · exact hcoherent
  · exact (hquiet _ hmem).elim

/-- Two files: one with a limit of two connections, and an empty one everywhere else. -/
def twoFiles (path : Text) : FileContents :=
  if path = text "two" then .parsed twoConnections else .parsed (.object [])

/-- Two loads, one after the other. -/
def loadsInTurn : List ConfigAction :=
  [.loadFromFile (text "empty"), .loadFromFile (text "two"), .readFile 0 twoFiles,
    .readFile 1 twoFiles, .resume 0, .resume 0, .resume 1, .resume 1]

def inTurn : RuntimeConfigManager × List ConfigEvent :=
  (Machine.exec (Machine.guarded StoresOwn (configStep (.knowing []))) (.initial 0)
    loadsInTurn).get (by decide +kernel)

theorem coherentLoads_inTurn :
    inTurn.1.configPath = text "two" ∧ inTurn.1.config.maxConnections = 2 ∧
      inTurn.1.Coherent twoFiles := by
  have run : ((configManager (.knowing [])).restrict StoresOwn).Run (.initial 0) loadsInTurn
      inTurn.2 inTurn.1 := Machine.run_restrict_get _
  refine ⟨by decide +kernel, by decide +kernel, coherentLoads run ?_ (by decide +kernel)
    ⟨text "two", by decide +kernel⟩⟩
  simp [loadsInTurn, ConfigAction.ReadsFrom]

/-- Two loads that overlap: the second stores its values and its path in between. -/
def loadsNested : List ConfigAction :=
  [.loadFromFile (text "two"), .loadFromFile (text "empty"), .readFile 0 twoFiles,
    .readFile 1 twoFiles, .resume 0, .resume 1, .resume 1, .resume 0]

def nested : RuntimeConfigManager × List ConfigEvent :=
  (Machine.exec (configStep (.knowing [])) (.initial 0) loadsNested).get (by decide +kernel)

/-- The values of the one file are left with the path of the other. -/
theorem mixed_loads :
    ¬ ∀ (files : Text → FileContents) (lib : JsonLib) (now : ℤ) (as : List ConfigAction)
      (es : List ConfigEvent) (m : RuntimeConfigManager),
      (configManager lib).Run (.initial now) as es m → (∀ a ∈ as, a.ReadsFrom files) →
      m.Quiescent → (∃ path, ConfigEvent.loaded path ∈ es) → m.Coherent files := by
  intro hclaim
  have run : (configManager (.knowing [])).Run (.initial 0) loadsNested nested.2 nested.1 :=
    Machine.run_get _
  have hmixed : ¬ nested.1.Coherent twoFiles := by decide +kernel
  refine hmixed (hclaim _ _ _ _ _ _ run ?_ (by decide +kernel) ⟨text "two", by decide +kernel⟩)
  simp [loadsNested, ConfigAction.ReadsFrom]

end CppSim.Server
