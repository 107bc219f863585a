import CppSim.Server.RuntimeConfig

/-!
# The throttle of `reload`

`reload` reads the time of the last load under the lock and compares it with the clock after it
has left the lock; the load itself stores that time in a critical section of its own.  Between
any two of these the other calls may go on, and the time of the last load may change.

`reload_throttles` says what remains of the interval for all that: a reload that is called after
a load has completed does not open the file before `reload_interval_` has passed since then.  A
load that fails does not count, as it stores no time.
-/

namespace CppSim.Server

/-- A reload that has not opened the file, and has read that the last load was at `since` or
later. -/
def ConfigCall.HeldBack (since : ℤ) : ConfigCall → Prop
  | .throttle _ lastReload => since ≤ lastReload
  | .returned _ => True
  | .openFile _ | .storeValues _ _ | .storePath _ _ => False

namespace RuntimeConfigManager

/-- The time of the last load does not fall back behind `since`. -/
structure LoadedAt (since : ℤ) (m : RuntimeConfigManager) : Prop where
  now : since ≤ m.now
  lastReloadTime : since ≤ m.lastReloadTime

/-- The call at `i` is held back until the interval has passed since `since`. -/
def Throttles (since : ℤ) (i : ℕ) (m : RuntimeConfigManager) : Prop :=
  since + reloadInterval ≤ m.now ∨ ∃ call, m.calls[i]? = some call ∧ call.HeldBack since

end RuntimeConfigManager

open RuntimeConfigManager

section Throttle

variable {lib : JsonLib} {m m' : RuntimeConfigManager} {a : ConfigAction} {as : List ConfigAction}
  {es : List ConfigEvent} {since : ℤ} {i j : ℕ} {call : ConfigCall}

/-! ## The time of the last load -/

theorem loadedAt_of_loaded (h : (configManager lib).step m a es m')
    (hloaded : ∃ path, ConfigEvent.loaded path ∈ es) : m'.LoadedAt m.now := by
  obtain ⟨path, hmem⟩ := hloaded
  cases configStep_cases h with
  | storePath => exact ⟨le_rfl, le_rfl⟩
  | _ => simp at hmem

theorem RuntimeConfigManager.LoadedAt.step (loaded : m.LoadedAt since) (h : (configManager lib).step m a es m') :
    m'.LoadedAt since := by
  obtain ⟨hnow, hlast⟩ := loaded
  cases configStep_cases h with
  | tick duration => exact ⟨hnow.trans (by simp), hlast⟩
  | storePath => exact ⟨hnow, hnow⟩
  | _ => exact ⟨hnow, hlast⟩

theorem RuntimeConfigManager.LoadedAt.run (loaded : m.LoadedAt since) (run : (configManager lib).Run m as es m') :
    m'.LoadedAt since :=
  run.preserves loaded fun _ _ _ _ loaded h => loaded.step h

/-! ## The call -/

theorem RuntimeConfigManager.Throttles.addCall (h : m.Throttles since i) (call : ConfigCall) :
    (m.addCall call).Throttles since i := by
  obtain hpassed | ⟨held, hcall, hheld⟩ := h
  · exact .inl hpassed
  · refine .inr ⟨held, ?_, hheld⟩
    rw [RuntimeConfigManager.addCall, List.getElem?_append_left (List.getElem?_eq_some_iff.mp hcall).1]
    exact hcall

/-- Another call goes on, or the call itself does, and either comes to a point where it is held
back or is free to go. -/
theorem RuntimeConfigManager.Throttles.setCall (h : m.Throttles since i)
    (hself : i = j → call.HeldBack since ∨ since + reloadInterval ≤ m.now) :
    (m.setCall j call).Throttles since i := by
  obtain hpassed | ⟨held, hcall, hheld⟩ := h
  · exact .inl hpassed
  · by_cases hij : i = j
    · subst hij
      refine (hself rfl).symm.imp_right fun hback => ⟨call, ?_, hback⟩
      exact List.getElem?_set_self (List.getElem?_eq_some_iff.mp hcall).1
    · refine .inr ⟨held, ?_, hheld⟩
      rw [RuntimeConfigManager.setCall, List.getElem?_set_ne (Ne.symm hij)]
      exact hcall

/-- A call that opens the file, stores the values or stores the path was not held back. -/
theorem RuntimeConfigManager.Throttles.passed (h : m.Throttles since i) (hcall : m.calls[i]? = some call)
    (hfree : ¬ call.HeldBack since) : since + reloadInterval ≤ m.now := by
  obtain hpassed | ⟨held, hsome, hheld⟩ := h
  · exact hpassed
  · rw [hcall] at hsome
    obtain rfl := Option.some.inj hsome
    exact absurd hheld hfree

/-- What the throttle does: the call returns, or the interval has passed. -/
theorem resume_throttle_cases {path : Text} {lastReload : ℤ}
    (hcall : m.calls[i]? = some (.throttle path lastReload))
    (h : (configManager lib).step m (.resume i) es m') :
    m.now - lastReload < reloadInterval ∧ m' = m.setCall i (.returned true) ∧
        es = [.returned true] ∨
      reloadInterval ≤ m.now - lastReload ∧ m' = m.setCall i (.openFile path) ∧ es = [] := by
  replace h : configStep lib m (.resume i) = some (m', es) := h
  simp only [configStep, RuntimeConfigManager.step, hcall, Option.bind_some,
    RuntimeConfigManager.resume] at h
  split at h
  · rename_i hearly
    cases h
    exact .inl ⟨hearly, rfl, rfl⟩
  · rename_i hlate
    cases h
    exact .inr ⟨not_lt.mp hlate, rfl, rfl⟩

theorem RuntimeConfigManager.Throttles.step (throttles : m.Throttles since i)
    (h : (configManager lib).step m a es m') : m'.Throttles since i := by
  have hstep := h
  cases configStep_cases h with
  | tick duration =>
      obtain hpassed | hheld := throttles
      · exact .inl (hpassed.trans (by simp))
      · exact .inr hheld
  | call | noPath | reload => exact throttles.addCall _
  | unread | throttled | storePath => exact throttles.setCall fun _ => .inl trivial
  | read hcall | storeValues hcall =>
      refine throttles.setCall ?_
      rintro rfl
      exact .inr (throttles.passed hcall id)
  | @reopened j path lastReload hcall =>
      refine throttles.setCall ?_
      rintro rfl
      obtain hpassed | ⟨held, hsome, hheld⟩ := throttles
      · exact .inr hpassed
      · rw [hcall] at hsome
        obtain rfl := Option.some.inj hsome
        replace hheld : since ≤ lastReload := hheld
        obtain ⟨-, -, hreturned⟩ | ⟨hlate, -⟩ := resume_throttle_cases hcall hstep
        · cases hreturned
        · right
          omega
  | exported => exact throttles

theorem RuntimeConfigManager.Throttles.run (throttles : m.Throttles since i)
    (run : (configManager lib).Run m as es m') : m'.Throttles since i :=
  run.preserves throttles fun _ _ _ _ throttles h => throttles.step h

/-- A reload that is called now is held back. -/
theorem throttles_of_reload (loaded : m.LoadedAt since)
    (h : (configManager lib).step m .reload es m') : m'.Throttles since m.calls.length := by
  have hlast : ∀ call : ConfigCall, (m.addCall call).calls[m.calls.length]? = some call := by
    simp [RuntimeConfigManager.addCall]
  cases configStep_cases h with
  | noPath => exact .inr ⟨_, hlast _, trivial⟩
  | reload => exact .inr ⟨_, hlast _, loaded.lastReloadTime⟩

/-- A call that is held back goes on only to return. -/
theorem returned_of_throttles (throttles : m.Throttles since i)
    (hearly : m.now - since < reloadInterval) (h : (configManager lib).step m (.resume i) es m') :
    m' = m.setCall i (.returned true) ∧ es = [.returned true] := by
  obtain hpassed | ⟨call, hcall, hheld⟩ := throttles
  · omega
  · cases call with
    | throttle path lastReload =>
        replace hheld : since ≤ lastReload := hheld
        obtain ⟨-, hreturned⟩ | ⟨hlate, -⟩ := resume_throttle_cases hcall h
        · exact hreturned
        · omega
    | returned result =>
        replace h : configStep lib m (.resume i) = some (m', es) := h
        simp [configStep, RuntimeConfigManager.step, hcall, RuntimeConfigManager.resume] at h
    | openFile | storeValues | storePath => exact hheld.elim

end Throttle

/-- A reload that is called after a load has completed does not open the file before the interval
has passed since: whatever the other calls do, its next step is to return true, which changes
nothing else. -/
theorem reload_throttles {lib : JsonLib} {m₁ m₂ m₃ m₄ m₅ : RuntimeConfigManager}
    {a : ConfigAction} {as bs : List ConfigAction} {es fs gs hs : List ConfigEvent}
    (load : (configManager lib).step m₁ a es m₂) (hloaded : ∃ path, ConfigEvent.loaded path ∈ es)
    (before : (configManager lib).Run m₂ as fs m₃)
    (reload : (configManager lib).step m₃ .reload gs m₄)
    (after : (configManager lib).Run m₄ bs hs m₅) (hearly : m₅.now - m₁.now < reloadInterval) :
    (∀ files us m, ¬ (configManager lib).step m₅ (.readFile m₃.calls.length files) us m) ∧
      ∀ us m, (configManager lib).step m₅ (.resume m₃.calls.length) us m →
        m = m₅.setCall m₃.calls.length (.returned true) ∧ us = [.returned true] := by
  have loaded := (loadedAt_of_loaded load hloaded).run before
  have throttles := (throttles_of_reload loaded reload).run after
  refine ⟨fun files us m h => ?_, fun us m h => returned_of_throttles throttles hearly h⟩
  have hopened : ∃ path, m₅.calls[m₃.calls.length]? = some (.openFile path) := by
    cases configStep_cases h with
    | read hcall => exact ⟨_, hcall⟩
    | unread hcall => exact ⟨_, hcall⟩
  obtain ⟨path, hcall⟩ := hopened
  have hpassed := throttles.passed hcall id
  omega

/-! ## A reload three seconds after a load -/

/-- A file is loaded, up to the store of the path. -/
def loadingActions : List ConfigAction :=
  [.tick 7, .loadFromFile (text "server"), .readFile 0 fun _ => .parsed (.object []), .resume 0]

def loadingManager : RuntimeConfigManager × List ConfigEvent :=
  (Machine.exec (configStep (.knowing [])) (.initial 0) loadingActions).get (by decide +kernel)

def loadedManager : RuntimeConfigManager × List ConfigEvent :=
  (configStep (.knowing []) loadingManager.1 (.resume 0)).get (by decide +kernel)

def laterManager : RuntimeConfigManager × List ConfigEvent :=
  (Machine.exec (configStep (.knowing [])) loadedManager.1 [.tick (seconds 3).toNat]).get
    (by decide +kernel)

def reloadingManager : RuntimeConfigManager × List ConfigEvent :=
  (configStep (.knowing []) laterManager.1 .reload).get (by decide +kernel)

def throttledManager : RuntimeConfigManager × List ConfigEvent :=
  (configStep (.knowing []) reloadingManager.1 (.resume 1)).get (by decide +kernel)

theorem configStep_get {lib : JsonLib} {m : RuntimeConfigManager} {a : ConfigAction}
    (h : (configStep lib m a).isSome = true) : (configManager lib).step m a
      ((configStep lib m a).get h).2 ((configStep lib m a).get h).1 :=
  (Option.some_get h).symm

theorem reload_throttles_early :
    throttledManager.1 = reloadingManager.1.setCall 1 (.returned true) ∧
      throttledManager.2 = [.returned true] := by
  have load : (configManager (.knowing [])).step loadingManager.1 (.resume 0) loadedManager.2
      loadedManager.1 := configStep_get _
  have before : (configManager (.knowing [])).Run loadedManager.1 [.tick (seconds 3).toNat]
      laterManager.2 laterManager.1 := Machine.run_get _
  have reload : (configManager (.knowing [])).step laterManager.1 .reload reloadingManager.2
      reloadingManager.1 := configStep_get _
  have early : reloadingManager.1.now - loadingManager.1.now < reloadInterval := by decide +kernel
  have hone : laterManager.1.calls.length = 1 := by decide +kernel
  have throttled : (configManager (.knowing [])).step reloadingManager.1
      (.resume laterManager.1.calls.length) throttledManager.2 throttledManager.1 := by
    rw [hone]
    exact configStep_get _
  have hreturned := (reload_throttles load ⟨text "server", by decide +kernel⟩ before reload
    (.refl _) early).2 _ _ throttled
  rwa [hone] at hreturned

end CppSim.Server
