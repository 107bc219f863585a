import CppSim.Library.Noexcept
import CppSim.Server.RuntimeConfig

/-!
# Loads that fail

A load that fails before it has stored the values changes nothing.  But the path is stored
after the values, and the line that reports the success is put together after both; where an
allocation fails there, the load returns `false` with the new values stored.
`failedLoads_iff` says exactly when a load that returns `false` leaves everything as it was.
-/

namespace CppSim.Server

open Noexcept

/-! ## Loads where memory runs out -/

/-- The expressions of a load that allocate. -/
inductive ConfigAllocation
  /-- The stream of the file. -/
  | openFile
  | openLine
  | parse
  | parseLine
  /-- The access to a field. -/
  | field (key : Text)
  | fieldsLine
  | pathAssignment
  | successLine
  | exceptionLine
  /-- The copy of the path in `reload`. -/
  | pathCopy
  deriving DecidableEq

/-- What memory a load finds. -/
structure ConfigMemory where
  /-- The allocations that fail. -/
  fails : ConfigAllocation → Bool
  /-- The capacity of `config_path_`; a path within it is stored without an allocation. -/
  pathCapacity : ℕ

/-- The fields in the order in which they are read. -/
def fieldKeys : List Text :=
  [text "max_connections", text "handshake_timeout", text "max_message_size",
    text "max_write_queue_size", text "max_messages_per_window", text "rate_limit_window",
    text "max_backoff", text "ws_idle_timeout", text "ws_read_timeout", text "max_amount",
    text "max_sequence_gap", text "security_enabled", text "metrics_enabled"]

namespace ConfigMemory

variable (memory : ConfigMemory)

/-- `load_from_json`. -/
def loadFromJson (configJson : Json) : Code RuntimeConfigManager Bool :=
  noexcept <| catching
    (do
      fieldKeys.forM fun key => allocate (memory.fails (.field key))
      match (Server.loadFromJson configJson).1 with
      | none => pure false
      | some config => do
          modify fun m => { m with config }
          pure true)
    (do
      allocate (memory.fails .fieldsLine)
      pure false)

/-- `config_path_ = path`, and the time. -/
def storePath (path : Text) : Code RuntimeConfigManager Unit := do
  allocate (decide (memory.pathCapacity < path.length) && memory.fails .pathAssignment)
  modify fun m => { m with configPath := path, lastReloadTime := m.now }

/-- `load_from_file`, with what it finds at the path. -/
def loadFromFile (path : Text) (contents : FileContents) : Code RuntimeConfigManager Bool :=
  noexcept <| catching
    (do
      allocate (memory.fails .openFile)
      match contents with
      | .missing => do
          allocate (memory.fails .openLine)
          pure false
      | .malformed _ => do
          allocate (memory.fails .parse)
          allocate (memory.fails .parseLine)
          pure false
      | .parsed configJson => do
          allocate (memory.fails .parse)
          if ← memory.loadFromJson configJson then
            memory.storePath path
            allocate (memory.fails .successLine)
            pure true
          else pure false)
    (do
      allocate (memory.fails .exceptionLine)
      pure false)

/-- `reload`, with the files as they are. -/
def reload (files : Text → FileContents) : Code RuntimeConfigManager Bool :=
  noexcept do
    let m ← get
    if m.configPath = [] then pure false
    else
      allocate (memory.fails .pathCopy)
      if m.now - m.lastReloadTime < reloadInterval then pure true
      else memory.loadFromFile m.configPath (files m.configPath)

end ConfigMemory

/-! ## The commit -/

section Loads

variable {memory : ConfigMemory} {path : Text} {contents : FileContents} {configJson : Json}
  {config : RuntimeConfig} {m : RuntimeConfigManager}

/-- The load comes to store these values. -/
structure Commits (memory : ConfigMemory) (contents : FileContents) (config : RuntimeConfig) :
    Prop where
  opens : memory.fails .openFile = false
  parses : memory.fails .parse = false
  fields : fieldKeys.any (fun key => memory.fails (.field key)) = false
  loads : ∃ configJson, contents = .parsed configJson ∧ (loadFromJson configJson).1 = some config

theorem run_loadFromJson (memory : ConfigMemory) (configJson : Json) (m : RuntimeConfigManager) :
    (memory.loadFromJson configJson).run m =
      if fieldKeys.any (fun key => memory.fails (.field key)) then
        if memory.fails .fieldsLine then .error .terminate m else .ok false m
      else (loadFromJson configJson).1.elim (.ok false m) fun config => .ok true { m with config } := by
  unfold ConfigMemory.loadFromJson
  rw [run_noexcept, run_catching, EStateM.run_bind, run_forM_allocate]
  cases fieldKeys.any (fun key => memory.fails (.field key)) with
  | true =>
      simp only [if_true, EStateM.run_bind, run_allocate]
      cases memory.fails .fieldsLine <;> rfl
  | false =>
      cases hload : (loadFromJson configJson).1 with
      | none => rfl
      | some config => rfl

/-- A load that stores no values changes nothing. -/
theorem loadFromFile_of_not_commits (path : Text) (m : RuntimeConfigManager)
    (h : ∀ config, ¬ Commits memory contents config) :
    (memory.loadFromFile path contents).run m = .ok false m ∨
      Terminates (memory.loadFromFile path contents) m := by
  -- an exception is thrown before anything was changed
  have hthrown : ∀ body : Code RuntimeConfigManager Bool, body.run m = .error .exception m →
      (noexcept (catching body do
        allocate (memory.fails .exceptionLine)
        pure false)).run m = .ok false m ∨
      Terminates (noexcept (catching body do
        allocate (memory.fails .exceptionLine)
        pure false)) m := by
    intro body hbody
    rw [Terminates, run_noexcept, run_catching, hbody]
    cases memory.fails .exceptionLine with
    | true => exact .inr ⟨m, rfl⟩
    | false => exact .inl rfl
  unfold ConfigMemory.loadFromFile
  cases hopens : memory.fails .openFile with
  | true => exact hthrown _ rfl
  | false =>
      cases contents with
      | missing =>
          cases hline : memory.fails .openLine with
          | true => exact hthrown _ rfl
          | false => exact .inl rfl
      | malformed what =>
          cases hparses : memory.fails .parse with
          | true => exact hthrown _ rfl
          | false =>
              cases hline : memory.fails .parseLine with
              | true => exact hthrown _ rfl
              | false => exact .inl rfl
      | parsed configJson =>
          cases hparses : memory.fails .parse with
          | true => exact hthrown _ rfl
          | false =>
              have hjson := run_loadFromJson memory configJson m
              cases hfields : fieldKeys.any fun key => memory.fails (.field key) with
              | true =>
                  rw [hfields, if_pos rfl] at hjson
                  cases hline : memory.fails .fieldsLine with
                  | true =>
                      rw [hline, if_pos rfl] at hjson
                      refine .inr ⟨m, ?_⟩
                      simp only [run_noexcept, run_catching, EStateM.run_bind, run_allocate, hjson,
                        Bool.false_eq_true, if_false]
                  | false =>
                      rw [hline, if_neg Bool.false_ne_true] at hjson
                      left
                      simp only [run_noexcept, run_catching, EStateM.run_bind, run_allocate, hjson,
                        Bool.false_eq_true, if_false, EStateM.run_pure]
              | false =>
                  rw [hfields, if_neg Bool.false_ne_true] at hjson
                  cases hload : (loadFromJson configJson).1 with
                  | none =>
                      rw [hload, Option.elim_none] at hjson
                      left
                      simp only [run_noexcept, run_catching, EStateM.run_bind, run_allocate, hjson,
                        Bool.false_eq_true, if_false, EStateM.run_pure]
                  | some config =>
                      exact absurd ⟨hopens, hparses, hfields, configJson, rfl, hload⟩ (h config)

/-- A load that stores values. -/
theorem loadFromFile_of_commits (path : Text) (m : RuntimeConfigManager)
    (h : Commits memory contents config) :
    (memory.loadFromFile path contents).run m =
      if decide (memory.pathCapacity < path.length) && memory.fails .pathAssignment then
        if memory.fails .exceptionLine then .error .terminate { m with config }
        else .ok false { m with config }
      else if memory.fails .successLine then
        if memory.fails .exceptionLine then
          .error .terminate { m with config, configPath := path, lastReloadTime := m.now }
        else .ok false { m with config, configPath := path, lastReloadTime := m.now }
      else .ok true { m with config, configPath := path, lastReloadTime := m.now } := by
  obtain ⟨hopens, hparses, hfields, configJson, rfl, hload⟩ := h
  have hjson : (memory.loadFromJson configJson).run m = .ok true { m with config } := by
    rw [run_loadFromJson, hfields, hload]
    rfl
  unfold ConfigMemory.loadFromFile ConfigMemory.storePath
  simp only [run_noexcept, run_catching, EStateM.run_bind, run_allocate, hopens, hparses, hjson,
    Bool.false_eq_true, if_false, if_true]
  cases decide (memory.pathCapacity < path.length) && memory.fails .pathAssignment <;>
    cases memory.fails .successLine <;> cases memory.fails .exceptionLine <;> rfl

end Loads

/-! ## Loads that return `false` -/

/-- The values, the path and the time are those of before. -/
structure Unchanged (m m' : RuntimeConfigManager) : Prop where
  config : m'.config = m.config
  configPath : m'.configPath = m.configPath
  lastReloadTime : m'.lastReloadTime = m.lastReloadTime

/-- A call that loads. -/
inductive ConfigLoad
  | loadFromFile (path : Text)
  | reload

/-- The call, with the files as they are. -/
def ConfigLoad.code (memory : ConfigMemory) (files : Text → FileContents) :
    ConfigLoad → Code RuntimeConfigManager Bool
  | .loadFromFile path => memory.loadFromFile path (files path)
  | .reload => memory.reload files

/-- The path that the call loads from, if it comes to that. -/
def ConfigLoad.path? (memory : ConfigMemory) (m : RuntimeConfigManager) : ConfigLoad → Option Text
  | .loadFromFile path => some path
  | .reload =>
      if m.configPath = [] ∨ memory.fails .pathCopy ∨ m.now - m.lastReloadTime < reloadInterval then
        none
      else some m.configPath

/-- After the values of the file are stored, storing the path fails, or putting together the
line that reports the success; and what was stored until then is new. -/
def FailsAfterCommit (memory : ConfigMemory) (path : Text) (config : RuntimeConfig)
    (m : RuntimeConfigManager) : Prop :=
  if memory.pathCapacity < path.length ∧ memory.fails .pathAssignment = true then config ≠ m.config
  else memory.fails .successLine = true ∧
    ¬ (config = m.config ∧ path = m.configPath ∧ m.now = m.lastReloadTime)

section Calls

variable {memory : ConfigMemory} {files : Text → FileContents} {path : Text}
  {contents : FileContents} {config : RuntimeConfig} {m m' : RuntimeConfigManager}

theorem unchanged_refl (m : RuntimeConfigManager) : Unchanged m m := ⟨rfl, rfl, rfl⟩

/-- A load that stored its values and returned `false` failed after the commit or stored nothing
new. -/
theorem unchanged_of_commits (hcommits : Commits memory contents config)
    (hfails : FailsAfterCommit memory path config m → memory.fails .exceptionLine = true)
    (hrun : (memory.loadFromFile path contents).run m = .ok false m') : Unchanged m m' := by
  rw [loadFromFile_of_commits _ _ hcommits] at hrun
  unfold FailsAfterCommit at hfails
  cases hpath : decide (memory.pathCapacity < path.length) && memory.fails .pathAssignment with
  | true =>
      rw [hpath, if_pos rfl] at hrun
      rw [if_pos (by simpa using hpath)] at hfails
      cases hline : memory.fails .exceptionLine with
      | true =>
          rw [hline, if_pos rfl] at hrun
          cases hrun
      | false =>
          rw [hline, if_neg Bool.false_ne_true] at hrun
          have hsame : config = m.config := by
            by_contra hnew
            exact Bool.false_ne_true (hline.symm.trans (hfails hnew))
          cases hrun
          exact ⟨hsame, rfl, rfl⟩
  | false =>
      rw [hpath, if_neg Bool.false_ne_true] at hrun
      rw [if_neg (by simpa using hpath)] at hfails
      cases hsuccess : memory.fails .successLine with
      | false =>
          rw [hsuccess, if_neg Bool.false_ne_true] at hrun
          cases hrun
      | true =>
          rw [hsuccess, if_pos rfl] at hrun
          cases hline : memory.fails .exceptionLine with
          | true =>
              rw [hline, if_pos rfl] at hrun
              cases hrun
          | false =>
              rw [hline, if_neg Bool.false_ne_true] at hrun
              obtain ⟨hconfig, hsame, htime⟩ : config = m.config ∧ path = m.configPath ∧
                  m.now = m.lastReloadTime := by
                by_contra hnew
                exact Bool.false_ne_true (hline.symm.trans (hfails ⟨hsuccess, hnew⟩))
              cases hrun
              exact ⟨hconfig, hsame, htime⟩

/-- A load that fails after the commit returns `false` where something has changed, or ends the
program. -/
theorem terminates_of_unchanged (hcommits : Commits memory contents config)
    (hfails : FailsAfterCommit memory path config m)
    (hkept : ∀ m', (memory.loadFromFile path contents).run m = .ok false m' → Unchanged m m') :
    memory.fails .exceptionLine = true := by
  by_contra hline
  rw [Bool.not_eq_true] at hline
  have hrun := loadFromFile_of_commits path m hcommits
  unfold FailsAfterCommit at hfails
  rw [hline] at hrun
  split at hfails
  · rename_i hpath
    rw [if_pos (by simpa using hpath), if_neg Bool.false_ne_true] at hrun
    exact hfails (hkept _ hrun).config
  · rename_i hpath
    rw [if_neg (by simpa using hpath), hfails.1, if_pos rfl, if_neg Bool.false_ne_true] at hrun
    have hsame := hkept _ hrun
    exact hfails.2 ⟨hsame.config, hsame.configPath, hsame.lastReloadTime⟩

theorem failedLoadFromFile_iff :
    (∀ m', (memory.loadFromFile path contents).run m = .ok false m' → Unchanged m m') ↔
      ∀ config, Commits memory contents config → FailsAfterCommit memory path config m →
        memory.fails .exceptionLine = true := by
  constructor
  · intro hkept config hcommits hfails
    exact terminates_of_unchanged hcommits hfails hkept
  · intro hcond m' hrun
    by_cases hcommits : ∃ config, Commits memory contents config
    · obtain ⟨config, hcommits⟩ := hcommits
      exact unchanged_of_commits hcommits (hcond config hcommits) hrun
    · rcases loadFromFile_of_not_commits path m
        (fun config h => hcommits ⟨config, h⟩) with hfailed | ⟨t, hterminated⟩
      · rw [hfailed] at hrun
        cases hrun
        exact unchanged_refl m
      · rw [hterminated] at hrun
        cases hrun

theorem run_reload :
    (memory.reload files).run m =
      if m.configPath = [] then .ok false m
      else if memory.fails .pathCopy then .error .terminate m
      else if m.now - m.lastReloadTime < reloadInterval then .ok true m
      else (memory.loadFromFile m.configPath (files m.configPath)).run m := by
  unfold ConfigMemory.reload
  rw [run_noexcept, EStateM.run_bind, EStateM.run_get]
  dsimp only
  by_cases hempty : m.configPath = []
  · rw [if_pos hempty, if_pos hempty]
    rfl
  · rw [if_neg hempty, if_neg hempty, EStateM.run_bind, run_allocate]
    cases memory.fails .pathCopy with
    | true => rfl
    | false =>
        by_cases hearly : m.now - m.lastReloadTime < reloadInterval
        · simp only [Bool.false_eq_true, if_false, if_pos hearly, EStateM.run_pure]
        · simp only [Bool.false_eq_true, if_false, if_neg hearly]
          exact noexcept_of_not_escapes not_escapes_noexcept

theorem failedReload_iff :
    (∀ m', (memory.reload files).run m = .ok false m' → Unchanged m m') ↔
      ∀ path ∈ ConfigLoad.reload.path? memory m, ∀ config, Commits memory (files path) config →
        FailsAfterCommit memory path config m → memory.fails .exceptionLine = true := by
  rw [run_reload, ConfigLoad.path?]
  by_cases hempty : m.configPath = []
  · rw [if_pos hempty, if_pos (.inl hempty)]
    refine iff_of_true (fun m' hrun => ?_) nofun
    cases hrun
    exact unchanged_refl m
  · cases hcopy : memory.fails .pathCopy with
    | true =>
        rw [if_neg hempty, if_pos rfl, if_pos (.inr (.inl rfl))]
        exact iff_of_true nofun nofun
    | false =>
        by_cases hearly : m.now - m.lastReloadTime < reloadInterval
        · rw [if_neg hempty, if_neg Bool.false_ne_true, if_pos hearly, if_pos (.inr (.inr hearly))]
          exact iff_of_true nofun nofun
        · rw [if_neg hempty, if_neg Bool.false_ne_true, if_neg hearly,
            if_neg (by simp [hempty, hearly]), failedLoadFromFile_iff]
          simp only [Option.mem_def, Option.some.injEq, forall_eq']

end Calls

/-- A call that returns `false` leaves everything as it was, unless an allocation fails after the
values were stored and the line about the exception can be put together. -/
theorem failedLoads_iff (memory : ConfigMemory) (files : Text → FileContents) (load : ConfigLoad)
    (m : RuntimeConfigManager) :
    (∀ m', (load.code memory files).run m = .ok false m' → Unchanged m m') ↔
      ∀ path ∈ load.path? memory m, ∀ config, Commits memory (files path) config →
        FailsAfterCommit memory path config m → memory.fails .exceptionLine = true := by
  cases load with
  | loadFromFile path =>
      rw [ConfigLoad.code, failedLoadFromFile_iff]
      simp only [ConfigLoad.path?, Option.mem_def, Option.some.injEq, forall_eq']
  | reload => exact failedReload_iff

/-- Memory in which the first path beyond 15 bytes cannot be stored. -/
def noRoomForPath : ConfigMemory where
  fails a := decide (a = .pathAssignment)
  pathCapacity := 15

/-- The values of the file are stored by a load that returns `false`. -/
theorem not_failedLoads :
    ¬ ∀ (memory : ConfigMemory) (files : Text → FileContents) (load : ConfigLoad)
      (m m' : RuntimeConfigManager), (load.code memory files).run m = .ok false m' →
        Unchanged m m' := by
  intro hall
  have hcommits : Commits noRoomForPath (.parsed twoConnections)
      { RuntimeConfig.initial with maxConnections := 2 } :=
    ⟨rfl, rfl, rfl, twoConnections, rfl, by decide +kernel⟩
  have hrun := loadFromFile_of_commits (text "configuration.json") (.initial 0)
    hcommits
  have hkept := hall noRoomForPath (fun _ => .parsed twoConnections)
    (.loadFromFile (text "configuration.json")) (.initial 0) _ hrun
  exact absurd hkept.config (by decide +kernel)

end CppSim.Server
