import CppSim.Common.Reread
import CppSim.Library.Machine
import CppSim.Server.Session.State

/-!
# The runtime configuration

`runtime_config_manager` holds twelve values that a file may replace while the server
runs.  The loader overlays the defaults with what the file has: a number that is absent
or not a number is left at its default, and so is one out of its range, which is logged.
A `Setting` is such a number with its key, its range and its default, and all ten
numbers are loaded by `Setting.load`.

The methods of the manager may be called by any thread.  A load takes the mutex to store
the values and takes it again to store the path; a reload takes it a third time, before
them, to read the path.  Everything else is done outside the lock, so a call in progress
is a `ConfigCall`: where it stands between two accesses to the manager.  The machine
`configManager` interleaves the calls, and reads whatever a file happens to contain.

* `configRoundTrip`: every configuration that is reached lies in the ranges of the
  loader, its write queue holds the messages of a window, and what is exported of it is
  loaded back as it is;
* `coherentLoads`: the values are those of the file at the stored path once all calls
  have returned, in a run in which a load that stores its path finds the values it stored.
-/

namespace CppSim.Server

/-! ## The values -/

@[ext]
structure RuntimeConfig where
  maxConnections : Int32
  /-- Durations are in seconds. -/
  handshakeTimeout : Int64
  maxMessageSize : UInt64
  maxWriteQueueSize : UInt64
  maxMessagesPerWindow : UInt64
  rateLimitWindow : Int64
  maxBackoff : Int64
  wsIdleTimeout : Int64
  /-- In cents. -/
  maxAmount : Int64
  maxSequenceGap : Int64
  securityEnabled : Bool
  metricsEnabled : Bool
  deriving DecidableEq

/-- The member initializers of the manager. -/
def RuntimeConfig.initial : RuntimeConfig where
  maxConnections := 1000
  handshakeTimeout := 10
  maxMessageSize := 64 * 1024
  maxWriteQueueSize := 100
  maxMessagesPerWindow := 10
  rateLimitWindow := 1
  maxBackoff := 30
  wsIdleTimeout := 24 * 3600
  maxAmount := 1000000000000000
  maxSequenceGap := 10000
  securityEnabled := true
  metricsEnabled := true

/-! ## Loading one number -/

/-- A number of the configuration: how a file spells it, what the loader takes, and
what it falls back to.  The default is itself in the range, and a number in the range
that was exported is read as the same number again. -/
structure Setting (T : Type) [LE T] where
  key : Text
  get : Json → Except Exn T
  toJson : T → Json
  least : T
  greatest : T
  default : T
  default_inRange : least ≤ default ∧ default ≤ greatest
  reads : ∀ value, (toJson value).reread.isNumber = true ∧
    get (toJson value).reread = .ok value
  numbers_only : ∀ value, (toJson value).StringsUtf8

namespace Setting

section Load

variable {T : Type} [LE T] [DecidableLE T]

/-- The range of a number. -/
def InRange (setting : Setting T) (value : T) : Prop :=
  setting.least ≤ value ∧ value ≤ setting.greatest

instance (setting : Setting T) (value : T) : Decidable (setting.InRange value) :=
  inferInstanceAs (Decidable (_ ∧ _))

/-- The number under the key of the setting: `contains`, `is_number` and `get`, which
does not throw on a number. -/
def number? (setting : Setting T) (j : Json) : Option T :=
  match j.field? setting.key with
  | some value => if value.isNumber then (setting.get value).toOption else none
  | none => none

/-- The value of the setting after a file was read. -/
def load (setting : Setting T) (j : Json) : T :=
  match setting.number? j with
  | some value => if setting.InRange value then value else setting.default
  | none => setting.default

/-- The line logged when the number of the file is out of range. -/
def log (setting : Setting T) (j : Json) : List LogLine :=
  match setting.number? j with
  | some value =>
      if setting.InRange value then []
      else [.error (text "[RuntimeConfig] Invalid " ++ setting.key ++ text ", using default")]
  | none => []

theorem load_inRange (setting : Setting T) (j : Json) : setting.InRange (setting.load j) := by
  unfold load
  split
  · split
    · assumption
    · exact setting.default_inRange
  · exact setting.default_inRange

/-- A number in the range that was exported is loaded as it was. -/
theorem load_reread (setting : Setting T) {j : Json} {value : T} (hrange : setting.InRange value)
    (hfield : j.field? setting.key = some (setting.toJson value)) :
    setting.load j.reread = value := by
  have hnumber : setting.number? j.reread = some value := by
    simp only [number?, Json.field?_reread, hfield, Option.map_some, (setting.reads value).1,
      if_true, (setting.reads value).2]
    rfl
  simp only [load, hnumber, if_pos hrange]

end Load

/-- `static_cast<int>` of `get<int64_t>`. -/
def getInt (j : Json) : Except Exn Int32 := j.getInt64.map Int64.toInt32

theorem reads_int (value : Int32) :
    (Json.integer value.toInt64).reread.isNumber = true ∧
      getInt (Json.integer value.toInt64).reread = .ok value := by
  refine ⟨Json.isNumber_reread_integer _, ?_⟩
  rw [getInt, Json.getInt64_reread_integer]
  exact congrArg Except.ok (Int32.toInt32_toInt64 value)

theorem reads_int64 (value : Int64) :
    (Json.integer value).reread.isNumber = true ∧
      (Json.integer value).reread.getInt64 = .ok value :=
  ⟨Json.isNumber_reread_integer value, Json.getInt64_reread_integer value⟩

/-- A setting of type `int64_t`, or a number of seconds. -/
def int64 (key : String) (least greatest default : Int64)
    (hdefault : least ≤ default ∧ default ≤ greatest) : Setting Int64 where
  key := text key
  get := Json.getInt64
  toJson := .integer
  least := least
  greatest := greatest
  default := default
  default_inRange := hdefault
  reads := reads_int64
  numbers_only := .integer

/-- A setting of type `size_t`. -/
def size (key : String) (least greatest default : UInt64)
    (hdefault : least ≤ default ∧ default ≤ greatest) : Setting UInt64 where
  key := text key
  get := Json.getSize
  toJson := .unsigned
  least := least
  greatest := greatest
  default := default
  default_inRange := hdefault
  reads _ := ⟨rfl, rfl⟩
  numbers_only := .unsigned

def maxConnections : Setting Int32 where
  key := text "max_connections"
  get := getInt
  toJson value := .integer value.toInt64
  least := 1
  greatest := 10000
  default := Int32.ofNat Config.maxConnections
  default_inRange := by decide
  reads := reads_int
  numbers_only value := .integer value.toInt64

def handshakeTimeout : Setting Int64 :=
  int64 "handshake_timeout" 1 300 Config.handshakeTimeout (by decide)

def maxMessageSize : Setting UInt64 :=
  size "max_message_size" 1024 (1024 * 1024) Config.maxMessageSize (by decide)

def maxWriteQueueSize : Setting UInt64 :=
  size "max_write_queue_size" 10 1000 (UInt64.ofNat Config.maxWriteQueueSize) (by decide)

def maxMessagesPerWindow : Setting UInt64 :=
  size "max_messages_per_window" 1 1000 Config.maxMessagesPerWindow (by decide)

def rateLimitWindow : Setting Int64 :=
  int64 "rate_limit_window" 1 60 Config.rateLimitWindow (by decide)

def maxBackoff : Setting Int64 :=
  int64 "max_backoff" 1 300 (Int64.ofNat Config.maxBackoff) (by decide)

def wsIdleTimeout : Setting Int64 :=
  int64 "ws_idle_timeout" 1 (48 * 3600) Config.wsIdleTimeout (by decide)

def maxAmount : Setting Int64 :=
  int64 "max_amount" 1000 Protocol.maxAmount Protocol.maxAmount (by decide)

def maxSequenceGap : Setting Int64 :=
  int64 "max_sequence_gap" 100 100000 Config.maxSequenceGap (by decide)

end Setting

/-- A switch of the configuration, which is on unless the file has a boolean. -/
def loadSwitch (key : Text) (j : Json) : Bool :=
  match j.field? key with
  | some (.boolean value) => value
  | _ => true

theorem loadSwitch_reread {j : Json} {key : Text} {value : Bool}
    (hfield : j.field? key = some (.boolean value)) : loadSwitch key j.reread = value := by
  rw [loadSwitch, Json.field?_reread, hfield]
  rfl

/-! ## Loading a file -/

/-- The values of a file over the defaults. -/
@[simps]
def overlay (j : Json) : RuntimeConfig where
  maxConnections := Setting.maxConnections.load j
  handshakeTimeout := Setting.handshakeTimeout.load j
  maxMessageSize := Setting.maxMessageSize.load j
  maxWriteQueueSize := Setting.maxWriteQueueSize.load j
  maxMessagesPerWindow := Setting.maxMessagesPerWindow.load j
  rateLimitWindow := Setting.rateLimitWindow.load j
  maxBackoff := Setting.maxBackoff.load j
  wsIdleTimeout := Setting.wsIdleTimeout.load j
  maxAmount := Setting.maxAmount.load j
  maxSequenceGap := Setting.maxSequenceGap.load j
  securityEnabled := loadSwitch (text "security_enabled") j
  metricsEnabled := loadSwitch (text "metrics_enabled") j

/-- The line logged for a field that is no longer read. -/
def deprecatedLog (j : Json) : List LogLine :=
  match j.field? (text "ws_read_timeout") with
  | some value =>
      if value.isNumber then
        [.message (text "[RuntimeConfig] ws_read_timeout is deprecated — use ws_idle_timeout instead")]
      else []
  | none => []

/-- The lines logged while a file is read. -/
def overlayLog (j : Json) : List LogLine :=
  Setting.maxConnections.log j ++ Setting.handshakeTimeout.log j ++
    Setting.maxMessageSize.log j ++ Setting.maxWriteQueueSize.log j ++
    Setting.maxMessagesPerWindow.log j ++ Setting.rateLimitWindow.log j ++
    Setting.maxBackoff.log j ++ Setting.wsIdleTimeout.log j ++ deprecatedLog j ++
    Setting.maxAmount.log j ++ Setting.maxSequenceGap.log j

/-- `load_from_json`, up to its critical section: the values to store, unless the write
queue is shorter than a window, and what is logged. -/
def loadFromJson (configJson : Json) : Option RuntimeConfig × List LogLine :=
  let config := overlay configJson
  if config.maxWriteQueueSize < config.maxMessagesPerWindow then
    (none, overlayLog configJson ++ [.error
      (text "[RuntimeConfig] max_write_queue_size must be >= max_messages_per_window")])
  else (some config, overlayLog configJson)

/-- What the loader promises of the values it stores. -/
structure RuntimeConfig.Valid (config : RuntimeConfig) : Prop where
  maxConnections : Setting.maxConnections.InRange config.maxConnections
  handshakeTimeout : Setting.handshakeTimeout.InRange config.handshakeTimeout
  maxMessageSize : Setting.maxMessageSize.InRange config.maxMessageSize
  maxWriteQueueSize : Setting.maxWriteQueueSize.InRange config.maxWriteQueueSize
  maxMessagesPerWindow : Setting.maxMessagesPerWindow.InRange config.maxMessagesPerWindow
  rateLimitWindow : Setting.rateLimitWindow.InRange config.rateLimitWindow
  maxBackoff : Setting.maxBackoff.InRange config.maxBackoff
  wsIdleTimeout : Setting.wsIdleTimeout.InRange config.wsIdleTimeout
  maxAmount : Setting.maxAmount.InRange config.maxAmount
  maxSequenceGap : Setting.maxSequenceGap.InRange config.maxSequenceGap
  window_le_queue : config.maxMessagesPerWindow ≤ config.maxWriteQueueSize

theorem valid_of_loadFromJson {j : Json} {config : RuntimeConfig}
    (h : (loadFromJson j).1 = some config) : config.Valid := by
  simp only [loadFromJson] at h
  split at h
  · cases h
  · rename_i hwindow
    obtain rfl : overlay j = config := Option.some.inj h
    constructor
    case window_le_queue => exact UInt64.not_lt.mp hwindow
    all_goals exact Setting.load_inRange _ j

theorem valid_initial : RuntimeConfig.initial.Valid :=
  valid_of_loadFromJson (j := .null) rfl

/-! ## Exporting -/

/-- The fields `export_to_json` writes, with a reading of the system clock. -/
def exportFields (config : RuntimeConfig) (configPath : Text) (systemTime : Int64) :
    List (Text × Json) :=
  [(text "max_connections", Setting.maxConnections.toJson config.maxConnections),
    (text "handshake_timeout", Setting.handshakeTimeout.toJson config.handshakeTimeout),
    (text "max_message_size", Setting.maxMessageSize.toJson config.maxMessageSize),
    (text "max_write_queue_size", Setting.maxWriteQueueSize.toJson config.maxWriteQueueSize),
    (text "max_messages_per_window",
      Setting.maxMessagesPerWindow.toJson config.maxMessagesPerWindow),
    (text "rate_limit_window", Setting.rateLimitWindow.toJson config.rateLimitWindow),
    (text "max_backoff", Setting.maxBackoff.toJson config.maxBackoff),
    (text "ws_idle_timeout", Setting.wsIdleTimeout.toJson config.wsIdleTimeout),
    (text "max_amount", Setting.maxAmount.toJson config.maxAmount),
    (text "max_sequence_gap", Setting.maxSequenceGap.toJson config.maxSequenceGap),
    (text "security_enabled", .boolean config.securityEnabled),
    (text "metrics_enabled", .boolean config.metricsEnabled),
    (text "config_path", .string configPath),
    (text "last_reload_time", .integer systemTime)]

/-- The document `export_to_json` prints. -/
def exportJson (config : RuntimeConfig) (configPath : Text) (systemTime : Int64) : Json :=
  .ofFields (exportFields config configPath systemTime)

section Export

variable {config : RuntimeConfig} {configPath : Text} {systemTime : Int64}

theorem stringsUtf8_exportJson (hpath : IsUtf8 configPath) :
    (exportJson config configPath systemTime).StringsUtf8 := by
  apply Json.stringsUtf8_ofFields
  intro entry hentry
  simp only [exportFields, List.mem_cons, List.not_mem_nil, or_false] at hentry
  rcases hentry with rfl | rfl | rfl | rfl | rfl | rfl | rfl | rfl | rfl | rfl | rfl | rfl | rfl | rfl
  case inr.inr.inr.inr.inr.inr.inr.inr.inr.inr.inr.inr.inl =>
    exact ⟨isUtf8_text _, .string hpath⟩
  all_goals refine ⟨isUtf8_text _, ?_⟩
  all_goals first
    | exact Setting.numbers_only _ _
    | constructor

/-- Every field that is exported can be looked up. -/
theorem field?_exportJson {key : Text} {value : Json}
    (hmem : (key, value) ∈ exportFields config configPath systemTime) :
    (exportJson config configPath systemTime).field? key = some value := by
  apply Json.field?_ofFields_of_mem _ hmem
  simp [exportFields]

/-- What is exported of a configuration in range is loaded back as it is. -/
theorem overlay_exportJson (hvalid : config.Valid) :
    overlay (exportJson config configPath systemTime).reread = config := by
  apply RuntimeConfig.ext
  case maxConnections =>
    rw [overlay_maxConnections]
    apply Setting.load_reread _ hvalid.maxConnections (field?_exportJson _)
    simp [exportFields, Setting.maxConnections]
  case handshakeTimeout =>
    rw [overlay_handshakeTimeout]
    apply Setting.load_reread _ hvalid.handshakeTimeout (field?_exportJson _)
    simp [exportFields, Setting.handshakeTimeout, Setting.int64]
  case maxMessageSize =>
    rw [overlay_maxMessageSize]
    apply Setting.load_reread _ hvalid.maxMessageSize (field?_exportJson _)
    simp [exportFields, Setting.maxMessageSize, Setting.size]
  case maxWriteQueueSize =>
    rw [overlay_maxWriteQueueSize]
    apply Setting.load_reread _ hvalid.maxWriteQueueSize (field?_exportJson _)
    simp [exportFields, Setting.maxWriteQueueSize, Setting.size]
  case maxMessagesPerWindow =>
    rw [overlay_maxMessagesPerWindow]
    apply Setting.load_reread _ hvalid.maxMessagesPerWindow (field?_exportJson _)
    simp [exportFields, Setting.maxMessagesPerWindow, Setting.size]
  case rateLimitWindow =>
    rw [overlay_rateLimitWindow]
    apply Setting.load_reread _ hvalid.rateLimitWindow (field?_exportJson _)
    simp [exportFields, Setting.rateLimitWindow, Setting.int64]
  case maxBackoff =>
    rw [overlay_maxBackoff]
    apply Setting.load_reread _ hvalid.maxBackoff (field?_exportJson _)
    simp [exportFields, Setting.maxBackoff, Setting.int64]
  case wsIdleTimeout =>
    rw [overlay_wsIdleTimeout]
    apply Setting.load_reread _ hvalid.wsIdleTimeout (field?_exportJson _)
    simp [exportFields, Setting.wsIdleTimeout, Setting.int64]
  case maxAmount =>
    rw [overlay_maxAmount]
    apply Setting.load_reread _ hvalid.maxAmount (field?_exportJson _)
    simp [exportFields, Setting.maxAmount, Setting.int64]
  case maxSequenceGap =>
    rw [overlay_maxSequenceGap]
    apply Setting.load_reread _ hvalid.maxSequenceGap (field?_exportJson _)
    simp [exportFields, Setting.maxSequenceGap, Setting.int64]
  case securityEnabled =>
    rw [overlay_securityEnabled]
    apply loadSwitch_reread (field?_exportJson _)
    simp [exportFields]
  case metricsEnabled =>
    rw [overlay_metricsEnabled]
    apply loadSwitch_reread (field?_exportJson _)
    simp [exportFields]

end Export

/-! ## The manager -/

/-- What `load_from_file` finds at a path. -/
inductive FileContents
  | missing
  | malformed (what : Text)
  | parsed (configJson : Json)

/-- `load_from_file`, before its critical sections: the values to store, and what is
logged. -/
def readFile (path : Text) : FileContents → Option RuntimeConfig × List LogLine
  | .missing => (none, [.error (text "[RuntimeConfig] Failed to open config file: " ++ path)])
  | .malformed what => (none, [.error (text "[RuntimeConfig] JSON parse error: " ++ what)])
  | .parsed configJson => loadFromJson configJson

/-- The values that the file at a path holds, if it can be loaded. -/
def configAt (files : Text → FileContents) (path : Text) : Option RuntimeConfig :=
  (readFile path (files path)).1

theorem valid_of_configAt {files : Text → FileContents} {path : Text} {config : RuntimeConfig}
    (h : configAt files path = some config) : config.Valid := by
  unfold configAt at h
  cases hcontents : files path with
  | missing => rw [hcontents] at h; cases h
  | malformed what => rw [hcontents] at h; cases h
  | parsed configJson =>
      rw [hcontents] at h
      exact valid_of_loadFromJson h

/-- Where a call of `load_from_file` or `reload` stands. -/
inductive ConfigCall
  /-- `reload`: the path and the time were read, the clock is next. -/
  | throttle (path : Text) (lastReload : ℤ)
  | openFile (path : Text)
  | storeValues (path : Text) (config : RuntimeConfig)
  /-- The values that were stored are kept for the reader of the model only. -/
  | storePath (path : Text) (config : RuntimeConfig)
  | returned (result : Bool)
  deriving DecidableEq

/-- `runtime_config_manager`, with the steady clock and the calls made so far. -/
structure RuntimeConfigManager where
  config : RuntimeConfig
  configPath : Text
  lastReloadTime : ℤ
  now : ℤ
  calls : List ConfigCall
  deriving DecidableEq

/-- `reload_interval_`. -/
def reloadInterval : ℤ := seconds 5

inductive ConfigAction
  | tick (duration : ℕ)
  | loadFromFile (path : Text)
  /-- `reload`, with its critical section. -/
  | reload
  /-- The call at an index opens and parses its file, with the files as they are then. -/
  | readFile (i : ℕ) (files : Text → FileContents)
  /-- The call at an index goes on otherwise. -/
  | resume (i : ℕ)
  | exportToJson (systemTime : Int64)

inductive ConfigEvent
  /-- A load has stored its values and its path. -/
  | loaded (path : Text)
  | returned (result : Bool)
  | exported (configJson : Text)
  deriving DecidableEq

/-- What a step leads to. -/
structure ConfigReaction where
  next : RuntimeConfigManager
  events : List ConfigEvent
  log : List LogLine

namespace RuntimeConfigManager

/-- The singleton when it is first asked for. -/
def initial (now : ℤ) : RuntimeConfigManager where
  config := .initial
  configPath := []
  lastReloadTime := 0
  now := now
  calls := []

def addCall (m : RuntimeConfigManager) (call : ConfigCall) : RuntimeConfigManager :=
  { m with calls := m.calls ++ [call] }

def setCall (m : RuntimeConfigManager) (i : ℕ) (call : ConfigCall) : RuntimeConfigManager :=
  { m with calls := m.calls.set i call }

/-- `export_to_json`, where `dump` is the one of `lib` with an indentation of 2. -/
def exportToJson (lib : JsonLib) (m : RuntimeConfigManager) (systemTime : Int64) :
    Text × List LogLine :=
  match lib.dump (exportJson m.config m.configPath systemTime) with
  | .ok configJson => (configJson, [])
  | .error what =>
      (text "\x7b\x7d", [.error (text "[RuntimeConfig] Exception exporting JSON: " ++ what)])

/-- `reload`, up to the end of its critical section. -/
def reload (m : RuntimeConfigManager) : ConfigReaction :=
  if m.configPath = [] then
    ⟨m.addCall (.returned false), [.returned false],
      [.error (text "[RuntimeConfig] No config file loaded for reload")]⟩
  else ⟨m.addCall (.throttle m.configPath m.lastReloadTime), [], []⟩

/-- `load_from_file`, from the opening of the file to the critical section. -/
def openFile (m : RuntimeConfigManager) (i : ℕ) (path : Text) (contents : FileContents) :
    ConfigReaction :=
  match readFile path contents with
  | (some config, log) => ⟨m.setCall i (.storeValues path config), [], log⟩
  | (none, log) => ⟨m.setCall i (.returned false), [.returned false], log⟩

/-- The next step of a call that does not read a file. -/
def resume (m : RuntimeConfigManager) (i : ℕ) : ConfigCall → Option ConfigReaction
  | .throttle path lastReload =>
      if m.now - lastReload < reloadInterval then
        some ⟨m.setCall i (.returned true), [.returned true], []⟩
      else some ⟨m.setCall i (.openFile path), [], []⟩
  | .storeValues path config =>
      some ⟨{ m.setCall i (.storePath path config) with config }, [], []⟩
  | .storePath path _ =>
      some ⟨{ m.setCall i (.returned true) with configPath := path, lastReloadTime := m.now },
        [.loaded path, .returned true],
        [.message (text "[RuntimeConfig] Successfully loaded configuration from: " ++ path)]⟩
  | .openFile _ | .returned _ => none

/-- One step of the manager. -/
def step (lib : JsonLib) (m : RuntimeConfigManager) : ConfigAction → Option ConfigReaction
  | .tick duration => some ⟨{ m with now := m.now + duration }, [], []⟩
  | .loadFromFile path => some ⟨m.addCall (.openFile path), [], []⟩
  | .reload => some m.reload
  | .readFile i files =>
      match m.calls[i]? with
      | some (.openFile path) => some (m.openFile i path (files path))
      | _ => none
  | .resume i => m.calls[i]?.bind (m.resume i)
  | .exportToJson systemTime =>
      some ⟨m, [.exported (m.exportToJson lib systemTime).1], (m.exportToJson lib systemTime).2⟩

end RuntimeConfigManager

/-- The step of the manager as the machine sees it, without its log. -/
def configStep (lib : JsonLib) (m : RuntimeConfigManager) (a : ConfigAction) :
    Option (RuntimeConfigManager × List ConfigEvent) :=
  (m.step lib a).map fun r => (r.next, r.events)

/-- The machine of the manager. -/
def configManager (lib : JsonLib) : Machine RuntimeConfigManager ConfigAction ConfigEvent :=
  Machine.ofStep (configStep lib)

/-! ## What a step does -/

/-- The branches of a step, with the conditions of those that change what is stored. -/
inductive ConfigStep (m : RuntimeConfigManager) :
    ConfigAction → List ConfigEvent → RuntimeConfigManager → Prop
  | tick (duration : ℕ) : ConfigStep m (.tick duration) [] { m with now := m.now + duration }
  | call (path : Text) : ConfigStep m (.loadFromFile path) [] (m.addCall (.openFile path))
  | noPath : ConfigStep m .reload [.returned false] (m.addCall (.returned false))
  | reload : ConfigStep m .reload [] (m.addCall (.throttle m.configPath m.lastReloadTime))
  | read {i : ℕ} {path : Text} {files : Text → FileContents} {config : RuntimeConfig}
      (hcall : m.calls[i]? = some (.openFile path)) (hread : configAt files path = some config) :
      ConfigStep m (.readFile i files) [] (m.setCall i (.storeValues path config))
  | unread {i : ℕ} {path : Text} {files : Text → FileContents}
      (hcall : m.calls[i]? = some (.openFile path)) :
      ConfigStep m (.readFile i files) [.returned false] (m.setCall i (.returned false))
  | throttled {i : ℕ} {path : Text} {lastReload : ℤ}
      (hcall : m.calls[i]? = some (.throttle path lastReload)) :
      ConfigStep m (.resume i) [.returned true] (m.setCall i (.returned true))
  | reopened {i : ℕ} {path : Text} {lastReload : ℤ}
      (hcall : m.calls[i]? = some (.throttle path lastReload)) :
      ConfigStep m (.resume i) [] (m.setCall i (.openFile path))
  | storeValues {i : ℕ} {path : Text} {config : RuntimeConfig}
      (hcall : m.calls[i]? = some (.storeValues path config)) :
      ConfigStep m (.resume i) [] { m.setCall i (.storePath path config) with config }
  | storePath {i : ℕ} {path : Text} {config : RuntimeConfig}
      (hcall : m.calls[i]? = some (.storePath path config)) :
      ConfigStep m (.resume i) [.loaded path, .returned true]
        { m.setCall i (.returned true) with configPath := path, lastReloadTime := m.now }
  | exported (systemTime : Int64) (configJson : Text) :
      ConfigStep m (.exportToJson systemTime) [.exported configJson] m

theorem configStep_cases {lib : JsonLib} {m m' : RuntimeConfigManager} {a : ConfigAction}
    {es : List ConfigEvent} (h : (configManager lib).step m a es m') : ConfigStep m a es m' := by
  obtain ⟨r, hstep, hr⟩ := Option.map_eq_some_iff.mp h
  obtain ⟨rfl, rfl⟩ := Prod.mk.inj hr
  cases a with
  | tick duration =>
      cases hstep
      exact .tick duration
  | loadFromFile path =>
      cases hstep
      exact .call path
  | reload =>
      cases hstep
      unfold RuntimeConfigManager.reload
      by_cases hpath : m.configPath = []
      · rw [if_pos hpath]
        exact .noPath
      · rw [if_neg hpath]
        exact .reload
  | readFile i files =>
      simp only [RuntimeConfigManager.step] at hstep
      split at hstep
      · rename_i path hcall
        cases hstep
        unfold RuntimeConfigManager.openFile
        split
        · rename_i config log hread
          exact .read hcall (by rw [configAt, hread])
        · exact .unread hcall
      · cases hstep
  | resume i =>
      obtain ⟨call, hcall, hresume⟩ := Option.bind_eq_some_iff.mp hstep
      cases call with
      | throttle path lastReload =>
          simp only [RuntimeConfigManager.resume] at hresume
          split at hresume
          · cases hresume
            exact .throttled hcall
          · cases hresume
            exact .reopened hcall
      | openFile path => cases hresume
      | storeValues path config =>
          cases hresume
          exact .storeValues hcall
      | storePath path config =>
          cases hresume
          exact .storePath hcall
      | returned result => cases hresume
  | exportToJson systemTime =>
      cases hstep
      exact .exported systemTime _

/-! ## The calls -/

section Calls

variable {m : RuntimeConfigManager} {i : ℕ} {call : ConfigCall} {P : ConfigCall → Prop}

theorem forall_calls_addCall (h : ∀ c ∈ m.calls, P c) (hcall : P call) :
    ∀ c ∈ (m.addCall call).calls, P c := by
  intro c hc
  rcases List.mem_append.mp hc with hc | hc
  · exact h c hc
  · exact List.mem_singleton.mp hc ▸ hcall

theorem forall_calls_setCall (h : ∀ c ∈ m.calls, P c) (hcall : P call) :
    ∀ c ∈ (m.setCall i call).calls, P c := by
  intro c hc
  rcases List.mem_or_eq_of_mem_set hc with hc | rfl
  · exact h c hc
  · exact hcall

end Calls

/-! ## Every configuration that is reached is valid -/

/-- What a call is going to store was checked, and its path is one a caller gave. -/
def ConfigCall.Checked : ConfigCall → Prop
  | .throttle path _ | .openFile path => IsUtf8 path
  | .storeValues path config | .storePath path config => IsUtf8 path ∧ config.Valid
  | .returned _ => True

structure ConfigInv (m : RuntimeConfigManager) : Prop where
  valid : m.config.Valid
  path : IsUtf8 m.configPath
  calls : ∀ call ∈ m.calls, call.Checked

theorem configInv_initial (now : ℤ) : ConfigInv (.initial now) where
  valid := valid_initial
  path := isUtf8_nil
  calls := by simp [RuntimeConfigManager.initial]

/-- Every path a caller gives is valid UTF-8. -/
def ConfigAction.PathUtf8 : ConfigAction → Prop
  | .loadFromFile path => IsUtf8 path
  | _ => True

theorem ConfigInv.step {lib : JsonLib} {m m' : RuntimeConfigManager} {a : ConfigAction}
    {es : List ConfigEvent} (inv : ConfigInv m) (hpath : a.PathUtf8)
    (h : (configManager lib).step m a es m') : ConfigInv m' := by
  have hat : ∀ {i : ℕ} {call : ConfigCall}, m.calls[i]? = some call → call.Checked :=
    fun hcall => inv.calls _ (List.mem_of_getElem? hcall)
  cases configStep_cases h with
  | tick duration => exact ⟨inv.valid, inv.path, inv.calls⟩
  | call path => exact ⟨inv.valid, inv.path, forall_calls_addCall inv.calls hpath⟩
  | noPath => exact ⟨inv.valid, inv.path, forall_calls_addCall inv.calls trivial⟩
  | reload => exact ⟨inv.valid, inv.path, forall_calls_addCall inv.calls inv.path⟩
  | read hcall hread =>
      have hchecked : IsUtf8 _ ∧ _ := ⟨hat hcall, valid_of_configAt hread⟩
      exact ⟨inv.valid, inv.path, forall_calls_setCall inv.calls hchecked⟩
  | unread hcall => exact ⟨inv.valid, inv.path, forall_calls_setCall inv.calls trivial⟩
  | throttled hcall => exact ⟨inv.valid, inv.path, forall_calls_setCall inv.calls trivial⟩
  | reopened hcall =>
      have hutf8 : IsUtf8 _ := hat hcall
      exact ⟨inv.valid, inv.path, forall_calls_setCall inv.calls hutf8⟩
  | storeValues hcall =>
      obtain ⟨hutf8, hvalid⟩ := hat hcall
      exact ⟨hvalid, inv.path, forall_calls_setCall inv.calls ⟨hutf8, hvalid⟩⟩
  | storePath hcall =>
      obtain ⟨hutf8, -⟩ := hat hcall
      exact ⟨inv.valid, hutf8, forall_calls_setCall inv.calls trivial⟩
  | exported systemTime configJson => exact inv

theorem configInv_of_run {lib : JsonLib} {now : ℤ} {as : List ConfigAction}
    {es : List ConfigEvent} {m : RuntimeConfigManager}
    (run : (configManager lib).Run (.initial now) as es m) (hpaths : ∀ a ∈ as, a.PathUtf8) :
    ConfigInv m := by
  have kept := run.restrict_of_forall hpaths
  exact kept.preserves (configInv_initial now) fun _ _ _ _ inv h => inv.step h.1 h.2

/-- Every configuration that is reached is valid, and what is exported of it is loaded
back without a change, where the library reads back what it prints. -/
theorem configRoundTrip {lib : JsonLib} {now : ℤ} {as : List ConfigAction}
    {es : List ConfigEvent} {m : RuntimeConfigManager}
    (run : (configManager lib).Run (.initial now) as es m)
    (hpaths : ∀ path, ConfigAction.loadFromFile path ∈ as → IsUtf8 path) :
    m.config.Valid ∧ ∀ systemTime, lib.Rereads (exportJson m.config m.configPath systemTime) →
      ∃ j, lib.parse (m.exportToJson lib systemTime).1 = .ok j ∧
        (loadFromJson j).1 = some m.config := by
  have inv : ConfigInv m := by
    apply configInv_of_run run
    intro a ha
    cases a with
    | loadFromFile path => exact hpaths path ha
    | tick | reload | readFile | resume | exportToJson => trivial
  refine ⟨inv.valid, ?_⟩
  intro systemTime hlib
  obtain ⟨s, hdump, hparse⟩ := hlib (stringsUtf8_exportJson inv.path)
  refine ⟨(exportJson m.config m.configPath systemTime).reread, ?_, ?_⟩
  · simp only [RuntimeConfigManager.exportToJson, hdump]
    exact hparse
  · have hwindow : ¬ m.config.maxWriteQueueSize < m.config.maxMessagesPerWindow :=
      UInt64.not_lt.mpr inv.valid.window_le_queue
    simp only [loadFromJson, overlay_exportJson inv.valid, if_neg hwindow]

/-- A file with a limit of two connections, and an amount that is refused. -/
def twoConnections : Json :=
  .ofFields [(text "max_connections", .unsigned 2), (text "max_amount", .unsigned 1)]

/-- That file is loaded, and then one that does not parse. -/
def twoLoads : List ConfigAction :=
  [.loadFromFile (text "two"), .readFile 0 fun _ => .parsed twoConnections, .resume 0, .resume 0,
    .loadFromFile (text "bad"), .readFile 1 fun _ => .malformed (text "unexpected end of input")]

def afterTwoLoads : RuntimeConfigManager where
  config := { RuntimeConfig.initial with maxConnections := 2 }
  configPath := text "two"
  lastReloadTime := 7
  now := 7
  calls := [.returned true, .returned false]

theorem configRoundTrip_twoLoads :
    afterTwoLoads.config.Valid ∧ ∃ (lib : JsonLib) (j : Json),
      lib.parse (afterTwoLoads.exportToJson lib 0).1 = .ok j ∧
        (loadFromJson j).1 = some afterTwoLoads.config := by
  let lib := JsonLib.knowing
    [(exportJson afterTwoLoads.config afterTwoLoads.configPath 0).reread]
  have run : (configManager lib).Run (.initial 7) twoLoads
      [.loaded (text "two"), .returned true, .returned false] afterTwoLoads :=
    Machine.run_of_exec (by decide +kernel)
  have hpaths : ∀ path, ConfigAction.loadFromFile path ∈ twoLoads → IsUtf8 path := by
    intro path hpath
    simp only [twoLoads, List.mem_cons, ConfigAction.loadFromFile.injEq, List.not_mem_nil,
      or_false, reduceCtorEq, false_or] at hpath
    rcases hpath with rfl | rfl
    · exact isUtf8_text "two"
    · exact isUtf8_text "bad"
  obtain ⟨hvalid, hexport⟩ := configRoundTrip run hpaths
  exact ⟨hvalid, lib, hexport 0 (JsonLib.rereads_knowing _)⟩

end CppSim.Server
