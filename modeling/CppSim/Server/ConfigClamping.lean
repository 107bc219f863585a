import CppSim.Library.Word
import CppSim.Server.RuntimeConfig

/-!
# Clamping the configuration

A number of a file is converted to the type of its member before its range is checked.  The
conversion to `int64_t` and the one to `size_t` take an integer that they do not hold out of
every range of the loader (`toInt_load_int64`, `toNat_load_size`).  `max_connections` alone is
converted a second time, to an `int`, which may take an integer far outside its range into it;
`loadsExactly_iff` says for which integers this shows.
-/

namespace CppSim.Server

/-! ## What a file asks for -/

/-- The integer under a key. -/
def integerAt (key : Text) (j : Json) : Option ℤ :=
  match j.field? key with
  | some (.integer i) => some i.toInt
  | some (.unsigned n) => some n.toNat
  | _ => none

/-- The integer under the key if it is in the range, and otherwise the default. -/
def clamped (key : Text) (least greatest default : ℤ) (j : Json) : ℤ :=
  match integerAt key j with
  | some n => if least ≤ n ∧ n ≤ greatest then n else default
  | none => default

/-- Each number is the integer of the file if it lies in its range, and otherwise its
default. -/
structure Clamps (j : Json) (config : RuntimeConfig) : Prop where
  maxConnections : config.maxConnections.toInt = clamped (text "max_connections") 1 10000 1000 j
  handshakeTimeout : config.handshakeTimeout.toInt = clamped (text "handshake_timeout") 1 300 10 j
  maxMessageSize :
    config.maxMessageSize.toNat = clamped (text "max_message_size") 1024 1048576 65536 j
  maxWriteQueueSize :
    config.maxWriteQueueSize.toNat = clamped (text "max_write_queue_size") 10 1000 100 j
  maxMessagesPerWindow :
    config.maxMessagesPerWindow.toNat = clamped (text "max_messages_per_window") 1 1000 10 j
  rateLimitWindow : config.rateLimitWindow.toInt = clamped (text "rate_limit_window") 1 60 1 j
  maxBackoff : config.maxBackoff.toInt = clamped (text "max_backoff") 1 300 30 j
  wsIdleTimeout : config.wsIdleTimeout.toInt = clamped (text "ws_idle_timeout") 1 172800 86400 j
  maxAmount : config.maxAmount.toInt =
    clamped (text "max_amount") 1000 1000000000000000 1000000000000000 j
  maxSequenceGap :
    config.maxSequenceGap.toInt = clamped (text "max_sequence_gap") 100 100000 10000 j

/-- The keys of the numbers. -/
def numericKeys : List Text :=
  [text "max_connections", text "handshake_timeout", text "max_message_size",
    text "max_write_queue_size", text "max_messages_per_window", text "rate_limit_window",
    text "max_backoff", text "ws_idle_timeout", text "max_amount", text "max_sequence_gap"]

/-- Each of the numbers is absent, or not a number, or an integer. -/
def IntegerFields (j : Json) : Prop :=
  ∀ key ∈ numericKeys, ∀ d, j.field? key ≠ some (.float d)

/-- The write queue that a file asks for is shorter than its window. -/
def ShortQueue (j : Json) : Prop :=
  clamped (text "max_write_queue_size") 10 1000 100 j <
    clamped (text "max_messages_per_window") 1 1000 10 j

/-- A load stores the numbers that the file asks for, and fails exactly if they violate the
invariant across the fields. -/
structure LoadsExactly (j : Json) : Prop where
  committed : ∀ config, (loadFromJson j).1 = some config → Clamps j config
  fails_iff : (loadFromJson j).1 = none ↔ ShortQueue j

/-- The integer is out of the range of `max_connections`, and its lower 32 bits are in it; where
they are the default it makes no difference. -/
def WrapsIntoRange (n : ℤ) : Prop :=
  ¬ (1 ≤ n ∧ n ≤ 10000) ∧
    1 ≤ n.bmod (2 ^ 32) ∧ n.bmod (2 ^ 32) ≤ 10000 ∧ n.bmod (2 ^ 32) ≠ 1000

/-! ## Loading one number -/

section Load

variable {j : Json} {key : Text}

theorem load_eq_default {T : Type} [LE T] [DecidableLE T] {setting : Setting T}
    (h : setting.number? j = none) : setting.load j = setting.default := by
  rw [Setting.load, h]

theorem load_eq_ite {T : Type} [LE T] [DecidableLE T] {setting : Setting T} {value : T}
    (h : setting.number? j = some value) :
    setting.load j = if setting.InRange value then value else setting.default := by
  rw [Setting.load, h]

/-- What a setting reads of a file without a double under its key. -/
theorem number?_eq {T : Type} [LE T] (setting : Setting T)
    (hfloat : ∀ d, j.field? setting.key ≠ some (.float d)) :
    setting.number? j = none ∧ integerAt setting.key j = none ∨
    (∃ i, setting.number? j = (setting.get (.integer i)).toOption ∧
      integerAt setting.key j = some i.toInt) ∨
    ∃ n, setting.number? j = (setting.get (.unsigned n)).toOption ∧
      integerAt setting.key j = some (n.toNat : ℤ) := by
  unfold Setting.number? integerAt
  cases hfield : j.field? setting.key with
  | none => exact .inl ⟨rfl, rfl⟩
  | some value =>
      cases value with
      | integer i => exact .inr (.inl ⟨i, rfl, rfl⟩)
      | unsigned n => exact .inr (.inr ⟨n, rfl, rfl⟩)
      | float d => exact absurd hfield (hfloat d)
      | null | boolean | string | array | object => exact .inl ⟨rfl, rfl⟩

/-- An unsigned integer beyond `int64_t` turns negative. -/
theorem toInt_toInt64_cases (n : UInt64) :
    n.toInt64.toInt = n.toNat ∨ 2 ^ 63 ≤ n.toNat ∧ n.toInt64.toInt < 0 := by
  by_cases hn : n.toNat < 2 ^ 63
  · exact .inl (UInt64.toInt_toInt64_of_lt hn)
  · refine .inr ⟨by omega, ?_⟩
    have hlt := n.toNat_lt
    rw [UInt64.toInt_toInt64_eq_bmod, Int.bmod]
    split <;> omega

/-- An unsigned integer that `int64_t` does not hold is read as a negative number. -/
theorem toInt_load_int64 {key : String} {least greatest default : Int64}
    {hdefault : least ≤ default ∧ default ≤ greatest} (hleast : 0 ≤ least.toInt)
    (hfloat : ∀ d, j.field? (text key) ≠ some (.float d)) :
    ((Setting.int64 key least greatest default hdefault).load j).toInt =
      clamped (text key) least.toInt greatest.toInt default.toInt j := by
  have hgreatest := greatest.toInt_lt
  unfold clamped
  rcases number?_eq (Setting.int64 key least greatest default hdefault) hfloat with
    ⟨hnumber, hinteger⟩ | ⟨i, hnumber, hinteger⟩ | ⟨n, hnumber, hinteger⟩
  · rw [load_eq_default hnumber, show integerAt (text key) j = none from hinteger]
    rfl
  · rw [load_eq_ite hnumber, show integerAt (text key) j = _ from hinteger]
    simp only [Setting.InRange, Setting.int64, Int64.le_iff_toInt_le]
    split <;> rfl
  · rw [load_eq_ite hnumber, show integerAt (text key) j = _ from hinteger]
    have hcast := toInt_toInt64_cases n
    simp only [Setting.InRange, Setting.int64, Int64.le_iff_toInt_le]
    split <;> split <;> omega

/-- A negative integer is read as a number beyond every `size_t` of the loader. -/
theorem toNat_load_size {key : String} {least greatest default : UInt64}
    {hdefault : least ≤ default ∧ default ≤ greatest} (hgreatest : greatest.toNat < 2 ^ 63)
    (hfloat : ∀ d, j.field? (text key) ≠ some (.float d)) :
    (((Setting.size key least greatest default hdefault).load j).toNat : ℤ) =
      clamped (text key) least.toNat greatest.toNat default.toNat j := by
  unfold clamped
  rcases number?_eq (Setting.size key least greatest default hdefault) hfloat with
    ⟨hnumber, hinteger⟩ | ⟨i, hnumber, hinteger⟩ | ⟨n, hnumber, hinteger⟩
  · rw [load_eq_default hnumber, show integerAt (text key) j = none from hinteger]
    rfl
  · rw [load_eq_ite hnumber, show integerAt (text key) j = _ from hinteger]
    have hcast := i.toNat_toUInt64
    have hlow := i.le_toInt
    have hhigh := i.toInt_lt
    simp only [Setting.InRange, Setting.size, UInt64.le_iff_toNat_le]
    split <;> split <;> omega
  · rw [load_eq_ite hnumber, show integerAt (text key) j = _ from hinteger]
    simp only [Setting.InRange, Setting.size, UInt64.le_iff_toNat_le]
    split <;> split <;> omega

/-- The number read of `max_connections`: the lower 32 bits of the integer. -/
theorem number?_maxConnections (hfloat : ∀ d, j.field? (text "max_connections") ≠ some (.float d)) :
    (Setting.maxConnections.number? j).map Int32.toInt =
      (integerAt (text "max_connections") j).map fun n => n.bmod (2 ^ 32) := by
  rcases number?_eq Setting.maxConnections hfloat with
    ⟨hnumber, hinteger⟩ | ⟨i, hnumber, hinteger⟩ | ⟨n, hnumber, hinteger⟩
  · rw [hnumber, show integerAt (text "max_connections") j = none from hinteger]
    rfl
  · rw [hnumber, show integerAt (text "max_connections") j = _ from hinteger]
    exact congrArg some (Int64.toInt_toInt32 i)
  · rw [hnumber, show integerAt (text "max_connections") j = _ from hinteger]
    have hcast : n.toInt64.toInt32.toInt = (n.toNat : ℤ).bmod (2 ^ 32) := by
      rw [Int64.toInt_toInt32, UInt64.toInt_toInt64_eq_bmod, Int.bmod_bmod_of_dvd (by decide)]
    exact congrArg some hcast

theorem toInt_load_maxConnections_iff
    (hfloat : ∀ d, j.field? (text "max_connections") ≠ some (.float d)) :
    (Setting.maxConnections.load j).toInt = clamped (text "max_connections") 1 10000 1000 j ↔
      ∀ n, integerAt (text "max_connections") j = some n → ¬ WrapsIntoRange n := by
  have hread := number?_maxConnections hfloat
  unfold clamped
  cases hinteger : integerAt (text "max_connections") j with
  | none =>
      rw [hinteger, Option.map_none, Option.map_eq_none_iff] at hread
      rw [load_eq_default hread]
      exact iff_of_true rfl nofun
  | some n =>
      rw [hinteger, Option.map_some, Option.map_eq_some_iff] at hread
      obtain ⟨value, hnumber, hvalue⟩ := hread
      have hrange : Setting.maxConnections.InRange value ↔
          1 ≤ n.bmod (2 ^ 32) ∧ n.bmod (2 ^ 32) ≤ 10000 := by
        rw [← hvalue]
        exact and_congr Int32.le_iff_toInt_le Int32.le_iff_toInt_le
      have hdefault : Setting.maxConnections.default.toInt = 1000 := rfl
      have hfits : 1 ≤ n ∧ n ≤ 10000 → n.bmod (2 ^ 32) = n := by
        intro hn
        exact Int.bmod_eq_of_le (by omega) (by omega)
      have hsome : (∀ m, some n = some m → ¬ WrapsIntoRange m) ↔ ¬ WrapsIntoRange n := by simp
      rw [load_eq_ite hnumber, hsome, WrapsIntoRange]
      simp only [hrange]
      split <;> split <;> omega

end Load

/-! ## Loading a file -/

section File

variable {j : Json} {config : RuntimeConfig}

theorem IntegerFields.maxConnections (h : IntegerFields j) :
    ∀ d, j.field? (text "max_connections") ≠ some (.float d) :=
  h _ (List.mem_cons_self)

/-- The other nine numbers are what the file asks for. -/
theorem clamps_overlay_iff (h : IntegerFields j) :
    Clamps j (overlay j) ↔
      (overlay j).maxConnections.toInt = clamped (text "max_connections") 1 10000 1000 j := by
  constructor
  · intro hclamps
    exact hclamps.maxConnections
  · intro hconnections
    refine ⟨hconnections, ?_, ?_, ?_, ?_, ?_, ?_, ?_, ?_, ?_⟩
    · exact toInt_load_int64 (by decide) (h _ (by simp [numericKeys]))
    · exact toNat_load_size (by decide) (h _ (by simp [numericKeys]))
    · exact toNat_load_size (by decide) (h _ (by simp [numericKeys]))
    · exact toNat_load_size (by decide) (h _ (by simp [numericKeys]))
    · exact toInt_load_int64 (by decide) (h _ (by simp [numericKeys]))
    · exact toInt_load_int64 (by decide) (h _ (by simp [numericKeys]))
    · exact toInt_load_int64 (by decide) (h _ (by simp [numericKeys]))
    · exact toInt_load_int64 (by decide) (h _ (by simp [numericKeys]))
    · exact toInt_load_int64 (by decide) (h _ (by simp [numericKeys]))

/-- A load fails exactly if the numbers that the file asks for violate the invariant. -/
theorem loadFromJson_eq_none_iff (h : IntegerFields j) :
    (loadFromJson j).1 = none ↔ ShortQueue j := by
  have hqueue : ((overlay j).maxWriteQueueSize.toNat : ℤ) =
      clamped (text "max_write_queue_size") 10 1000 100 j :=
    toNat_load_size (by decide) (h _ (by simp [numericKeys]))
  have hwindow : ((overlay j).maxMessagesPerWindow.toNat : ℤ) =
      clamped (text "max_messages_per_window") 1 1000 10 j :=
    toNat_load_size (by decide) (h _ (by simp [numericKeys]))
  have hlt : (overlay j).maxWriteQueueSize < (overlay j).maxMessagesPerWindow ↔ ShortQueue j := by
    rw [UInt64.lt_iff_toNat_lt, ShortQueue, ← hqueue, ← hwindow, Int.ofNat_lt]
  unfold loadFromJson
  dsimp only
  rw [← hlt]
  split
  · rename_i hshort
    exact iff_of_true rfl hshort
  · rename_i hlong
    exact iff_of_false (by simp) hlong

theorem loadFromJson_eq_some (h : (loadFromJson j).1 = some config) : config = overlay j := by
  simp only [loadFromJson] at h
  split at h
  · cases h
  · exact (Option.some.inj h).symm

end File

/-- A load of a file whose numbers are integers is exact unless the integer of
`max_connections` wraps into its range, and the load does not fail anyway. -/
theorem loadsExactly_iff {j : Json} (h : IntegerFields j) :
    LoadsExactly j ↔ ShortQueue j ∨
      ∀ n, integerAt (text "max_connections") j = some n → ¬ WrapsIntoRange n := by
  rw [← toInt_load_maxConnections_iff h.maxConnections, ← loadFromJson_eq_none_iff h]
  constructor
  · intro hexact
    cases hload : (loadFromJson j).1 with
    | none => exact .inl rfl
    | some config =>
        have hclamps := hexact.committed config hload
        rw [loadFromJson_eq_some hload] at hclamps
        exact .inr hclamps.maxConnections
  · intro hcond
    refine ⟨fun config hload => ?_, loadFromJson_eq_none_iff h⟩
    rcases hcond with hfails | hconnections
    · rw [hfails] at hload
      cases hload
    · rw [loadFromJson_eq_some hload]
      exact (clamps_overlay_iff h).mpr hconnections

/-- A file with two numbers. -/
def twoNumbers (maxAmount maxConnections : Json) : Json :=
  .object [(text "max_amount", maxAmount), (text "max_connections", maxConnections)]

theorem integerFields_twoNumbers (i : Int64) (n : UInt64) :
    IntegerFields (twoNumbers (.unsigned n) (.integer i)) := by
  intro key hkey d
  simp only [twoNumbers, Json.field?, List.find?_cons]
  split
  · simp
  · split <;> simp

/-- A file that asks for `2^32 + 1` connections, where one is stored. -/
theorem not_loadsExactly : ¬ ∀ j : Json, j.IsObject → IntegerFields j → LoadsExactly j := by
  intro hall
  have hexact := hall (twoNumbers (.unsigned 1000) (.integer 4294967297)) ⟨_, rfl⟩
    (integerFields_twoNumbers _ _)
  have hclamps := hexact.committed _ rfl
  exact absurd hclamps.maxConnections (by decide +kernel)

/-- Two numbers beyond their ranges, of which the second does not wrap into it. -/
theorem loadsExactly_twoNumbers :
    LoadsExactly (twoNumbers (.unsigned 18446744073709551615) (.integer 4294967296)) := by
  refine (loadsExactly_iff (integerFields_twoNumbers _ _)).mpr (.inr ?_)
  intro n hn
  have hinteger : integerAt (text "max_connections")
      (twoNumbers (.unsigned 18446744073709551615) (.integer 4294967296)) = some 4294967296 := by
    decide +kernel
  rw [hinteger] at hn
  cases hn
  intro hwraps
  exact absurd hwraps.2.1 (by decide)

end CppSim.Server
