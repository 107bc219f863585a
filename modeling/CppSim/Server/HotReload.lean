import CppSim.Server.Session.RateLimit
import CppSim.Server.Session.ReloadCycle

/-!
# The rate limit while the configuration is reloaded

`check_rate_limit_or_close` reads the window of the rate limiter and then the number of
messages, each under a lock of its own.  `hotReload` is a session together with the manager of
the configuration, where the steps of the manager fall between any two steps of the session
and between the two readings.

`conformingAdmitted` says that no message of a client is rejected that keeps to the limits of all
configurations the limiter has read, as long as no decision pairs a window with the count of a
configuration that has both a narrower window and a lower count.  `rejected_between_limits` is a
run in which one does.
-/

namespace CppSim.Server

open Protocol SlidingWindow

/-! ## The model -/

/-- A session and the configuration it reads. -/
structure HotReload where
  manager : RuntimeConfigManager
  session : WebsocketSession
  /-- The configuration whose window `check_rate_limit_or_close` has read, as long as it has yet
  to read the count. -/
  reading : Option RuntimeConfig
  /-- The configurations that it has read, the latest first. -/
  consulted : List RuntimeConfig

inductive HotReloadAction
  /-- A step of the manager, for any thread. -/
  | config (a : ConfigAction)
  /-- The strand comes to `get_rate_limit_window`. -/
  | readWindow
  /-- The strand comes to `get_max_messages_per_window` and decides about the message. -/
  | readCount (message : Text) (maxMessagesLogged : ℕ)
  /-- The session takes a step of another kind. -/
  | session (a : Action)

/-- A message has been read. -/
def Action.isMessage : Action → Bool
  | .onRead (.message _ _ _ _) => true
  | _ => false

namespace HotReload

/-- Before the session runs. -/
def initial (managerNow now handshakeTimeout : ℤ) : HotReload where
  manager := .initial managerNow
  session := .construct now handshakeTimeout
  reading := none
  consulted := []

end HotReload

/-- A step, with the message that the limiter is asked about. -/
def hotReloadStep (lib : JsonLib) (h : HotReload) :
    HotReloadAction → Option (HotReload × List Arrival)
  | .config a =>
      (configStep lib h.manager a).map fun r => ({ h with manager := r.1 }, [])
  | .readWindow =>
      if h.reading = none then
        some ({ h with
          reading := some h.manager.config, consulted := h.manager.config :: h.consulted }, [])
      else none
  | .readCount message maxMessagesLogged =>
      h.reading.bind fun config =>
        (limitedStep lib h.session (.onRead (.message message config.window
          h.manager.config.maxMessagesPerWindow.toNat maxMessagesLogged))).map fun r =>
            ({ h with
              session := r.1, reading := none, consulted := h.manager.config :: h.consulted }, r.2)
  | .session a =>
      if h.reading = none ∧ a.isMessage = false then
        (limitedStep lib h.session a).map fun r => ({ h with session := r.1 }, r.2)
      else none

/-- The machine of a session and of the configuration it reads. -/
def hotReload (lib : JsonLib) : Machine HotReload HotReloadAction Arrival :=
  Machine.ofStep (hotReloadStep lib)

/-- The messages keep to the limits of the configuration. -/
def RuntimeConfig.Conforms (config : RuntimeConfig) (messages : List Arrival) : Prop :=
  Moderate config.window config.maxMessagesPerWindow.toNat (messages.map Arrival.time)

/-- The configuration whose count is read does not have both a narrower window and a lower count
than the one whose window was read. -/
def HotReload.Untightened (h : HotReload) : HotReloadAction → Prop
  | .readCount _ _ => ∀ config ∈ h.reading, config.window ≤ h.manager.config.window ∨
      config.maxMessagesPerWindow ≤ h.manager.config.maxMessagesPerWindow
  | _ => True

/-! ## The configurations in force are valid -/

/-- What a call is going to store was checked. -/
def ConfigCall.ValuesChecked : ConfigCall → Prop
  | .storeValues _ config => config.Valid
  | _ => True

structure ValuesInv (m : RuntimeConfigManager) : Prop where
  valid : m.config.Valid
  calls : ∀ call ∈ m.calls, call.ValuesChecked

theorem ValuesInv.step {lib : JsonLib} {m m' : RuntimeConfigManager} {a : ConfigAction}
    {es : List ConfigEvent} (inv : ValuesInv m) (h : (configManager lib).step m a es m') :
    ValuesInv m' := by
  cases configStep_cases h with
  | tick duration => exact ⟨inv.valid, inv.calls⟩
  | call | noPath | reload => exact ⟨inv.valid, forall_calls_addCall inv.calls trivial⟩
  | read hcall hread =>
      have hvalid : RuntimeConfig.Valid _ := valid_of_configAt hread
      exact ⟨inv.valid, forall_calls_setCall inv.calls hvalid⟩
  | unread | throttled | reopened | storePath =>
      exact ⟨inv.valid, forall_calls_setCall inv.calls trivial⟩
  | storeValues hcall =>
      have hvalid : RuntimeConfig.Valid _ := inv.calls _ (List.mem_of_getElem? hcall)
      exact ⟨hvalid, forall_calls_setCall inv.calls trivial⟩
  | exported systemTime configJson => exact inv

theorem RuntimeConfig.Valid.window_nonneg {config : RuntimeConfig} (h : config.Valid) :
    0 ≤ config.window :=
  le_trans (by decide) h.window_le

/-! ## One decision -/

section Steps

variable {lib : JsonLib} {h h' : HotReload} {s t : WebsocketSession} {window : ℤ}
  {maxMessages : ℕ} {messages asked : List Arrival} {config : RuntimeConfig}

/-- What a session keeps are times of messages, and none is later than its clock. -/
structure Keeps (s : WebsocketSession) (messages : List Arrival) : Prop where
  past : ∀ m ∈ messages, m.time ≤ s.now
  kept : s.messageTimestamps.Sublist (messages.map Arrival.time)

theorem Keeps.of_asks (keeps : Keeps s messages) (hasks : Asks window maxMessages s t asked) :
    Keeps t (messages ++ asked) := by
  cases hasks with
  | none htimestamps hnow =>
      rw [List.append_nil]
      exact ⟨fun m hm => (keeps.past m hm).trans hnow, htimestamps ▸ keeps.kept⟩
  | one admitted _ hnow hlimit =>
      refine ⟨List.forall_mem_append.mpr ⟨hnow ▸ keeps.past, by simp [hnow]⟩, ?_⟩
      rw [checkRateLimit_eq_arrive, Prod.mk.injEq] at hlimit
      rw [← hlimit.1, List.map_append, List.map_singleton]
      have hrecent : (recent window s.now s.messageTimestamps).Sublist
          (messages.map Arrival.time) := List.filter_sublist.trans keeps.kept
      unfold arrive
      split
      · exact hrecent.trans (List.sublist_append_left _ _)
      · exact hrecent.append (List.Sublist.refl _)

/-- A message that finds its window below the limit is admitted. -/
theorem admitted_of_asks (hasks : Asks window maxMessages s t asked)
    (hroom : ∀ m ∈ asked,
      (recent window m.time s.messageTimestamps).length < maxMessages) :
    ∀ m ∈ asked, m.admitted = true := by
  cases hasks with
  | none => simp
  | one admitted _ _ hlimit =>
      have hlt := hroom _ (List.mem_singleton_self _)
      rw [checkRateLimit_eq_arrive, arrive, if_neg (Nat.not_le.mpr hlt), Prod.mk.injEq] at hlimit
      simpa using hlimit.2

theorem RuntimeConfig.Conforms.of_messages (h : config.Conforms (messages ++ asked)) :
    config.Conforms messages := by
  rw [RuntimeConfig.Conforms, List.map_append] at h
  exact h.of_append

/-- The limiter is asked about messages only. -/
theorem arrivals_of_not_message {a : Action} (h : a.isMessage = false) :
    s.arrivals t a = [] ∧ a.ReadsLimits window maxMessages := by
  cases a with
  | onRead result =>
      cases result with
      | message => cases h
      | failed => exact ⟨rfl, trivial⟩
  | _ => exact ⟨rfl, trivial⟩

/-- Messages that keep to the limits of a configuration leave room in its window, for each of
them. -/
theorem RuntimeConfig.Conforms.room (hconforms : config.Conforms (messages ++ asked))
    (hvalid : config.Valid) (keeps : Keeps s messages) (hasks : Asks window maxMessages s t asked)
    {m : Arrival} (hm : m ∈ asked) :
    (recent config.window m.time s.messageTimestamps).length <
      config.maxMessagesPerWindow.toNat := by
  cases hasks with
  | none => cases hm
  | one admitted =>
      obtain rfl := List.mem_singleton.mp hm
      rw [RuntimeConfig.Conforms, List.map_append, List.map_singleton] at hconforms
      refine hconforms.length_recent_lt hvalid.window_nonneg ?_ keeps.kept
      simpa using keeps.past

/-- The window of one configuration and the count of another leave room, unless the second has
both limits tighter. -/
theorem room_of_untightened {counted : RuntimeConfig} (hvalid : config.Valid)
    (hcounted : counted.Valid) (hconforms : config.Conforms (messages ++ asked))
    (hconforms' : counted.Conforms (messages ++ asked)) (keeps : Keeps s messages)
    (hasks : Asks window maxMessages s t asked) (hpair : config.window ≤ counted.window ∨
      config.maxMessagesPerWindow ≤ counted.maxMessagesPerWindow) {m : Arrival} (hm : m ∈ asked) :
    (recent config.window m.time s.messageTimestamps).length <
      counted.maxMessagesPerWindow.toNat := by
  rcases hpair with hwindow | hcount
  · exact (length_recent_le_of_le hwindow _).trans_lt (hconforms'.room hcounted keeps hasks hm)
  · exact (hconforms.room hvalid keeps hasks hm).trans_le (UInt64.le_iff_toNat_le.mp hcount)

/-! ## A run -/

/-- What holds of a run. -/
structure HotReloadInv (h : HotReload) (messages : List Arrival) : Prop where
  values : ValuesInv h.manager
  reading : ∀ config ∈ h.reading, config ∈ h.consulted
  valid : ∀ config ∈ h.consulted, config.Valid
  keeps : Keeps h.session messages
  admitted : (∀ config ∈ h.consulted, config.Conforms messages) →
    ∀ m ∈ messages, m.admitted = true

theorem hotReloadInv_initial (managerNow now handshakeTimeout : ℤ) :
    HotReloadInv (.initial managerNow now handshakeTimeout) [] where
  values := ⟨valid_initial, by simp [HotReload.initial, RuntimeConfigManager.initial]⟩
  reading := by simp [HotReload.initial]
  valid := by simp [HotReload.initial]
  keeps := ⟨by simp, List.Sublist.refl _⟩
  admitted := by simp

theorem HotReloadInv.step {a : HotReloadAction} (inv : HotReloadInv h messages)
    (hcondition : h.Untightened a) (hstep : (hotReload lib).step h a asked h') :
    HotReloadInv h' (messages ++ asked) := by
  cases a with
  | config a =>
      obtain ⟨⟨m', es⟩, hconfig, hnext⟩ := Option.map_eq_some_iff.mp hstep
      cases hnext
      rw [List.append_nil]
      exact { inv with values := inv.values.step hconfig }
  | readWindow =>
      obtain ⟨-, hnext⟩ := Option.ite_none_right_eq_some.mp hstep
      cases hnext
      rw [List.append_nil]
      refine ⟨inv.values, ?_, List.forall_mem_cons.mpr ⟨inv.values.valid, inv.valid⟩, inv.keeps, ?_⟩
      · rintro config ⟨⟩
        exact List.mem_cons_self
      · exact fun hall => inv.admitted (List.forall_mem_cons.mp hall).2
  | readCount message maxMessagesLogged =>
      obtain ⟨config, hreading, hnext⟩ := Option.bind_eq_some_iff.mp hstep
      obtain ⟨⟨_, _⟩, hlimited, hnext⟩ := Option.map_eq_some_iff.mp hnext
      obtain ⟨⟨t, es⟩, hsession, hlimited⟩ := Option.map_eq_some_iff.mp hlimited
      cases hlimited
      cases hnext
      have hasks := asks_of_step hsession ⟨rfl, rfl⟩
      have hread : config ∈ h.consulted := inv.reading config hreading
      refine ⟨inv.values, by simp, List.forall_mem_cons.mpr ⟨inv.values.valid, inv.valid⟩,
        inv.keeps.of_asks hasks, ?_⟩
      intro hall
      obtain ⟨hcounted, hall⟩ := List.forall_mem_cons.mp hall
      refine List.forall_mem_append.mpr ⟨?_, ?_⟩
      · exact inv.admitted fun config hmem => (hall config hmem).of_messages
      · refine admitted_of_asks hasks fun m hm => ?_
        exact room_of_untightened (inv.valid _ hread) inv.values.valid (hall _ hread) hcounted
          inv.keeps hasks (hcondition _ hreading) hm
  | session a =>
      obtain ⟨⟨hidle, hother⟩, hnext⟩ := Option.ite_none_right_eq_some.mp hstep
      obtain ⟨⟨_, _⟩, hlimited, hnext⟩ := Option.map_eq_some_iff.mp hnext
      obtain ⟨⟨t, es⟩, hsession, hlimited⟩ := Option.map_eq_some_iff.mp hlimited
      cases hlimited
      cases hnext
      obtain ⟨hnone, hlimits⟩ : h.session.arrivals t a = [] ∧ a.ReadsLimits 0 0 :=
        arrivals_of_not_message hother
      have hkeeps := inv.keeps.of_asks (asks_of_step hsession hlimits)
      rw [hnone, List.append_nil] at hkeeps ⊢
      exact { inv with keeps := hkeeps }

theorem hotReloadInv_of_run {managerNow now handshakeTimeout : ℤ} {as : List HotReloadAction}
    (run : ((hotReload lib).restrict HotReload.Untightened).Run
      (.initial managerNow now handshakeTimeout) as messages h) : HotReloadInv h messages :=
  run.invariant (hotReloadInv_initial _ _ _) fun _ _ _ _ _ inv hstep => inv.step hstep.1 hstep.2

end Steps

/-- Reloading the configuration rejects no message of a client that keeps to the limits of all
configurations that the limiter reads, in every run in which no decision takes its count from a
configuration that has both limits tighter than the one it took its window from. -/
theorem conformingAdmitted {lib : JsonLib} {managerNow now handshakeTimeout : ℤ}
    {as : List HotReloadAction} {messages : List Arrival} {h : HotReload}
    (run : ((hotReload lib).restrict HotReload.Untightened).Run
      (.initial managerNow now handshakeTimeout) as messages h)
    (hconforms : ∀ config ∈ h.consulted, config.Conforms messages) :
    ∀ m ∈ messages, m.admitted = true :=
  (hotReloadInv_of_run run).admitted hconforms

/-- A window of two seconds, and one message a second. -/
def twoSeconds : Json := .ofFields [(text "rate_limit_window", .unsigned 2)]

def oneMessage : Json :=
  .ofFields [(text "rate_limit_window", .unsigned 1), (text "max_messages_per_window", .unsigned 1)]

/-- A client is authenticated under the first file, and the second is loaded between the two
readings for its next message, one and a half seconds later. -/
def racingActions (first second : Json) : List HotReloadAction :=
  [.config (.loadFromFile (text "first")), .config (.readFile 0 fun _ => .parsed first),
    .config (.resume 0), .session .armDeadline, .session .startAccept, .session (.onAccept none),
    .session .resume, .readWindow, .readCount (handshakeEnvelope.print 4) 10,
    .session (.handleMessage 10000 10000), .session (.generated (text "sess_a")),
    .session (.emplaced (.success 1)), .session .resume, .session .resume, .session .resume,
    .session .resume, .session (.rearm (seconds 86400)), .session .resume,
    .session (.tick 1500000000), .readWindow, .config (.loadFromFile (text "second")),
    .config (.readFile 1 fun _ => .parsed second), .config (.resume 1), .readCount [] 10]

instance (h : HotReload) (a : HotReloadAction) : Decidable (h.Untightened a) := by
  unfold HotReload.Untightened
  split <;> infer_instance

/-- Two messages that are further than a second apart. -/
theorem conforms_apart {config : RuntimeConfig} {messages : List Arrival}
    (htimes : messages.map Arrival.time = [0, 1500000000])
    (hlimits : 2 ≤ config.maxMessagesPerWindow.toNat ∨
      config.window = seconds 1 ∧ config.maxMessagesPerWindow.toNat = 1) :
    config.Conforms messages := by
  intro start
  rw [htimes]
  rcases hlimits with hcount | ⟨hwindow, hcount⟩
  · exact List.countP_le_length.trans hcount
  · rw [hwindow, hcount]
    by_cases hfirst : start ≤ 0 ∧ 0 ≤ start + seconds 1
    · have hsecond : ¬ (start ≤ 1500000000 ∧ 1500000000 ≤ start + seconds 1) := by
        simp only [seconds] at hfirst ⊢
        omega
      rw [List.countP_cons_of_pos (by simpa using hfirst),
        List.countP_cons_of_neg (by simpa using hsecond), List.countP_nil]
    · rw [List.countP_cons_of_neg (by simpa using hfirst)]
      exact List.countP_le_length

/-- The reload only makes the window narrower. -/
def narrowedRun : HotReload × List Arrival :=
  (Machine.exec
    (Machine.guarded HotReload.Untightened (hotReloadStep (.knowing [handshakeEnvelope])))
    (.initial 0 0 (seconds 10)) (racingActions twoSeconds (.ofFields []))).get (by decide +kernel)

theorem conformingAdmitted_narrowedRun :
    narrowedRun.2.length = 2 ∧ ∀ m ∈ narrowedRun.2, m.admitted = true := by
  have run : ((hotReload (.knowing [handshakeEnvelope])).restrict HotReload.Untightened).Run
      (.initial 0 0 (seconds 10)) (racingActions twoSeconds (.ofFields [])) narrowedRun.2
      narrowedRun.1 := Machine.run_restrict_get _
  refine ⟨by decide +kernel, ?_⟩
  refine conformingAdmitted run fun config hmem => conforms_apart (by decide +kernel) ?_
  have hcounts : ∀ config ∈ narrowedRun.1.consulted, 2 ≤ config.maxMessagesPerWindow.toNat := by
    decide +kernel
  exact .inl (hcounts config hmem)

/-- The reload makes the window narrower and the count lower. -/
def tightenedRun : HotReload × List Arrival :=
  (Machine.exec (hotReloadStep (.knowing [handshakeEnvelope])) (.initial 0 0 (seconds 10))
    (racingActions twoSeconds oneMessage)).get (by decide +kernel)

/-- The second message is rejected by the old window and the new count. -/
theorem rejected_between_limits :
    ¬ ∀ (lib : JsonLib) (managerNow now handshakeTimeout : ℤ) (as : List HotReloadAction)
      (messages : List Arrival) (h : HotReload),
      (hotReload lib).Run (.initial managerNow now handshakeTimeout) as messages h →
      (∀ config ∈ h.consulted, config.Conforms messages) → ∀ m ∈ messages, m.admitted = true := by
  intro hall
  have run : (hotReload (.knowing [handshakeEnvelope])).Run (.initial 0 0 (seconds 10))
      (racingActions twoSeconds oneMessage) tightenedRun.2 tightenedRun.1 := Machine.run_get _
  have hlimits : ∀ config ∈ tightenedRun.1.consulted, 2 ≤ config.maxMessagesPerWindow.toNat ∨
      config.window = seconds 1 ∧ config.maxMessagesPerWindow.toNat = 1 := by decide +kernel
  have hrejected : ⟨1500000000, false⟩ ∈ tightenedRun.2 := by decide +kernel
  have hadmitted := hall _ _ _ _ _ _ _ run
    (fun config hmem => conforms_apart (by decide +kernel) (hlimits config hmem)) _ hrejected
  cases hadmitted

end CppSim.Server
