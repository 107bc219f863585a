import CppSim.Server.HandshakeGate

/-!
# Issued session ids

Every call of `generate_session_id` moves the counter on, also one that falls back; and the
id shows the lower half of the counter.  Two calls on the main path return the same id for
the same random word exactly if they are a multiple of `2^32` calls apart, however many of
the calls between them fall back (`distinctIds_iff`).

Every id passes the checks of the protocol library, and a session accepts the id that its
HANDSHAKE_RESPONSE shows: between the response and the end of the session its id is not
stored again (`Greeting`).
-/

namespace CppSim.Server

open Protocol

/-! ## Calls of `generate_session_id` -/

/-- The path that a call takes: the random source returns a word or throws. -/
inductive IdPath
  | main
  | fallback
  deriving DecidableEq

namespace ConnectionManager

/-- `generate_session_id` on one of its paths. -/
def generateOn (m : ConnectionManager) (rnd : UInt32) : IdPath → Text × ConnectionManager
  | .main => m.generate rnd
  | .fallback => m.generateFallback

/-- The ids of a sequence of calls; `rnd` lists the random words. -/
def generateAll (m : ConnectionManager) (rnd : ℕ → UInt32) : List IdPath → List Text
  | [] => []
  | path :: paths =>
      (m.generateOn (rnd 0) path).1 ::
        (m.generateOn (rnd 0) path).2.generateAll (fun k => rnd (k + 1)) paths

/-- The counters after some calls. -/
def afterCalls (m : ConnectionManager) (paths : List IdPath) : ConnectionManager :=
  { m with counter := m.counter + UInt64.ofNat paths.length,
           fallbackCounter := m.fallbackCounter + UInt64.ofNat (paths.count .fallback) }

end ConnectionManager

section Calls

variable {m : ConnectionManager} {rnd : ℕ → UInt32} {path : IdPath} {paths : List IdPath}
  {i j : ℕ}

theorem afterCalls_cons (m : ConnectionManager) (rnd : ℕ → UInt32) :
    m.afterCalls (path :: paths) = ((m.generateOn (rnd 0) path).2).afterCalls paths := by
  cases path <;>
    simp [ConnectionManager.afterCalls, ConnectionManager.generateOn, ConnectionManager.generate,
      ConnectionManager.generateFallback, UInt64.ofNat_add, UInt64.add_assoc, UInt64.add_comm]

/-- Each id comes from the counters after the calls before. -/
theorem getElem?_generateAll :
    (m.generateAll rnd paths)[i]? =
      paths[i]?.map fun path => ((m.afterCalls (paths.take i)).generateOn (rnd i) path).1 := by
  induction paths generalizing m rnd i with
  | nil => rfl
  | cons path paths ih =>
      cases i with
      | zero =>
          have hnone : m.afterCalls [] = m := by simp [ConnectionManager.afterCalls]
          rw [List.take_zero, hnone]
          rfl
      | succ i =>
          rw [ConnectionManager.generateAll, List.getElem?_cons_succ, ih, List.getElem?_cons_succ,
            List.take_succ_cons, afterCalls_cons _ rnd]

theorem length_generateAll (m : ConnectionManager) (rnd : ℕ → UInt32) :
    (m.generateAll rnd paths).length = paths.length := by
  induction paths generalizing m rnd with
  | nil => rfl
  | cons path paths ih => rw [ConnectionManager.generateAll, List.length_cons, ih, List.length_cons]

/-- The counter before the call at `i`. -/
theorem toNat_counter_afterCalls (hi : i ≤ paths.length) :
    (ConnectionManager.initial.afterCalls (paths.take i)).counter.toNat % 2 ^ 32 = i % 2 ^ 32 := by
  rw [ConnectionManager.afterCalls, List.length_take, Nat.min_eq_left hi]
  change (0 + UInt64.ofNat i).toNat % 2 ^ 32 = i % 2 ^ 32
  rw [UInt64.zero_add, UInt64.toNat_ofNat']
  omega

theorem toNat_fallbackCounter_afterCalls (hfallback : paths.count .fallback < 10 ^ 15) (i : ℕ) :
    (ConnectionManager.initial.afterCalls (paths.take i)).fallbackCounter.toNat =
      (paths.take i).count .fallback := by
  have hle := (List.take_sublist i paths).count_le IdPath.fallback
  change (0 + UInt64.ofNat ((paths.take i).count .fallback)).toNat = _
  rw [UInt64.zero_add, UInt64.toNat_ofNat']
  omega

/-- A fallback call moves the counter of the fallback on. -/
theorem count_fallback_lt (hij : i < j) (hi : paths[i]? = some .fallback) :
    (paths.take i).count .fallback < (paths.take j).count .fallback := by
  have hle := (List.take_sublist_take_left (l := paths) (show i + 1 ≤ j from hij)).count_le
    IdPath.fallback
  rw [List.take_add_one, hi, List.count_append] at hle
  exact lt_of_lt_of_le (by simp) hle

/-! ## Distinct ids -/

/-- No two calls on the main path are a multiple of `2^32` calls apart. -/
def MainCallsApart (paths : List IdPath) : Prop :=
  ∀ i j, i < j → paths[i]? = some .main → paths[j]? = some .main → ¬ 2 ^ 32 ∣ j - i

/-- The call at `i` on the main path. -/
theorem getElem?_of_main (hi : paths[i]? = some .main) :
    (ConnectionManager.initial.generateAll rnd paths)[i]? =
      some (generateSessionId (ConnectionManager.initial.afterCalls (paths.take i)).counter
        (rnd i)) := by
  rw [getElem?_generateAll, hi, Option.map_some]
  rfl

theorem getElem?_of_fallback (hi : paths[i]? = some .fallback) :
    (ConnectionManager.initial.generateAll rnd paths)[i]? =
      some (fallbackSessionId
        (ConnectionManager.initial.afterCalls (paths.take i)).fallbackCounter) := by
  rw [getElem?_generateAll, hi, Option.map_some]
  rfl

/-- Two calls on the main path that are a multiple of `2^32` calls apart return the same id for
the same random word. -/
theorem getElem?_eq_of_dvd (hi : paths[i]? = some .main) (hj : paths[j]? = some .main)
    (hij : i < j) (hdvd : 2 ^ 32 ∣ j - i) :
    (ConnectionManager.initial.generateAll (fun _ => 0) paths)[i]? =
      (ConnectionManager.initial.generateAll (fun _ => 0) paths)[j]? := by
  have hmod : i % 2 ^ 32 = j % 2 ^ 32 := by omega
  rw [getElem?_of_main hi, getElem?_of_main hj]
  refine congrArg some (generateSessionId_eq_of_mod_eq 0 ?_)
  obtain ⟨hi', -⟩ := List.getElem?_eq_some_iff.mp hi
  obtain ⟨hj', -⟩ := List.getElem?_eq_some_iff.mp hj
  rw [toNat_counter_afterCalls hi'.le, toNat_counter_afterCalls hj'.le, hmod]

/-- So the ids are not distinct. -/
theorem not_nodup_of_dvd (hi : paths[i]? = some .main) (hj : paths[j]? = some .main)
    (hij : i < j) (hdvd : 2 ^ 32 ∣ j - i) :
    ¬ (ConnectionManager.initial.generateAll (fun _ => 0) paths).Nodup := by
  intro hnodup
  obtain ⟨hlt, -⟩ := List.getElem?_eq_some_iff.mp hj
  rw [← length_generateAll .initial fun _ => 0] at hlt
  exact List.nodup_iff_getElem?_ne_getElem?.mp hnodup i j hij hlt
    (getElem?_eq_of_dvd hi hj hij hdvd)

theorem getElem?_ne_of_apart (hfallback : paths.count .fallback < 10 ^ 15)
    (hapart : MainCallsApart paths) (hij : i < j) (hj : j < paths.length) :
    (ConnectionManager.initial.generateAll rnd paths)[i]? ≠
      (ConnectionManager.initial.generateAll rnd paths)[j]? := by
  intro heq
  have hcount (k : ℕ) : (paths.take k).count .fallback < 10 ^ 15 :=
    ((List.take_sublist k paths).count_le _).trans_lt hfallback
  have hi := List.getElem?_eq_getElem (hij.trans hj)
  have hj' := List.getElem?_eq_getElem hj
  cases hpath : paths[i] with
  | main =>
      rw [hpath] at hi
      rw [getElem?_of_main hi] at heq
      cases hpath' : paths[j] with
      | main =>
          rw [hpath'] at hj'
          rw [getElem?_of_main hj'] at heq
          have hmod := mod_eq_of_generateSessionId_eq (Option.some.inj heq)
          rw [toNat_counter_afterCalls (hij.trans hj).le, toNat_counter_afterCalls hj.le] at hmod
          exact hapart i j hij hi hj' (by omega)
      | fallback =>
          rw [hpath'] at hj'
          rw [getElem?_of_fallback hj'] at heq
          refine generateSessionId_ne_fallback ?_ (Option.some.inj heq)
          rw [toNat_fallbackCounter_afterCalls hfallback]
          exact hcount j
  | fallback =>
      rw [hpath] at hi
      rw [getElem?_of_fallback hi] at heq
      cases hpath' : paths[j] with
      | main =>
          rw [hpath'] at hj'
          rw [getElem?_of_main hj'] at heq
          refine generateSessionId_ne_fallback ?_ (Option.some.inj heq).symm
          rw [toNat_fallbackCounter_afterCalls hfallback]
          exact hcount i
      | fallback =>
          rw [hpath'] at hj'
          rw [getElem?_of_fallback hj'] at heq
          have hsame := congrArg UInt64.toNat (fallbackSessionId_inj (Option.some.inj heq))
          rw [toNat_fallbackCounter_afterCalls hfallback,
            toNat_fallbackCounter_afterCalls hfallback] at hsame
          have hlt := count_fallback_lt hij hi
          omega

end Calls

/-! ## Valid ids -/

/-- An id that a client can send back. -/
structure Usable (sid : Text) : Prop where
  format : validateSessionIdFormat sid = true
  length : sid.length ≤ Config.maxSessionIdLength
  /-- The check of the parsers of ACTION, RELOAD_REQUEST and DISCONNECT. -/
  field : ∀ messageName, validateSessionIdField sid messageName = []

section Valid

variable {sid digits : Text}

theorem usable_of_format (h : validateSessionIdFormat sid = true) : Usable sid := by
  obtain ⟨hmin, hmax⟩ := length_of_validateSessionIdFormat h
  refine ⟨h, hmax, fun messageName => ?_⟩
  have hne : sid ≠ [] := by
    intro hnil
    rw [hnil, List.length_nil] at hmin
    cases hmin
  rw [validateSessionIdField, if_neg (by simp [hne, h])]

theorem usable_append (hmin : 0 < digits.length) (hmax : digits.length ≤ 20)
    (hdigits : ∀ byte ∈ digits, isValidSessionIdChar byte = true) :
    Usable (text "sess_" ++ digits) := by
  have hlength : (text "sess_").length = 5 := rfl
  apply usable_of_format
  simp only [validateSessionIdFormat, List.length_append, hlength, Bool.and_eq_true,
    decide_eq_true_eq, beq_iff_eq]
  refine ⟨⟨⟨by omega, ?_⟩, ?_⟩, ?_⟩
  · change 5 + digits.length ≤ 128
    omega
  · exact List.take_left' hlength
  · rw [List.drop_left' hlength]
    exact List.all_eq_true.mpr hdigits

theorem usable_generateSessionId (id : UInt64) (rnd : UInt32) : Usable (generateSessionId id rnd) := by
  have hdigits : ∀ n < 16, isValidSessionIdChar (hexDigits.getD n 0) = true := by decide +kernel
  refine usable_append (by simp) (by simp) fun byte hbyte => ?_
  obtain ⟨i, hi, rfl⟩ := List.mem_map.mp hbyte
  rw [toNat_hexDigit _ (List.mem_range.mp hi)]
  exact hdigits _ (Nat.mod_lt _ (by decide))

theorem isValidSessionIdChar_of_mem_toText {n : ℕ} {byte : UInt8} (h : byte ∈ toText n) :
    isValidSessionIdChar byte = true := by
  rw [toText_natCast, text, String.toList_ofList] at h
  obtain ⟨c, hc, hbyte⟩ := List.mem_flatMap.mp h
  have hdigit := Nat.isDigit_of_mem_toDigits (by decide) (by decide) hc
  simp only [Char.isDigit, Bool.and_eq_true, decide_eq_true_eq, ge_iff_le, UInt32.le_iff_toNat_le]
    at hdigit
  have hlow : 48 ≤ c.val.toNat := hdigit.1
  have hhigh : c.val.toNat ≤ 57 := hdigit.2
  unfold String.utf8EncodeChar at hbyte
  dsimp only at hbyte
  rw [if_pos (by omega), List.mem_singleton] at hbyte
  have hnat : byte.toNat = c.val.toNat := by
    rw [hbyte, UInt8.toNat_ofNat']
    omega
  simp only [isValidSessionIdChar, Bool.or_eq_true, Bool.and_eq_true, decide_eq_true_eq,
    UInt8.le_iff_toNat_le, hnat]
  exact .inl (.inr ⟨hlow, hhigh⟩)

theorem usable_fallbackSessionId (id : UInt64) : Usable (fallbackSessionId id) := by
  have hdigits : (toText id.toNat).length ≤ 20 :=
    length_toText_le (by decide) (Nat.lt_trans id.toNat_lt (by decide))
  refine usable_append (List.length_pos_iff.mpr fun hnil => ?_) hdigits
    fun byte hbyte => isValidSessionIdChar_of_mem_toText hbyte
  obtain ⟨c, hc⟩ := List.exists_mem_of_ne_nil _ (Nat.toDigits_ne_nil (n := id.toNat) (b := 10))
  rw [toText_natCast, text, String.toList_ofList, List.flatMap_eq_nil_iff] at hnil
  have hlength := length_utf8EncodeChar_of_isDigit
    (Nat.isDigit_of_mem_toDigits (by decide) (by decide) hc)
  rw [hnil c hc] at hlength
  cases hlength

theorem usable_generateAll {m : ConnectionManager} {rnd : ℕ → UInt32} {paths : List IdPath}
    (h : sid ∈ m.generateAll rnd paths) : Usable sid := by
  induction paths generalizing m rnd with
  | nil => cases h
  | cons path paths ih =>
      rcases List.mem_cons.mp h with rfl | hmem
      · cases path with
        | main => exact usable_generateSessionId _ _
        | fallback => exact usable_fallbackSessionId _
      · exact ih hmem

theorem Action.Generates.usable (h : (Action.generated sid).Generates) : Usable sid := by
  rcases h with ⟨id, rnd, rfl⟩ | ⟨id, rfl⟩
  · exact usable_generateSessionId id rnd
  · exact usable_fallbackSessionId id

end Valid

/-! ## The id of the response -/

/-- The session is about to show its own id, and has shown no other. -/
structure Greeting (lib : JsonLib) (s : WebsocketSession) (es : List Event) : Prop where
  sending : ∀ sid, s.strand = .sendResponse sid → s.sessionId = sid
  responded : ∀ response, .queued .handshakeResponse response ∈ es → s.sessionId ≠ [] ∧
    serializeHandshakeResponse lib
      ⟨s.sessionId, Config.placeholderSeat, Config.placeholderStack⟩ = .ok response

section Greeting

variable {lib : JsonLib} {s t : WebsocketSession} {a : Action} {as : List Action}
  {es fs : List Event} {sid response : Text} {now handshakeTimeout : ℤ}

@[simp] theorem After.strand_ne_sendResponse (after : After) : after.strand ≠ .sendResponse sid := by
  cases after <;> simp [After.strand]

@[simp] theorem Next.strand_ne_sendResponse (next : Next) : next.strand ≠ .sendResponse sid := by
  cases next <;> simp [Next.strand]

/-- Only the store of a new id changes the id, and only it leads to the response. -/
theorem Transition.sessionId_cases (h : Transition lib s a fs t) :
    (t.sessionId = s.sessionId ∧
      ∀ sid, t.strand = .sendResponse sid → s.strand = .sendResponse sid) ∨
    ∃ sid, s.strand = .storeId sid ∧ fs = [] ∧
      t = { s with sessionId := sid, strand := .sendResponse sid } := by
  cases h with
  | idStored hstrand => exact .inr ⟨_, hstrand, rfl, rfl⟩
  | readFailed =>
      refine .inl ⟨rfl, fun sid hsid => ?_⟩
      dsimp only at hsid
      split at hsid <;> cases hsid
  | sendRefused hsends =>
      refine .inl ⟨rfl, ?_⟩
      cases hsends <;> simp
  | _ => exact .inl ⟨rfl, by simp⟩

theorem printed_of_mem_sendResponse
    (h : .queued .handshakeResponse response ∈ (s.sendResponse lib sid).events) :
    serializeHandshakeResponse lib
      ⟨sid, Config.placeholderSeat, Config.placeholderStack⟩ = .ok response := by
  unfold WebsocketSession.sendResponse at h
  dsimp only at h
  split at h
  · cases h
  · rename_i printed hprinted
    rw [hprinted]
    unfold WebsocketSession.sendOnStrand at h
    split at h <;> cases List.mem_singleton.mp h
    · rfl
    · rfl

/-- A response that is queued shows the id that the handler holds. -/
theorem printed_of_queued (h : (session lib).step s a fs t)
    (hmem : .queued .handshakeResponse response ∈ fs) :
    ∃ sid, s.strand = .sendResponse sid ∧ serializeHandshakeResponse lib
      ⟨sid, Config.placeholderSeat, Config.placeholderStack⟩ = .ok response := by
  obtain ⟨hlive, htransition⟩ := transition_of_step h
  have hemits := htransition.emits hmem
  cases hemits with
  | queued hsends =>
      cases hsends with
      | @response sid _ hstrand =>
          refine ⟨sid, hstrand, printed_of_mem_sendResponse (s := s) ?_⟩
          have hresume : s.step lib .resume = some (s.sendResponse lib sid) := by
            rw [WebsocketSession.step, if_neg (by simp [hlive])]
            simp only [WebsocketSession.resume, hstrand]
          obtain ⟨r, hr, hnext⟩ := Option.map_eq_some_iff.mp h
          rw [hresume] at hr
          cases hr
          rwa [← (Prod.mk.inj hnext).2] at hmem

theorem Greeting.step (inv : Greeting lib s es) (registration : Registration s es)
    (h : (session lib).step s a fs t) : Greeting lib t (es ++ fs) := by
  rcases (transition_of_step h).2.sessionId_cases with ⟨hkept, hstrand⟩ | ⟨sid, hstrand, rfl, rfl⟩
  · refine ⟨fun sid hsid => hkept.trans (inv.sending sid (hstrand sid hsid)), ?_⟩
    intro response hmem
    rw [hkept]
    rcases List.mem_append.mp hmem with hold | hnew
    · exact inv.responded response hold
    · obtain ⟨sid, hsending, hprinted⟩ := printed_of_queued h hnew
      have hsid := inv.sending sid hsending
      rw [hsid]
      refine ⟨?_, hprinted⟩
      cases registration with
      | fresh _ _ _ hunregistered =>
          rw [hsending] at hunregistered
          exact hunregistered.elim
      | held _ hne hcarries =>
          rw [hsending] at hcarries
          rw [← hsid, show s.sessionId = _ from hcarries]
          exact hne
  · refine ⟨fun sid' hsid => by cases hsid; rfl, ?_⟩
    intro response hmem
    rw [List.append_nil] at hmem
    have hnil : s.sessionId = [] := by
      cases registration with
      | fresh _ hsid => exact hsid
      | held _ _ hcarries =>
          rw [hstrand] at hcarries
          exact hcarries.2
    exact absurd hnil (inv.responded response hmem).1

theorem greeting_of_run (run : SessionRun lib now handshakeTimeout as es s) : Greeting lib s es := by
  refine (run.invariant
    (I := fun s es => (ControlInv s ∧ Registration s es) ∧ Greeting lib s es) ?_ ?_).2
  · refine ⟨⟨controlInv_construct _ _, registration_construct⟩, ?_, ?_⟩
    · intro sid hsid
      cases hsid
    · intro response hmem
      cases hmem
  · intro es s a fs t ⟨⟨control, registration⟩, inv⟩ hstep
    exact ⟨⟨control.step hstep, registration.step (transition_of_step hstep).2 control⟩,
      inv.step registration hstep⟩

end Greeting

section Worlds

variable {lib : JsonLib} {w w' : World} {a : WorldAction} {as : List WorldAction} {i : ℕ}
  {es : List WorldEvent} {s : WebsocketSession} {P : Text → Prop}

/-- Every id in a world comes from `generate_session_id`. -/
theorem idsHold_of_world (hnil : P []) (hgenerated : ∀ sid, (Action.generated sid).Generates → P sid)
    (run : WorldRun lib as es w) : ∀ s ∈ w.sessions, IdsHold P s :=
  run.preserves (I := fun w => ∀ s ∈ w.sessions, IdsHold P s) (by simp [World.initial])
    fun _ _ _ _ inv hstep => idsHold_step hnil hgenerated hstep inv

/-- The id that a HANDSHAKE_RESPONSE shows is usable, and the session it was sent by accepts
it. -/
theorem echoed_of_world (run : WorldRun lib as es w) (hget : w.sessions[i]? = some s)
    {response : Text} (hmem : .session i (.queued .handshakeResponse response) ∈ es) :
    ∃ sid, serializeHandshakeResponse lib
        ⟨sid, Config.placeholderSeat, Config.placeholderStack⟩ = .ok response ∧
      Usable sid ∧ s.validateSessionId sid = none := by
  obtain ⟨_, _, _, own⟩ := session_of_world run hget
  obtain ⟨hne, hprinted⟩ := (greeting_of_run own).responded response (mem_ownEvents.mpr hmem)
  have hids := idsHold_of_world (P := fun sid => sid ≠ [] → Usable sid) (fun h => absurd rfl h)
    (fun _ hgenerates _ => hgenerates.usable) run s (List.mem_of_getElem? hget)
  have husable := hids.sessionId hne
  exact ⟨s.sessionId, hprinted, husable,
    (WebsocketSession.validateSessionId_eq_none_of_format husable.format).mpr rfl⟩

end Worlds

/-- Whatever the random words, the ids of a sequence of calls are distinct exactly if no two
calls on the main path are a multiple of `2^32` calls apart, as long as fewer than `10^15` calls
fall back.  All ids are usable, and a session accepts the id that it has shown to its client. -/
theorem distinctIds_iff (paths : List IdPath) :
    (paths.count .fallback < 10 ^ 15 →
      ((∀ rnd, (ConnectionManager.initial.generateAll rnd paths).Nodup) ↔ MainCallsApart paths)) ∧
    (∀ rnd, ∀ sid ∈ ConnectionManager.initial.generateAll rnd paths, Usable sid) ∧
    ∀ (lib : JsonLib) (as : List WorldAction) (es : List WorldEvent) (w : World) (i : ℕ)
      (s : WebsocketSession), WorldRun lib as es w → w.sessions[i]? = some s →
      ∀ response, .session i (.queued .handshakeResponse response) ∈ es →
      ∃ sid, serializeHandshakeResponse lib
          ⟨sid, Config.placeholderSeat, Config.placeholderStack⟩ = .ok response ∧
        Usable sid ∧ s.validateSessionId sid = none := by
  refine ⟨fun hfallback => ⟨?_, ?_⟩, fun _ _ => usable_generateAll,
    fun _ _ _ _ _ _ run hget _ => echoed_of_world run hget⟩
  · intro hnodup i j hij hi hj hdvd
    exact not_nodup_of_dvd hi hj hij hdvd (hnodup _)
  · intro hapart rnd
    rw [List.nodup_iff_getElem?_ne_getElem?]
    intro i j hij hj
    rw [length_generateAll] at hj
    exact getElem?_ne_of_apart hfallback hapart hij hj

/-- A call on the main path, some that fall back, and another on the main path. -/
def straddlingPaths (n : ℕ) : List IdPath := .main :: (List.replicate n .fallback ++ [.main])

theorem getElem?_straddlingPaths (n : ℕ) : (straddlingPaths n)[n + 1]? = some .main := by
  rw [straddlingPaths, List.getElem?_cons_succ, List.getElem?_append_right (by simp)]
  simp

theorem count_straddlingPaths (n : ℕ) :
    (straddlingPaths n).count .main = 2 ∧ (straddlingPaths n).count .fallback = n := by
  simp [straddlingPaths, List.count_append, List.count_replicate]

/-- With two calls on the main path and `2^32 - 1` that fall back, two ids may be the same. -/
theorem not_distinctIds :
    ¬ ∀ (rnd : ℕ → UInt32) (paths : List IdPath), paths.count .main < 2 ^ 32 →
      paths.count .fallback < 10 ^ 15 →
      (ConnectionManager.initial.generateAll rnd paths).Nodup := by
  intro hall
  obtain ⟨n, hn⟩ : ∃ n, n + 1 = 2 ^ 32 := ⟨2 ^ 32 - 1, rfl⟩
  obtain ⟨hmain, hfallback⟩ := count_straddlingPaths n
  refine not_nodup_of_dvd (i := 0) rfl (getElem?_straddlingPaths n) (Nat.succ_pos n) ?_
    (hall _ _ ?_ ?_)
  · rw [hn, Nat.sub_zero]
  · rw [hmain]
    omega
  · rw [hfallback]
    omega

/-- The response to the second of two clients. -/
def secondResponse : Text :=
  (serializeHandshakeResponse (.knowing [handshakeEnvelope])
    ⟨generateSessionId 1 0xcafe, Config.placeholderSeat, Config.placeholderStack⟩).toOption.getD []

/-- Two calls on the main path with one between them that falls back, and two clients. -/
theorem distinctIds_pair :
    (∀ rnd, (ConnectionManager.initial.generateAll rnd [.main, .fallback, .main]).Nodup) ∧
    ∃ s sid, pairRun.1.sessions[1]? = some s ∧
      serializeHandshakeResponse (.knowing [handshakeEnvelope])
        ⟨sid, Config.placeholderSeat, Config.placeholderStack⟩ = .ok secondResponse ∧
      Usable sid ∧ s.validateSessionId sid = none := by
  have run : WorldRun (.knowing [handshakeEnvelope]) pairActions pairRun.2 pairRun.1 :=
    Machine.run_get _
  have hapart : MainCallsApart [.main, .fallback, .main] := by
    intro i j hij _ hj
    have hlt : j < 3 := (List.getElem?_eq_some_iff.mp hj).1
    omega
  obtain ⟨hdistinct, _, hechoed⟩ := distinctIds_iff [.main, .fallback, .main]
  refine ⟨(hdistinct (by decide)).mpr hapart, ?_⟩
  obtain ⟨s, hget⟩ : ∃ s, pairRun.1.sessions[1]? = some s :=
    Option.isSome_iff_exists.mp (by decide +kernel)
  obtain ⟨sid, hsid⟩ := hechoed _ _ _ _ 1 s run hget secondResponse (by decide +kernel)
  exact ⟨s, sid, hget, hsid⟩

end CppSim.Server
