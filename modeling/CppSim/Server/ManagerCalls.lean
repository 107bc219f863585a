import Mathlib.Data.List.Sort
import CppSim.Library.MapHistory
import CppSim.Server.ConnectionManager

/-!
# The calls of the connection manager

Any number of threads call the manager, and `generate_session_id` returns whatever it
likes.  Each critical section is a step of its own: `register_session` gives the lock back
between two attempts, and `stop_all` after the swap.

`register_session` moves its parameter into `try_emplace`, which leaves it alone if the id is
taken; so a call has its session until it is inserted (`RegisterCall.session`).

`manager_refines_map` compares a run with a finite map.  Its state is that of the insertions
in force, and its answers are those of that map.
-/

namespace CppSim.Server

/-! ## Calls -/

/-- How far a call of `register_session` has come. -/
inductive RegisterPhase
  | generate (attempt : ℕ)
  | insert (attempt : ℕ) (sessionId : Text)
  | leaving (result : Text)
  | returned

structure RegisterCall where
  /-- The parameter, which is null after it was moved into the map. -/
  session : Option ℕ
  phase : RegisterPhase

/-- A call of `stop_all` after the swap. -/
structure StopCall where
  /-- The sessions that are yet to be closed. -/
  pending : List ℕ
  returned : Bool

structure ManagerCalls where
  manager : ConnectionManager
  registers : List RegisterCall
  stops : List StopCall

inductive ManagerAction
  /-- A thread calls `register_session`. -/
  | register (session : Option ℕ)
  /-- `generate_session_id` returns to the call. -/
  | generated (call : ℕ) (sessionId : Text)
  | insert (call : ℕ)
  | leave (call : ℕ)
  | unregister (sessionId : Text)
  | get (sessionId : Text)
  | activeIds
  | count
  /-- A thread calls `stop_all`, and goes on. -/
  | stopAll
  | close (call : ℕ)
  | stopReturn (call : ℕ)

/-- What the callers see, and where the map changes. -/
inductive ManagerEvent
  | called (call : ℕ) (session : Option ℕ)
  | inserted (call : ℕ) (sessionId : Text) (session : ℕ)
  | returned (call : ℕ) (sessionId : Text)
  | unregistered (sessionId : Text) (removed : Option ℕ)
  | got (sessionId : Text) (session : Option ℕ)
  | listed (ids : List Text)
  | counted (count : ℕ)
  | swept (call : ℕ) (entries : List (Text × ℕ))
  | closed (call : ℕ) (session : ℕ)
  | stopped (call : ℕ)
  deriving DecidableEq

/-- The entries of the registry in the order of the map. -/
def ConnectionManager.ordered (m : ConnectionManager) : List (Text × ℕ) :=
  (m.sessions.entries.map fun entry => (entry.1, entry.2)).insertionSort fun a b => ¬ b.1 < a.1

namespace ManagerCalls

def initial : ManagerCalls := ⟨.initial, [], []⟩

/-- A call of `register_session` moves on. -/
def setPhase (v : ManagerCalls) (call : ℕ) (r : RegisterCall) : ManagerCalls :=
  { v with registers := v.registers.set call r }

/-- `register_session`: what a new id leads to. -/
def generated (attempt : ℕ) (sessionId : Text) : RegisterPhase :=
  if sessionId = [] then .leaving []
  else if sessionId.length > Config.maxSessionIdLength then .leaving []
  else .insert attempt sessionId

/-- `register_session`: what a refused insertion leads to. -/
def refused (attempt : ℕ) : EmplaceResult → RegisterPhase
  | .collision =>
      if attempt + 1 < WebsocketSession.maxSessionIdRetries then .generate (attempt + 1)
      else .leaving []
  | _ => .leaving []

/-- One step. -/
def step (v : ManagerCalls) : ManagerAction → Option (ManagerCalls × List ManagerEvent)
  | .register session =>
      let phase := if session.isNone then .leaving [] else .generate 0
      some ({ v with registers := v.registers ++ [⟨session, phase⟩] },
        [.called v.registers.length session])
  | .generated call sessionId => do
      let r ← v.registers[call]?
      match r.phase with
      | .generate attempt =>
          some (v.setPhase call { r with phase := generated attempt sessionId }, [])
      | _ => none
  | .insert call => do
      let r ← v.registers[call]?
      match r.phase, r.session with
      | .insert attempt sessionId, some session =>
          match v.manager.tryEmplace sessionId session with
          | (.success _, manager) =>
              some ({ v.setPhase call ⟨none, .leaving sessionId⟩ with manager },
                [.inserted call sessionId session])
          | (result, _) => some (v.setPhase call { r with phase := refused attempt result }, [])
      | _, _ => none
  | .leave call => do
      let r ← v.registers[call]?
      match r.phase with
      | .leaving result => some (v.setPhase call ⟨none, .returned⟩, [.returned call result])
      | _ => none
  | .unregister sessionId =>
      if sessionId = [] then some (v, [.unregistered sessionId none])
      else
        some ({ v with manager := v.manager.unregisterSession sessionId },
          [.unregistered sessionId (v.manager.sessions.lookup sessionId)])
  | .get sessionId => some (v, [.got sessionId (v.manager.sessions.lookup sessionId)])
  | .activeIds => some (v, [.listed (v.manager.ordered.map Prod.fst)])
  | .count => some (v, [.counted v.manager.sessionCount])
  | .stopAll =>
      let entries := v.manager.ordered
      some ({ v with manager := { v.manager with sessions := ∅ },
                     stops := v.stops ++ [⟨entries.map Prod.snd, false⟩] },
        [.swept v.stops.length entries])
  | .close call => do
      let c ← v.stops[call]?
      match c.pending with
      | [] => none
      | session :: rest =>
          some ({ v with stops := v.stops.set call { c with pending := rest } },
            [.closed call session])
  | .stopReturn call => do
      let c ← v.stops[call]?
      if c.pending = [] ∧ c.returned = false then
        some ({ v with stops := v.stops.set call { c with returned := true } }, [.stopped call])
      else none

end ManagerCalls

/-- The machine of the calls. -/
def managerCalls : Machine ManagerCalls ManagerAction ManagerEvent := Machine.ofStep ManagerCalls.step

/-- The branches of a step. -/
inductive CallTransition (v : ManagerCalls) : List ManagerEvent → ManagerCalls → Prop
  | called (session : Option ℕ) (phase : RegisterPhase)
      (hphase : phase = if session.isNone then .leaving [] else .generate 0) :
      CallTransition v [.called v.registers.length session]
        { v with registers := v.registers ++ [⟨session, phase⟩] }
  | generated {call attempt : ℕ} {session : Option ℕ} {sessionId : Text}
      (hcall : v.registers[call]? = some ⟨session, .generate attempt⟩) :
      CallTransition v []
        (v.setPhase call ⟨session, ManagerCalls.generated attempt sessionId⟩)
  | inserted {call attempt session : ℕ} {sessionId : Text}
      (hcall : v.registers[call]? = some ⟨some session, .insert attempt sessionId⟩)
      (hroom : v.manager.sessionCount < Config.maxConnections)
      (hfree : sessionId ∉ v.manager.sessions) :
      CallTransition v [.inserted call sessionId session]
        { v.setPhase call ⟨none, .leaving sessionId⟩ with
          manager := { v.manager with sessions := v.manager.sessions.insert sessionId session } }
  | refused {call attempt session : ℕ} {sessionId : Text} {result : EmplaceResult}
      (hcall : v.registers[call]? = some ⟨some session, .insert attempt sessionId⟩) :
      CallTransition v []
        (v.setPhase call ⟨some session, ManagerCalls.refused attempt result⟩)
  | left {call : ℕ} {session : Option ℕ} {result : Text}
      (hcall : v.registers[call]? = some ⟨session, .leaving result⟩) :
      CallTransition v [.returned call result] (v.setPhase call ⟨none, .returned⟩)
  | unregisteredNone : CallTransition v [.unregistered [] none] v
  | unregistered {sessionId : Text} (hne : sessionId ≠ []) :
      CallTransition v [.unregistered sessionId (v.manager.sessions.lookup sessionId)]
        { v with manager := v.manager.unregisterSession sessionId }
  | got (sessionId : Text) :
      CallTransition v [.got sessionId (v.manager.sessions.lookup sessionId)] v
  | listed : CallTransition v [.listed (v.manager.ordered.map Prod.fst)] v
  | counted : CallTransition v [.counted v.manager.sessionCount] v
  | swept :
      CallTransition v [.swept v.stops.length v.manager.ordered]
        { v with manager := { v.manager with sessions := ∅ },
                 stops := v.stops ++ [⟨v.manager.ordered.map Prod.snd, false⟩] }
  | closed {call session : ℕ} {rest : List ℕ} {returned : Bool}
      (hcall : v.stops[call]? = some ⟨session :: rest, returned⟩) :
      CallTransition v [.closed call session] { v with stops := v.stops.set call ⟨rest, returned⟩ }
  | stopped {call : ℕ} (hcall : v.stops[call]? = some ⟨[], false⟩) :
      CallTransition v [.stopped call] { v with stops := v.stops.set call ⟨[], true⟩ }

/-- At most one event is seen of a step. -/
theorem CallTransition.events {v v' : ManagerCalls} {es : List ManagerEvent}
    (h : CallTransition v es v') : es = [] ∨ ∃ e, es = [e] := by
  cases h with
  | generated | refused => exact .inl rfl
  | _ => exact .inr ⟨_, rfl⟩

theorem callTransition_of_step {v v' : ManagerCalls} {a : ManagerAction} {es : List ManagerEvent}
    (h : managerCalls.step v a es v') : CallTransition v es v' := by
  replace h : v.step a = some (v', es) := h
  cases a with
  | register session =>
      cases h
      exact .called session _ rfl
  | generated call sessionId =>
      simp only [ManagerCalls.step, Option.bind_eq_bind, Option.bind_eq_some_iff] at h
      obtain ⟨⟨session, phase⟩, hcall, h⟩ := h
      cases phase with
      | generate attempt =>
          cases h
          exact .generated hcall
      | _ => cases h
  | insert call =>
      simp only [ManagerCalls.step, Option.bind_eq_bind, Option.bind_eq_some_iff] at h
      obtain ⟨⟨session, phase⟩, hcall, h⟩ := h
      split at h
      · rename_i attempt sessionId session' hphase hsession
        dsimp only at hphase hsession
        subst hphase hsession
        rcases v.manager.tryEmplace_cases sessionId session' with ⟨result, hresult, hrefused⟩ |
          ⟨hroom, hfree, count, hresult⟩ <;> rw [hresult] at h
        · cases result with
          | success count => exact absurd rfl (hrefused count)
          | maxConnections | collision =>
              cases h
              exact .refused hcall
        · cases h
          exact .inserted hcall hroom hfree
      · cases h
  | leave call =>
      simp only [ManagerCalls.step, Option.bind_eq_bind, Option.bind_eq_some_iff] at h
      obtain ⟨⟨session, phase⟩, hcall, h⟩ := h
      cases phase with
      | leaving result =>
          cases h
          exact .left hcall
      | _ => cases h
  | unregister sessionId =>
      simp only [ManagerCalls.step] at h
      split at h
      · rename_i hnil
        cases h
        rw [hnil]
        exact .unregisteredNone
      · rename_i hne
        cases h
        exact .unregistered hne
  | get sessionId =>
      cases h
      exact .got sessionId
  | activeIds =>
      cases h
      exact .listed
  | count =>
      cases h
      exact .counted
  | stopAll =>
      cases h
      exact .swept
  | close call =>
      simp only [ManagerCalls.step, Option.bind_eq_bind, Option.bind_eq_some_iff] at h
      obtain ⟨⟨pending, returned⟩, hcall, h⟩ := h
      cases pending with
      | nil => cases h
      | cons session rest =>
          cases h
          exact .closed hcall
  | stopReturn call =>
      simp only [ManagerCalls.step, Option.bind_eq_bind, Option.bind_eq_some_iff,
        Option.ite_none_right_eq_some] at h
      obtain ⟨⟨pending, returned⟩, hcall, ⟨hpending, hreturned⟩, h⟩ := h
      dsimp only at hpending hreturned
      subst hpending hreturned
      cases h
      exact .stopped hcall

/-! ## What is claimed of a run -/

/-- What an event does to the map. -/
def ManagerEvent.mapOp : ManagerEvent → Option (MapOp Text ℕ)
  | .inserted _ sessionId session => some (.insert sessionId session)
  | .unregistered sessionId _ => if sessionId = [] then none else some (.erase sessionId)
  | .swept _ _ => some .clear
  | _ => none

/-- The operations of the map of registrations. -/
def mapOps (es : List ManagerEvent) : List (MapOp Text ℕ) := es.filterMap ManagerEvent.mapOp

/-- The number of registrations in force. -/
noncomputable def liveCount (es : List ManagerEvent) : ℕ :=
  {sid | ∃ s, InForce (mapOps es) sid s}.ncard

/-- The answer is the one of the map of the registrations in force before it, and nothing is
inserted over a registration in force or beyond the limit. -/
def AnswersAsMap (before : List ManagerEvent) : ManagerEvent → Prop
  | .inserted _ sid _ => sid ≠ [] ∧ (∀ s, ¬ InForce (mapOps before) sid s) ∧
      liveCount before < Config.maxConnections
  | .unregistered sid session | .got sid session =>
      ∀ s, session = some s ↔ InForce (mapOps before) sid s
  | .listed ids => ids.Nodup ∧ ∀ sid, sid ∈ ids ↔ ∃ s, InForce (mapOps before) sid s
  | .counted count => count = liveCount before ∧ count ≤ Config.maxConnections
  | .swept _ entries => (entries.map Prod.fst).Nodup ∧
      ∀ sid s, (sid, s) ∈ entries ↔ InForce (mapOps before) sid s
  | .called _ _ | .returned _ _ | .closed _ _ | .stopped _ => True

/-- The event is one of a call of `register_session`. -/
def ManagerEvent.ofRegister (call : ℕ) : ManagerEvent → Bool
  | .called c _ | .inserted c _ _ | .returned c _ => c = call
  | _ => false

/-- The event is one of a call of `stop_all`. -/
def ManagerEvent.ofStop (call : ℕ) : ManagerEvent → Bool
  | .swept c _ | .closed c _ | .stopped c => c = call
  | _ => false

/-- The events of a call of `register_session`. -/
def registerEvents (call : ℕ) (es : List ManagerEvent) : List ManagerEvent :=
  es.filter (ManagerEvent.ofRegister call)

/-- The events of a call of `stop_all`. -/
def stopEvents (call : ℕ) (es : List ManagerEvent) : List ManagerEvent :=
  es.filter (ManagerEvent.ofStop call)

/-- What a call of `register_session` does: it inserts its session once and returns the id, or
it inserts nothing and returns an empty id. -/
inductive RegisterHistory (call : ℕ) : List ManagerEvent → Prop
  | none : RegisterHistory call []
  | trying (session : Option ℕ) : RegisterHistory call [.called call session]
  | inserted (session : ℕ) (sid : Text) :
      RegisterHistory call [.called call (some session), .inserted call sid session]
  | failed (session : Option ℕ) :
      RegisterHistory call [.called call session, .returned call []]
  | succeeded (session : ℕ) (sid : Text) (hne : sid ≠ []) :
      RegisterHistory call
        [.called call (some session), .inserted call sid session, .returned call sid]

/-- What a call of `stop_all` does: it closes the session of each entry it swept, in their
order, and returns. -/
inductive StopHistory (call : ℕ) : List ManagerEvent → Prop
  | none : StopHistory call []
  | closing (entries : List (Text × ℕ)) (done pending : List ℕ)
      (hentries : entries.map Prod.snd = done ++ pending) :
      StopHistory call (.swept call entries :: done.map (.closed call))
  | stopped (entries : List (Text × ℕ)) :
      StopHistory call
        (.swept call entries :: (entries.map Prod.snd).map (.closed call) ++ [.stopped call])

/-! ## The invariant -/

/-- Where a call of `register_session` is, by what it has done. -/
inductive RegisterInv (call : ℕ) : Option RegisterCall → List ManagerEvent → Prop
  | none : RegisterInv call none []
  | generate (session attempt : ℕ) :
      RegisterInv call (some ⟨some session, .generate attempt⟩) [.called call (some session)]
  | insert (session attempt : ℕ) (sid : Text) (hne : sid ≠ []) :
      RegisterInv call (some ⟨some session, .insert attempt sid⟩) [.called call (some session)]
  | failing (session : Option ℕ) :
      RegisterInv call (some ⟨session, .leaving []⟩) [.called call session]
  | succeeding (session : ℕ) (sid : Text) (hne : sid ≠ []) :
      RegisterInv call (some ⟨Option.none, .leaving sid⟩)
        [.called call (some session), .inserted call sid session]
  | failed (session : Option ℕ) :
      RegisterInv call (some ⟨Option.none, .returned⟩)
        [.called call session, .returned call []]
  | succeeded (session : ℕ) (sid : Text) (hne : sid ≠ []) :
      RegisterInv call (some ⟨Option.none, .returned⟩)
        [.called call (some session), .inserted call sid session, .returned call sid]

theorem RegisterInv.sessionId_ne {call session attempt : ℕ} {sid : Text} {es : List ManagerEvent}
    (h : RegisterInv call (some ⟨some session, .insert attempt sid⟩) es) : sid ≠ [] := by
  cases h with
  | insert _ _ _ hne => exact hne

theorem RegisterInv.history {call : ℕ} {r : Option RegisterCall} {es : List ManagerEvent}
    (h : RegisterInv call r es) : RegisterHistory call es := by
  cases h with
  | none => exact .none
  | generate session | insert session => exact .trying (some session)
  | failing session => exact .trying session
  | succeeding session sid => exact .inserted session sid
  | failed session => exact .failed session
  | succeeded session sid hne => exact .succeeded session sid hne

inductive StopInv (call : ℕ) : Option StopCall → List ManagerEvent → Prop
  | none : StopInv call none []
  | closing (entries : List (Text × ℕ)) (done pending : List ℕ)
      (hentries : entries.map Prod.snd = done ++ pending) :
      StopInv call (some ⟨pending, false⟩) (.swept call entries :: done.map (.closed call))
  | stopped (entries : List (Text × ℕ)) :
      StopInv call (some ⟨[], true⟩)
        (.swept call entries :: (entries.map Prod.snd).map (.closed call) ++ [.stopped call])

theorem StopInv.history {call : ℕ} {c : Option StopCall} {es : List ManagerEvent}
    (h : StopInv call c es) : StopHistory call es := by
  cases h with
  | none => exact .none
  | closing entries done pending hentries => exact .closing entries done pending hentries
  | stopped entries => exact .stopped entries

structure CallsInv (v : ManagerCalls) (es : List ManagerEvent) : Prop where
  map : v.manager.sessions = replay (mapOps es)
  room : v.manager.sessionCount ≤ Config.maxConnections
  keys : [] ∉ v.manager.sessions
  answers : Explained AnswersAsMap es
  registers : ∀ call, RegisterInv call v.registers[call]? (registerEvents call es)
  stops : ∀ call, StopInv call v.stops[call]? (stopEvents call es)

section Calls

variable {v v' : ManagerCalls} {es fs : List ManagerEvent} {sid : Text} {s call : ℕ}

theorem callsInv_initial : CallsInv .initial [] where
  map := rfl
  room := by decide
  keys := by decide
  answers := explained_nil _
  registers _ := .none
  stops _ := .none

theorem mapOps_append : mapOps (es ++ fs) = mapOps es ++ mapOps fs := List.filterMap_append

/-! ### The map -/

theorem CallsInv.lookup (inv : CallsInv v es) :
    v.manager.sessions.lookup sid = some s ↔ InForce (mapOps es) sid s := by
  rw [inv.map]
  exact lookup_replay

theorem CallsInv.mem (inv : CallsInv v es) :
    sid ∈ v.manager.sessions ↔ ∃ s, InForce (mapOps es) sid s := by
  rw [inv.map]
  exact mem_replay

theorem CallsInv.sessionCount (inv : CallsInv v es) : v.manager.sessionCount = liveCount es := by
  rw [ConnectionManager.sessionCount, inv.map]
  exact length_entries_replay _

theorem CallsInv.mem_ordered (inv : CallsInv v es) :
    (sid, s) ∈ v.manager.ordered ↔ InForce (mapOps es) sid s := by
  rw [ConnectionManager.ordered, (List.perm_insertionSort _ _).mem_iff, ← inv.lookup,
    ← Option.mem_def, AList.mem_lookup_iff]
  constructor
  · intro hmem
    obtain ⟨⟨sid', s'⟩, hentry, hsame⟩ := List.mem_map.mp hmem
    cases hsame
    exact hentry
  · exact fun hentry => List.mem_map.mpr ⟨_, hentry, rfl⟩

theorem ConnectionManager.nodup_ordered (m : ConnectionManager) : (m.ordered.map Prod.fst).Nodup := by
  have hperm := (List.perm_insertionSort (fun a b : Text × ℕ => ¬ b.1 < a.1)
    (m.sessions.entries.map fun entry => (entry.1, entry.2))).map Prod.fst
  rw [ConnectionManager.ordered, hperm.nodup_iff, List.map_map]
  exact m.sessions.keys_nodup

/-- The answers of a step are those of the map before it. -/
theorem CallsInv.answers_step (inv : CallsInv v es) (h : CallTransition v fs v') :
    ∀ e ∈ fs, AnswersAsMap es e := by
  cases h with
  | generated | refused => simp
  | called | left | closed | stopped => simp [AnswersAsMap]
  | @inserted call attempt session sid hcall hroom hfree =>
      have hregister := inv.registers call
      rw [hcall] at hregister
      simp only [List.forall_mem_singleton]
      refine ⟨?_, fun s hinForce => hfree (inv.mem.mpr ⟨s, hinForce⟩), ?_⟩
      · exact hregister.sessionId_ne
      · rw [← inv.sessionCount]
        exact hroom
  | unregisteredNone =>
      simp only [List.forall_mem_singleton]
      refine fun s => iff_of_false (by simp) fun hinForce => ?_
      exact inv.keys (inv.mem.mpr ⟨s, hinForce⟩)
  | unregistered | got =>
      simp only [List.forall_mem_singleton]
      exact fun s => inv.lookup
  | listed =>
      simp only [List.forall_mem_singleton]
      refine ⟨v.manager.nodup_ordered, fun sid => ?_⟩
      rw [List.mem_map]
      constructor
      · rintro ⟨⟨sid', s⟩, hmem, rfl⟩
        exact ⟨s, inv.mem_ordered.mp hmem⟩
      · rintro ⟨s, hinForce⟩
        exact ⟨(sid, s), inv.mem_ordered.mpr hinForce, rfl⟩
  | counted =>
      simp only [List.forall_mem_singleton]
      exact ⟨inv.sessionCount, inv.room⟩
  | swept =>
      simp only [List.forall_mem_singleton]
      exact ⟨v.manager.nodup_ordered, fun sid s => inv.mem_ordered⟩

/-- A step changes the map as its event says. -/
theorem CallsInv.map_step (inv : CallsInv v es) (h : CallTransition v fs v') :
    v'.manager.sessions = replay (mapOps (es ++ fs)) := by
  rw [mapOps_append]
  have hmap := inv.map
  cases h with
  | called | left | closed | stopped | got | listed | counted | unregisteredNone | generated |
      refused =>
      change v.manager.sessions = replay (mapOps es ++ [])
      rw [List.append_nil]
      exact hmap
  | @inserted call attempt session sid hcall hroom hfree =>
      have hop : mapOps [.inserted call sid session] = [.insert sid session] := rfl
      rw [hop, replay_append_singleton, ← hmap]
      rfl
  | swept =>
      have hop : mapOps [.swept v.stops.length v.manager.ordered] = [.clear] := rfl
      rw [hop, replay_append_singleton]
      rfl
  | @unregistered sid hne =>
      have hop : mapOps [.unregistered sid (v.manager.sessions.lookup sid)] = [.erase sid] := by
        simp [mapOps, ManagerEvent.mapOp, hne]
      rw [hop, replay_append_singleton, ← hmap]
      rfl

end Calls

/-! ### The calls -/

section Family

variable {Call : Type*} {own : ℕ → ManagerEvent → Bool}
  {Inv : ℕ → Option Call → List ManagerEvent → Prop} {calls : List Call}
  {es fs : List ManagerEvent} {call : ℕ} {r r' : Call}

/-- Nothing happens to the calls. -/
theorem calls_same (hall : ∀ c, Inv c calls[c]? (es.filter (own c)))
    (hnone : ∀ c, fs.filter (own c) = []) (c : ℕ) :
    Inv c calls[c]? ((es ++ fs).filter (own c)) := by
  rw [List.filter_append, hnone c, List.append_nil]
  exact hall c

/-- A call moves on, and the others stay where they are. -/
theorem calls_set (hall : ∀ c, Inv c calls[c]? (es.filter (own c)))
    (hcall : calls[call]? = some r) (hother : ∀ c, c ≠ call → fs.filter (own c) = [])
    (hnext : ∀ before, Inv call (some r) before →
      Inv call (some r') (before ++ fs.filter (own call))) (c : ℕ) :
    Inv c (calls.set call r')[c]? ((es ++ fs).filter (own c)) := by
  have hc := hall c
  rw [List.filter_append]
  by_cases hsame : c = call
  · subst hsame
    rw [hcall] at hc
    rw [List.getElem?_set_self (List.getElem?_eq_some_iff.mp hcall).1]
    exact hnext _ hc
  · rw [List.getElem?_set_ne (Ne.symm hsame), hother c hsame, List.append_nil]
    exact hc

/-- A new call begins. -/
theorem calls_concat (hall : ∀ c, Inv c calls[c]? (es.filter (own c)))
    (hother : ∀ c, c ≠ calls.length → fs.filter (own c) = [])
    (hnew : ∀ before, Inv calls.length none before →
      Inv calls.length (some r) (before ++ fs.filter (own calls.length))) (c : ℕ) :
    Inv c (calls ++ [r])[c]? ((es ++ fs).filter (own c)) := by
  have hc := hall c
  rw [List.filter_append]
  by_cases hsame : c = calls.length
  · subst hsame
    rw [List.getElem?_eq_none_iff.mpr (le_refl _)] at hc
    rw [List.getElem?_concat_length]
    exact hnew _ hc
  · have hget : (calls ++ [r])[c]? = calls[c]? := by
      rcases lt_or_gt_of_ne hsame with hlt | hgt
      · exact List.getElem?_append_left hlt
      · rw [List.getElem?_eq_none_iff.mpr hgt.le, List.getElem?_eq_none_iff]
        simpa using hgt
    rw [hget, hother c hsame, List.append_nil]
    exact hc

end Family

section Calls

variable {v v' : ManagerCalls} {es fs : List ManagerEvent} {call : ℕ}

/-- An id that was generated is tried, or makes the call fail. -/
theorem RegisterInv.generated {session : Option ℕ} {attempt : ℕ} {sid : Text}
    (h : RegisterInv call (some ⟨session, .generate attempt⟩) es) :
    RegisterInv call (some ⟨session, ManagerCalls.generated attempt sid⟩) es := by
  cases h with
  | generate session =>
      unfold ManagerCalls.generated
      split
      · exact .failing (some session)
      · rename_i hne
        split
        · exact .failing (some session)
        · exact .insert session attempt sid hne

/-- An insertion that was refused is tried again with another id, or makes the call fail. -/
theorem RegisterInv.refused {session attempt : ℕ} {sid : Text} {result : EmplaceResult}
    (h : RegisterInv call (some ⟨some session, .insert attempt sid⟩) es) :
    RegisterInv call (some ⟨some session, ManagerCalls.refused attempt result⟩) es := by
  cases h with
  | insert =>
      unfold ManagerCalls.refused
      split
      · split
        · exact .generate session (attempt + 1)
        · exact .failing (some session)
      · exact .failing (some session)

theorem RegisterInv.inserted {session attempt : ℕ} {sid : Text}
    (h : RegisterInv call (some ⟨some session, .insert attempt sid⟩) es) :
    RegisterInv call (some ⟨Option.none, .leaving sid⟩) (es ++ [.inserted call sid session]) := by
  cases h with
  | insert _ _ _ hne => exact .succeeding session _ hne

theorem RegisterInv.left {session : Option ℕ} {result : Text}
    (h : RegisterInv call (some ⟨session, .leaving result⟩) es) :
    RegisterInv call (some ⟨Option.none, .returned⟩) (es ++ [.returned call result]) := by
  cases h with
  | failing session => exact .failed session
  | succeeding session _ hne => exact .succeeded session _ hne

theorem CallsInv.registers_step (inv : CallsInv v es) (h : CallTransition v fs v') :
    ∀ call, RegisterInv call v'.registers[call]? (registerEvents call (es ++ fs)) := by
  have hall := inv.registers
  cases h with
  | called session phase hphase =>
      subst hphase
      refine calls_concat hall (fun c hc => by simp [ManagerEvent.ofRegister, Ne.symm hc]) ?_
      intro before hbefore
      cases hbefore with
      | none =>
          cases session with
          | none => simpa [ManagerEvent.ofRegister] using RegisterInv.failing none
          | some session => simpa [ManagerEvent.ofRegister] using RegisterInv.generate session 0
  | generated hcall =>
      refine calls_set hall hcall (fun _ _ => rfl) fun before hbefore => ?_
      simpa using hbefore.generated
  | refused hcall =>
      refine calls_set hall hcall (fun _ _ => rfl) fun before hbefore => ?_
      simpa using hbefore.refused
  | inserted hcall =>
      refine calls_set hall hcall (fun c hc => by simp [ManagerEvent.ofRegister, Ne.symm hc]) ?_
      intro before hbefore
      simpa [ManagerEvent.ofRegister] using hbefore.inserted
  | left hcall =>
      refine calls_set hall hcall (fun c hc => by simp [ManagerEvent.ofRegister, Ne.symm hc]) ?_
      intro before hbefore
      simpa [ManagerEvent.ofRegister] using hbefore.left
  | unregisteredNone | unregistered | got | listed | counted | swept | closed | stopped =>
      exact calls_same hall fun c => rfl

theorem StopInv.swept {entries : List (Text × ℕ)} (h : StopInv call Option.none es) :
    StopInv call (some ⟨entries.map Prod.snd, false⟩) (es ++ [.swept call entries]) := by
  cases h with
  | none => exact .closing entries [] _ rfl

theorem StopInv.closed {session : ℕ} {rest : List ℕ} {returned : Bool}
    (h : StopInv call (some ⟨session :: rest, returned⟩) es) :
    StopInv call (some ⟨rest, returned⟩) (es ++ [.closed call session]) := by
  cases h with
  | closing entries done pending hentries =>
      have hrest : entries.map Prod.snd = (done ++ [session]) ++ rest := by
        rw [hentries, List.append_assoc, List.singleton_append]
      have hclosing : StopInv call (some ⟨rest, false⟩) _ :=
        .closing entries (done ++ [session]) rest hrest
      simpa using hclosing

theorem StopInv.stopped' (h : StopInv call (some ⟨[], false⟩) es) :
    StopInv call (some ⟨[], true⟩) (es ++ [.stopped call]) := by
  cases h with
  | closing entries done pending hentries =>
      rw [List.append_nil] at hentries
      rw [← hentries]
      exact .stopped entries

theorem CallsInv.stops_step (inv : CallsInv v es) (h : CallTransition v fs v') :
    ∀ call, StopInv call v'.stops[call]? (stopEvents call (es ++ fs)) := by
  have hall := inv.stops
  cases h with
  | swept =>
      refine calls_concat hall (fun c hc => by simp [ManagerEvent.ofStop, Ne.symm hc]) ?_
      intro before hbefore
      simpa [ManagerEvent.ofStop] using hbefore.swept
  | closed hcall =>
      refine calls_set hall hcall (fun c hc => by simp [ManagerEvent.ofStop, Ne.symm hc]) ?_
      intro before hbefore
      simpa [ManagerEvent.ofStop] using hbefore.closed
  | stopped hcall =>
      refine calls_set hall hcall (fun c hc => by simp [ManagerEvent.ofStop, Ne.symm hc]) ?_
      intro before hbefore
      simpa [ManagerEvent.ofStop] using hbefore.stopped'
  | called | generated | refused | inserted | left | unregisteredNone | unregistered | got |
      listed | counted => exact calls_same hall fun c => rfl

/-! ### Runs -/

/-- The limit holds, and no entry has an empty id. -/
theorem CallsInv.bounds_step (inv : CallsInv v es) (h : CallTransition v fs v') :
    v'.manager.sessionCount ≤ Config.maxConnections ∧ [] ∉ v'.manager.sessions := by
  have hbounds := And.intro inv.room inv.keys
  cases h with
  | called | generated | refused | left | unregisteredNone | got | listed | counted | closed |
      stopped => exact hbounds
  | @inserted call attempt session sid hcall hroom hfree =>
      have hregister := inv.registers call
      rw [hcall] at hregister
      constructor
      · change (v.manager.sessions.insert sid session).entries.length ≤ _
        rw [AList.entries_insert_of_notMem hfree]
        exact hroom
      · simpa [inv.keys] using hregister.sessionId_ne.symm
  | @unregistered sid hne =>
      refine ⟨le_trans ?_ inv.room, fun hmem => inv.keys (AList.mem_erase.mp hmem).2⟩
      exact (List.kerase_sublist sid v.manager.sessions.entries).length_le
  | swept => exact ⟨Nat.zero_le _, AList.notMem_empty _⟩

theorem CallsInv.step (inv : CallsInv v es) (h : CallTransition v fs v') :
    CallsInv v' (es ++ fs) where
  map := inv.map_step h
  room := (inv.bounds_step h).1
  keys := (inv.bounds_step h).2
  answers := by
    have hanswers := inv.answers_step h
    rcases h.events with rfl | ⟨e, rfl⟩
    · rw [List.append_nil]
      exact inv.answers
    · exact inv.answers.append_singleton (hanswers e (List.mem_singleton_self e))
  registers := inv.registers_step h
  stops := inv.stops_step h

/-- A run keeps the invariant. -/
theorem callsInv_of_run {as : List ManagerAction} (run : managerCalls.Run .initial as es v) :
    CallsInv v es :=
  run.invariant callsInv_initial fun _ _ _ _ _ inv h => inv.step (callTransition_of_step h)

/-- The connection manager is a finite map.  Whatever ids are generated and however the calls
interleave, each answer is that of the map of the registrations in force; a call of
`register_session` inserts its session under the id it returns, or nothing if it returns an
empty one; a call of `stop_all` closes the session of each entry it swept, once for each. -/
theorem manager_refines_map {as : List ManagerAction}
    (run : managerCalls.Run .initial as es v) :
    Explained AnswersAsMap es ∧ (∀ call, RegisterHistory call (registerEvents call es)) ∧
      (∀ call, StopHistory call (stopEvents call es)) ∧
      ∀ sid s, v.manager.sessions.lookup sid = some s ↔ InForce (mapOps es) sid s := by
  have inv := callsInv_of_run run
  refine ⟨inv.answers, ?_, ?_, fun sid s => inv.lookup⟩
  · intro call
    exact (inv.registers call).history
  · intro call
    exact (inv.stops call).history

end Calls

/-- One session is registered twice, the second time after a collision. -/
def registeredTwice : ManagerCalls × List ManagerEvent :=
  (Machine.exec ManagerCalls.step .initial
    [.register (some 7), .generated 0 [97], .insert 0, .leave 0, .get [97],
      .register (some 7), .generated 1 [97], .insert 1, .generated 1 [98], .insert 1, .leave 1,
      .count, .stopAll, .close 0, .close 0, .stopReturn 0, .activeIds]).get (by decide +kernel)

/-- The map after the run is empty, and each of its calls has returned. -/
theorem manager_refines_map_registeredTwice :
    Explained AnswersAsMap registeredTwice.2 ∧
      (∀ call, RegisterHistory call (registerEvents call registeredTwice.2)) ∧
      (∀ call, StopHistory call (stopEvents call registeredTwice.2)) ∧
      ∀ sid s, registeredTwice.1.manager.sessions.lookup sid = some s ↔
        InForce (mapOps registeredTwice.2) sid s :=
  manager_refines_map (Machine.run_get _)

/-- A session that is registered under two ids is closed twice by one `stop_all`. -/
theorem stopAll_closes_twice :
    ¬ ∀ (as : List ManagerAction) (es : List ManagerEvent) (v : ManagerCalls),
      managerCalls.Run .initial as es v → ∀ (call : ℕ) (entries : List (Text × ℕ)),
        .swept call entries ∈ es → .stopped call ∈ es →
          ∀ entry ∈ entries, es.count (.closed call entry.2) = 1 := by
  intro hclosesOnce
  have hentry := hclosesOnce _ registeredTwice.2 registeredTwice.1 (Machine.run_get _) 0
    [([97], 7), ([98], 7)] (by decide +kernel) (by decide +kernel) ([97], 7) (by simp)
  have htwice : registeredTwice.2.count (.closed 0 7) = 2 := by decide +kernel
  rw [htwice] at hentry
  cases hentry

end CppSim.Server
