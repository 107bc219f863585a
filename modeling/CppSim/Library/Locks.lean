import Mathlib.Algebra.Ring.Nat
import Mathlib.Logic.Function.Basic
import CppSim.Library.Drain
import CppSim.Library.Threads

/-!
# Lock programs

A call of a lock program takes mutexes, works under them and gives them back; what it has to do
is a list of operations.  A mutex is not recursive: whoever takes it twice waits for himself.

A program keeps a `LockDiscipline` if it gives mutexes back in the order opposite to that in
which it took them, takes only those that rank above all it holds, and works only under the
mutexes that the work needs.  Then

* some call can go on unless all have returned (`LockDiscipline.progress`), so that any run can
  be completed (`LockDiscipline.exists_returned`), and
* from the step that takes a mutex to the one that gives it back, nobody else does anything that
  needs it (`LockDiscipline.exclusive`).
-/

/-- An operation of a call. -/
inductive LockOp (Mutex Work : Type*)
  | lock (m : Mutex)
  | unlock (m : Mutex)
  | work (w : Work)

/-- Who holds the mutexes, and what they protect. -/
structure LockState (Mutex Data : Type*) where
  owner : Mutex → Option ℕ
  data : Data

/-- What a call has yet to do, and its local variables. -/
structure LockCall (Mutex Work Local : Type*) where
  todo : List (LockOp Mutex Work)
  vars : Local

inductive LockEvent (Mutex Event : Type*)
  | locked (m : Mutex)
  | unlocked (m : Mutex)
  | did (e : Event)

/-- The operations of each call, and what the work does. -/
structure LockProgram (Mutex Work Data Local Call Choice Event : Type*) where
  ops : Call → List (LockOp Mutex Work)
  vars : Call → Local
  run : Data → Local → Work → Choice → Data × Local × List Event

namespace LockProgram

open Machine

variable {Mutex Work Data Local Call Choice Event : Type*} [DecidableEq Mutex]
  (P : LockProgram Mutex Work Data Local Call Choice Event)

/-- The threads of a program. -/
def threads : Threads (LockState Mutex Data) (LockCall Mutex Work Local) Call Choice
    (LockEvent Mutex Event) where
  enter c := (⟨P.ops c, P.vars c⟩, [])
  step i s l x :=
    match l.todo with
    | [] => none
    | .lock m :: todo =>
        if s.owner m = none then
          some ({ s with owner := Function.update s.owner m (some i) }, { l with todo }, [.locked m])
        else none
    | .unlock m :: todo =>
        some ({ s with owner := Function.update s.owner m none }, { l with todo }, [.unlocked m])
    | .work w :: todo =>
        let r := P.run s.data l.vars w x
        some ({ s with data := r.1 }, ⟨todo, r.2.1⟩, r.2.2.map .did)

/-- The cases of a step of call `i`. -/
inductive Step (i : ℕ) (s : LockState Mutex Data) : LockCall Mutex Work Local →
    LockState Mutex Data → LockCall Mutex Work Local → List (LockEvent Mutex Event) → Prop
  | locked {m : Mutex} {todo : List (LockOp Mutex Work)} {vars : Local}
      (hfree : s.owner m = none) :
      Step i s ⟨.lock m :: todo, vars⟩ { s with owner := Function.update s.owner m (some i) }
        ⟨todo, vars⟩ [.locked m]
  | unlocked {m : Mutex} {todo : List (LockOp Mutex Work)} {vars : Local} :
      Step i s ⟨.unlock m :: todo, vars⟩ { s with owner := Function.update s.owner m none }
        ⟨todo, vars⟩ [.unlocked m]
  | worked {w : Work} {todo : List (LockOp Mutex Work)} {vars : Local} (x : Choice) :
      Step i s ⟨.work w :: todo, vars⟩ { s with data := (P.run s.data vars w x).1 }
        ⟨todo, (P.run s.data vars w x).2.1⟩ ((P.run s.data vars w x).2.2.map .did)

variable {P} {i j : ℕ} {s s' : LockState Mutex Data} {l l' other : LockCall Mutex Work Local}
  {x : Choice} {fs : List (LockEvent Mutex Event)} {es : List (ℕ × LockEvent Mutex Event)}
  {m : Mutex} {held : List Mutex}

theorem step_of_threads (h : P.threads.step i s l x = some (s', l', fs)) :
    P.Step i s l s' l' fs := by
  obtain ⟨todo, vars⟩ := l
  cases todo with
  | nil => cases h
  | cons op todo =>
      cases op with
      | lock m =>
          obtain ⟨hfree, h⟩ := Option.ite_none_right_eq_some.mp h
          cases h
          exact .locked hfree
      | unlock m =>
          cases h
          exact .unlocked
      | work w =>
          cases h
          exact .worked x

/-! ## The discipline -/

/-- What is left to do is in order for a call that holds the mutexes `held`, the last one first. -/
def Disciplined (rank : Mutex → ℕ) (needs : Work → List Mutex) :
    List Mutex → List (LockOp Mutex Work) → Prop
  | held, [] => held = []
  | held, .lock m :: ops => (∀ h ∈ held, rank h < rank m) ∧ Disciplined rank needs (m :: held) ops
  | h :: held, .unlock m :: ops => h = m ∧ Disciplined rank needs held ops
  | [], .unlock _ :: _ => False
  | held, .work w :: ops => (∀ m ∈ needs w, m ∈ held) ∧ Disciplined rank needs held ops

omit [DecidableEq Mutex] in
/-- One thing after the other. -/
theorem Disciplined.append {rank : Mutex → ℕ} {needs : Work → List Mutex}
    {ops rest : List (LockOp Mutex Work)} (h : Disciplined rank needs held ops)
    (hrest : Disciplined rank needs [] rest) : Disciplined rank needs held (ops ++ rest) := by
  induction ops generalizing held with
  | nil =>
      cases h
      exact hrest
  | cons op ops ih =>
      cases op with
      | lock m => exact ⟨h.1, ih h.2⟩
      | work w =>
          cases held with
          | nil => exact ⟨h.1, ih h.2⟩
          | cons => exact ⟨h.1, ih h.2⟩
      | unlock m =>
          cases held with
          | nil => exact h.elim
          | cons => exact ⟨h.1, ih h.2⟩

end LockProgram

/-- An order of the mutexes that a program keeps to. -/
structure LockDiscipline {Mutex Work Data Local Call Choice Event : Type*} [DecidableEq Mutex]
    (P : LockProgram Mutex Work Data Local Call Choice Event) where
  rank : Mutex → ℕ
  bound : ℕ
  rank_le : ∀ m, rank m ≤ bound
  needs : Work → List Mutex
  disciplined : ∀ c, LockProgram.Disciplined rank needs [] (P.ops c)

namespace LockDiscipline

open Machine LockProgram

variable {Mutex Work Data Local Call Choice Event : Type*} [DecidableEq Mutex]
  {P : LockProgram Mutex Work Data Local Call Choice Event} (D : LockDiscipline P)
  {i j : ℕ} {s s' : LockState Mutex Data} {l l' other : LockCall Mutex Work Local}
  {x : Choice} {fs : List (LockEvent Mutex Event)} {es : List (ℕ × LockEvent Mutex Event)}
  {m : Mutex} {held : List Mutex} {as : List (PoolAction Call Choice)} {data : Data}
  {p q : Pool (LockState Mutex Data) (LockCall Mutex Work Local)}

/-- Call `i` holds these mutexes, and keeps to the discipline. -/
structure Holding (i : ℕ) (s : LockState Mutex Data) (l : LockCall Mutex Work Local)
    (held : List Mutex) : Prop where
  disciplined : Disciplined D.rank D.needs held l.todo
  sorted : held.Pairwise fun m m' => D.rank m' < D.rank m
  owns : ∀ m, s.owner m = some i ↔ m ∈ held

variable {D}

theorem Holding.step (holding : D.Holding i s l held) (h : P.Step i s l s' l' fs) :
    ∃ held', D.Holding i s' l' held' := by
  obtain ⟨hdisciplined, hsorted, howns⟩ := holding
  cases h with
  | @locked m todo vars hfree =>
      refine ⟨m :: held, hdisciplined.2, List.pairwise_cons.mpr ⟨hdisciplined.1, hsorted⟩,
        fun other => ?_⟩
      by_cases hsame : other = m
      · subst hsame
        simp
      · simp [hsame, howns]
  | @unlocked m todo vars =>
      cases held with
      | nil => exact hdisciplined.elim
      | cons h held =>
          obtain ⟨rfl, hrest⟩ := hdisciplined
          refine ⟨held, hrest, hsorted.tail, fun other => ?_⟩
          by_cases hsame : other = h
          · subst hsame
            have hnot : other ∉ held := fun hmem =>
              Nat.lt_irrefl _ ((List.pairwise_cons.mp hsorted).1 other hmem)
            simp [hnot]
          · simp [hsame, howns]
  | @worked w todo vars x =>
      refine ⟨held, ?_, hsorted, howns⟩
      cases held with
      | nil => exact hdisciplined.2
      | cons => exact hdisciplined.2

/-- A step changes the owner of a mutex from nobody to itself or back. -/
theorem Holding.owner_step (holding : D.Holding i s l held) (h : P.Step i s l s' l' fs)
    (hne : i ≠ j) (m : Mutex) : s'.owner m = some j ↔ s.owner m = some j := by
  cases h with
  | @locked m' _ _ hfree =>
      by_cases hsame : m = m'
      · subst hsame
        simp [hfree, hne]
      · simp [hsame]
  | @unlocked m' =>
      by_cases hsame : m = m'
      · subst hsame
        have hown : s.owner m = some i := by
          cases held with
          | nil => exact holding.disciplined.elim
          | cons h held =>
              obtain ⟨rfl, -⟩ := holding.disciplined
              exact (holding.owns h).mpr List.mem_cons_self
        simp [hown, hne]
      · simp [hsame]
  | worked => rfl

theorem Holding.stable (holding : D.Holding i s l held) (h : P.Step i s l s' l' fs)
    (hne : i ≠ j) {others : List Mutex} (hother : D.Holding j s other others) :
    D.Holding j s' other others :=
  ⟨hother.disciplined, hother.sorted, fun m =>
    (holding.owner_step h hne m).trans (hother.owns m)⟩

/-- Whoever holds a mutex has been seen to take it. -/
def Taken (s : LockState Mutex Data) (es : List (ℕ × LockEvent Mutex Event)) : Prop :=
  ∀ i m, s.owner m = some i → (i, LockEvent.locked m) ∈ es

theorem Taken.step (taken : Taken s es) (h : P.Step i s l s' l' fs) :
    Taken s' (es ++ fs.map (i, ·)) := by
  intro j m howner
  cases h with
  | @locked m' _ _ hfree =>
      change Function.update s.owner m' (some i) m = some j at howner
      by_cases hsame : m = m'
      · subst hsame
        rw [Function.update_self, Option.some.injEq] at howner
        subst howner
        simp
      · rw [Function.update_of_ne hsame] at howner
        exact List.mem_append_left _ (taken j m howner)
  | @unlocked m' =>
      change Function.update s.owner m' none m = some j at howner
      by_cases hsame : m = m'
      · subst hsame
        rw [Function.update_self] at howner
        cases howner
      · rw [Function.update_of_ne hsame] at howner
        exact List.mem_append_left _ (taken j m howner)
  | worked => exact List.mem_append_left _ (taken j m howner)

/-- A call that was just made holds nothing. -/
theorem holding_enter (taken : Taken s es) (hfresh : ownEvents i es = []) (c : Call) :
    D.Holding i s (P.threads.enter c).1 [] := by
  refine ⟨D.disciplined c, List.Pairwise.nil, fun m => iff_of_false (fun howner => ?_) (by simp)⟩
  have hmem := mem_ownEvents.mpr (taken i m howner)
  rw [hfresh] at hmem
  cases hmem

variable (D) in
/-- Every call holds what it should. -/
theorem outline : P.threads.Outline Taken fun i s l _ => ∃ held, D.Holding i s l held where
  enters i c taken hfresh :=
    ⟨by simpa [threads] using taken, [], holding_enter taken hfresh c⟩
  steps taken holding h := by
    obtain ⟨held, holding⟩ := holding
    have hstep := step_of_threads h
    exact ⟨taken.step hstep, holding.step hstep⟩
  stable _ holding hother hne h := by
    obtain ⟨held, holding⟩ := holding
    obtain ⟨others, hother⟩ := hother
    exact ⟨others, holding.stable (step_of_threads h) hne hother⟩

/-! ## Progress -/

variable (D) in
/-- All calls hold what they should. -/
def Sound (p : Pool (LockState Mutex Data) (LockCall Mutex Work Local)) : Prop :=
  ∃ es : List (ℕ × LockEvent Mutex Event),
    Threads.Outlined Taken (fun i s l _ => ∃ held, D.Holding i s l held) p es

theorem Sound.step (sound : D.Sound p) {a : PoolAction Call Choice}
    {gs : List (ℕ × LockEvent Mutex Event)} (h : P.threads.machine.step p a gs q) : D.Sound q := by
  obtain ⟨es, inv⟩ := sound
  exact ⟨es ++ gs, D.outline.step inv (Threads.poolStep_of_step h)⟩

/-- A call that does not wait for a mutex can go on. -/
theorem exists_step_of_free (hget : p.locals[i]? = some l) (htodo : l.todo ≠ [])
    (hfree : ∀ m rest, l.todo = .lock m :: rest → p.shared.owner m = none) (x : Choice) :
    ∃ gs q, P.threads.machine.step p (.thread i x) gs q := by
  have hstep : ∃ r, P.threads.step i p.shared l x = some r := by
    obtain ⟨todo, vars⟩ := l
    cases todo with
    | nil => exact absurd rfl htodo
    | cons op todo =>
        cases op with
        | lock m => exact ⟨_, by simp [threads, hfree m todo rfl]; rfl⟩
        | unlock m => exact ⟨_, rfl⟩
        | work w => exact ⟨_, rfl⟩
  obtain ⟨⟨s', l', fs⟩, hstep⟩ := hstep
  refine ⟨fs.map (i, ·), ⟨s', p.locals.set i l'⟩, ?_⟩
  change P.threads.poolStep p (.thread i x) = _
  simp [Threads.poolStep, hget, hstep]

/-- Whoever waits for a mutex waits for somebody who waits for one of a higher rank, or for
somebody who can go on. -/
theorem Sound.exists_step_of_waiting (sound : D.Sound p) (x : Choice) {rest : List (LockOp Mutex Work)}
    (hget : p.locals[i]? = some l) (htodo : l.todo = .lock m :: rest) :
    ∃ j gs q, P.threads.machine.step p (.thread j x) gs q := by
  obtain ⟨es, inv⟩ := id sound
  induction hgap : D.bound - D.rank m using Nat.strongRecOn generalizing i l m rest with
  | ind gap ih =>
      cases howner : p.shared.owner m with
      | none =>
          refine ⟨i, exists_step_of_free hget (by rw [htodo]; exact List.cons_ne_nil _ _)
            (fun m' rest' hm' => ?_) x⟩
          rw [htodo] at hm'
          cases hm'
          exact howner
      | some j =>
          -- the holder has not returned, since it has yet to give the mutex back
          have hown := mem_ownEvents.mpr (inv.shared j m howner)
          have hlt : j < p.locals.length := by
            by_contra hge
            rw [inv.nobody j (by omega)] at hown
            cases hown
          have hholder := List.getElem?_eq_getElem hlt
          obtain ⟨held, holding⟩ := inv.each j _ hholder
          have hmem := (holding.owns m).mp howner
          have hdisciplined := holding.disciplined
          cases hops : p.locals[j].todo with
          | nil =>
              rw [hops] at hdisciplined
              rw [hdisciplined] at hmem
              cases hmem
          | cons op ops =>
              cases op with
              | lock m' =>
                  rw [hops] at hdisciplined
                  have hrank := hdisciplined.1 m hmem
                  have hle := D.rank_le m'
                  exact ih _ (by omega) hholder hops rfl
              | unlock m' | work w =>
                  refine ⟨j, exists_step_of_free hholder ?_ (fun m' rest' hm' => ?_) x⟩
                  · rw [hops]
                    exact List.cons_ne_nil _ _
                  · rw [hops] at hm'
                    cases hm'

/-- Some call can go on unless all have returned. -/
theorem Sound.progress (sound : D.Sound p) (x : Choice) :
    (∀ l ∈ p.locals, l.todo = []) ∨ ∃ j gs q, P.threads.machine.step p (.thread j x) gs q := by
  by_cases hdone : ∀ l ∈ p.locals, l.todo = []
  · exact .inl hdone
  · right
    push Not at hdone
    obtain ⟨l, hl, htodo⟩ := hdone
    obtain ⟨i, hget⟩ := List.mem_iff_getElem?.mp hl
    cases hops : l.todo with
    | nil => exact absurd hops htodo
    | cons op ops =>
        cases op with
        | lock m => exact sound.exists_step_of_waiting x hget hops
        | unlock m | work w =>
            refine ⟨i, exists_step_of_free hget htodo (fun m' rest' hm' => ?_) x⟩
            rw [hops] at hm'
            cases hm'

/-! ## Completion -/

/-- A step of a call. -/
def isThread : PoolAction Call Choice → Bool
  | .call _ => false
  | .thread _ _ => true

/-- What all calls have yet to do. -/
def load (p : Pool (LockState Mutex Data) (LockCall Mutex Work Local)) : ℕ :=
  (p.locals.map fun l => l.todo.length).sum

variable (P) in
/-- What a new call has to do. -/
def added : PoolAction Call Choice → ℕ
  | .call c => (P.ops c).length
  | .thread _ _ => 0

omit [DecidableEq Mutex] in
theorem sum_set_lt {ls : List (LockCall Mutex Work Local)} (hget : ls[i]? = some l)
    (hlt : l'.todo.length < l.todo.length) :
    ((ls.set i l').map fun l => l.todo.length).sum < (ls.map fun l => l.todo.length).sum := by
  induction ls generalizing i with
  | nil => cases hget
  | cons first ls ih =>
      cases i with
      | zero =>
          rw [List.getElem?_cons_zero, Option.some.injEq] at hget
          subst hget
          simpa using hlt
      | succ i => simpa using ih hget

theorem Step.length_lt (h : P.Step i s l s' l' fs) : l'.todo.length < l.todo.length := by
  cases h <;> exact Nat.lt_succ_self _

variable (D) in
/-- Each step of a call is one less to do. -/
theorem drains : P.threads.machine.Drains D.Sound isThread load (added P) where
  keeps sound h := sound.step h
  works {p a gs q} _ h hwork := by
    cases Threads.poolStep_of_step h with
    | call => cases hwork
    | thread hget hstep => exact sum_set_lt hget (Step.length_lt (step_of_threads hstep))
  adds {p a gs q} _ h hwork := by
    cases Threads.poolStep_of_step h with
    | call c => simp [load, added, threads]
    | thread => cases hwork

/-- All calls that were made can return, if they are given the time. -/
theorem Sound.exists_returned [Inhabited Choice] (sound : D.Sound p) :
    ∃ bs gs q, (P.threads.machine.restrict fun _ a => isThread a = true).Run p bs gs q ∧
      ∀ l ∈ q.locals, l.todo = [] := by
  refine D.drains.exists_done (fun r hsound hnot => ?_) sound
  obtain hdone | ⟨j, gs, q, h⟩ := hsound.progress default
  · exact absurd hdone hnot
  · exact ⟨_, _, _, .single ⟨rfl, h⟩, D.drains.works hsound h rfl⟩

/-! ## Exclusion -/

/-- As long as a mutex was not given back, its holder alone does what needs it. -/
def Exclusive (needs : Event → Prop) (m : Mutex) (s : LockState Mutex Data)
    (es : List (ℕ × LockEvent Mutex Event)) : Prop :=
  ∀ before i after, es = before ++ (i, LockEvent.locked m) :: after →
    (i, LockEvent.unlocked m) ∉ after →
    s.owner m = some i ∧ ∀ j e, (j, LockEvent.did e) ∈ after → needs e → j = i

variable {needs : Event → Prop}

/-- A step that takes a mutex does nothing else. -/
theorem Step.eq_of_locked (h : P.Step i s l s' l' fs) (hmem : LockEvent.locked m ∈ fs) :
    fs = [.locked m] ∧ s'.owner m = some i := by
  cases h with
  | locked =>
      cases List.mem_singleton.mp hmem
      exact ⟨rfl, Function.update_self ..⟩
  | unlocked => cases List.mem_singleton.mp hmem
  | worked =>
      obtain ⟨e, -, he⟩ := List.mem_map.mp hmem
      cases he

/-- A mutex stays with its holder until he gives it back. -/
theorem Holding.owner_kept (holding : D.Holding i s l held) (h : P.Step i s l s' l' fs) {k : ℕ}
    (howner : s.owner m = some k) (hkept : (k, LockEvent.unlocked m) ∉ fs.map (i, ·)) :
    s'.owner m = some k := by
  by_cases hik : i = k
  · subst hik
    cases h with
    | @locked m' _ _ hfree =>
        have hne : m ≠ m' := fun hsame => by
          rw [hsame, hfree] at howner
          cases howner
        exact (Function.update_of_ne hne ..).trans howner
    | @unlocked m' =>
        have hne : m ≠ m' := fun hsame => by
          subst hsame
          simp at hkept
        exact (Function.update_of_ne hne ..).trans howner
    | worked => exact howner
  · exact (holding.owner_step h hik m).mpr howner

/-- What needs a mutex is done by its holder. -/
theorem Holding.owner_of_did (holding : D.Holding i s l held) (h : P.Step i s l s' l' fs)
    (hneeds : ∀ d vars w x e, e ∈ (P.run d vars w x).2.2 → needs e → m ∈ D.needs w) {e : Event}
    (hmem : LockEvent.did e ∈ fs) (he : needs e) : s.owner m = some i := by
  obtain ⟨hdisciplined, -, howns⟩ := holding
  cases h with
  | locked | unlocked => cases List.mem_singleton.mp hmem
  | @worked w todo vars x =>
      obtain ⟨e', he', heq⟩ := List.mem_map.mp hmem
      cases heq
      have hw := hneeds _ _ _ _ e he' he
      refine (howns m).mpr ?_
      cases held with
      | nil => exact hdisciplined.1 m hw
      | cons => exact hdisciplined.1 m hw

theorem Exclusive.step (exclusive : Exclusive needs m s es) (holding : D.Holding i s l held)
    (hneeds : ∀ d vars w x e, e ∈ (P.run d vars w x).2.2 → needs e → m ∈ D.needs w)
    (h : P.Step i s l s' l' fs) : Exclusive needs m s' (es ++ fs.map (i, ·)) := by
  intro before k after hsplit hkept
  -- the mutex was taken in this step, or before it
  have hcases : (∃ between, fs.map (i, ·) = between ++ (k, LockEvent.locked m) :: after) ∨
      ∃ rest, es = before ++ (k, LockEvent.locked m) :: rest ∧ after = rest ++ fs.map (i, ·) := by
    rcases List.append_eq_append_iff.mp hsplit with ⟨between, -, hnew⟩ | ⟨old, hold, hrest⟩
    · exact .inl ⟨between, hnew⟩
    · cases old with
      | nil => exact .inl ⟨[], hrest.symm⟩
      | cons first rest =>
          obtain ⟨rfl, rfl⟩ := List.cons_eq_cons.mp hrest
          exact .inr ⟨rest, hold, rfl⟩
  rcases hcases with ⟨between, hnew⟩ | ⟨rest, hold, rfl⟩
  · have hmem : (k, LockEvent.locked m) ∈ fs.map (i, ·) := by simp [hnew]
    obtain ⟨e, he, heq⟩ := List.mem_map.mp hmem
    cases heq
    obtain ⟨rfl, howner⟩ := Step.eq_of_locked h he
    have hlength := congrArg List.length hnew
    simp only [List.map_cons, List.map_nil, List.length_cons, List.length_nil,
      List.length_append] at hlength
    have hnil : after = [] := List.length_eq_zero_iff.mp (by omega)
    exact ⟨howner, by simp [hnil]⟩
  · rw [List.mem_append, not_or] at hkept
    obtain ⟨howner, hdid⟩ := exclusive before k rest hold hkept.1
    refine ⟨holding.owner_kept h howner hkept.2, fun j e hmem he => ?_⟩
    rcases List.mem_append.mp hmem with hbefore | hnow
    · exact hdid j e hbefore he
    · obtain ⟨e', he', heq⟩ := List.mem_map.mp hnow
      cases heq
      have hholder := holding.owner_of_did h hneeds he' he
      rw [howner, Option.some.injEq] at hholder
      exact hholder.symm

/-- The state before the first call. -/
def start (data : Data) : LockState Mutex Data := ⟨fun _ => none, data⟩

variable (D) in
theorem outlined_of_run (run : P.threads.machine.Run ⟨start data, []⟩ as es p) :
    Threads.Outlined Taken (fun i s l _ => ∃ held, D.Holding i s l held) p es :=
  D.outline.of_run run fun _ _ howner => by cases howner

variable (D) in
/-- From the step that takes a mutex to the one that gives it back, nobody else does anything
that needs it. -/
theorem exclusive_of_run (run : P.threads.machine.Run ⟨start data, []⟩ as es p)
    (hneeds : ∀ d vars w x e, e ∈ (P.run d vars w x).2.2 → needs e → m ∈ D.needs w) :
    Exclusive needs m p.shared es := by
  generalize hstart : (⟨start data, []⟩ : Pool _ _) = first at run
  induction run with
  | refl =>
      subst hstart
      intro before i after hsplit
      simp at hsplit
  | @tail t u as a es gs before h ih =>
      subst hstart
      have inv := D.outlined_of_run before
      have hbefore := ih
      cases Threads.poolStep_of_step h with
      | call c => simpa [threads] using hbefore
      | @thread i x l l' s' fs hget hstep =>
          obtain ⟨held, holding⟩ := inv.each i l hget
          exact hbefore.step holding hneeds (step_of_threads hstep)

end LockDiscipline
