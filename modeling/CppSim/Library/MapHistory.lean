import Mathlib.Data.List.AList
import Mathlib.Data.Set.Card

/-!
# The history of a finite map

A finite map is what is left of the operations on it: insertions, removals, and clearing.
`InForce ops k v` says that `v` was inserted under `k` and that nothing has happened to `k`
since; `lookup_replay` says that the map holds exactly the insertions in force.

`Explained P es` says that each event of a history satisfies `P` against the events before
it.  It is what an observer can check of a component whose events are its answers.
-/

variable {K V : Type*}

/-- An operation on a map. -/
inductive MapOp (K V : Type*)
  | insert (key : K) (value : V)
  | erase (key : K)
  | clear

/-- The operation changes what is stored under the key, or may. -/
def MapOp.Touches (key : K) : MapOp K V → Prop
  | insert k _ | erase k => k = key
  | clear => True

/-- The last operation that touched the key inserted this value. -/
def InForce (ops : List (MapOp K V)) (key : K) (value : V) : Prop :=
  ∃ before after, ops = before ++ .insert key value :: after ∧ ∀ op ∈ after, ¬ op.Touches key

theorem not_inForce_nil (key : K) (value : V) : ¬ InForce [] key value := by
  rintro ⟨before, after, hops, -⟩
  simp at hops

theorem inForce_append_singleton {ops : List (MapOp K V)} {op : MapOp K V} {key : K} {value : V} :
    InForce (ops ++ [op]) key value ↔
      op = .insert key value ∨ ¬ op.Touches key ∧ InForce ops key value := by
  constructor
  · rintro ⟨before, after, hops, hafter⟩
    rcases List.eq_nil_or_concat after with rfl | ⟨init, last, rfl⟩
    · obtain ⟨-, hop⟩ := List.append_inj' hops rfl
      exact .inl (List.singleton_inj.mp hop)
    · rw [List.concat_eq_append, ← List.cons_append, ← List.append_assoc] at hops
      obtain ⟨hinit, hop⟩ := List.append_inj' hops rfl
      obtain rfl := List.singleton_inj.mp hop
      have hinForce : InForce ops key value :=
        ⟨before, init, hinit, fun other hother => hafter other (by simp [hother])⟩
      exact .inr ⟨hafter op (by simp), hinForce⟩
  · rintro (rfl | ⟨htouches, before, after, rfl, hafter⟩)
    · exact ⟨ops, [], rfl, by simp⟩
    · refine ⟨before, after ++ [op], by simp, fun other hother => ?_⟩
      rcases List.mem_append.mp hother with hother | hother
      · exact hafter other hother
      · rw [List.mem_singleton.mp hother]
        exact htouches

section Replay

variable [DecidableEq K]

/-- Carry out one operation. -/
def MapOp.apply (map : AList fun _ : K => V) : MapOp K V → AList fun _ : K => V
  | .insert key value => map.insert key value
  | .erase key => map.erase key
  | .clear => ∅

/-- The map after the operations. -/
def replay (ops : List (MapOp K V)) : AList fun _ : K => V := ops.foldl MapOp.apply ∅

theorem replay_append_singleton (ops : List (MapOp K V)) (op : MapOp K V) :
    replay (ops ++ [op]) = op.apply (replay ops) := by
  rw [replay, List.foldl_append]
  rfl

/-- The map holds the insertions in force. -/
theorem lookup_replay {ops : List (MapOp K V)} {key : K} {value : V} :
    (replay ops).lookup key = some value ↔ InForce ops key value := by
  induction ops using List.reverseRec with
  | nil => exact iff_of_false (by simp [replay]) (not_inForce_nil key value)
  | append_singleton ops op ih =>
      rw [replay_append_singleton, inForce_append_singleton, ← ih]
      cases op with
      | insert k v =>
          by_cases hkey : k = key
          · subst hkey
            simp [MapOp.apply, MapOp.Touches]
          · simp [MapOp.apply, MapOp.Touches, hkey, AList.lookup_insert_ne (Ne.symm hkey)]
      | erase k =>
          by_cases hkey : k = key
          · subst hkey
            simp [MapOp.apply, MapOp.Touches]
          · simp [MapOp.apply, MapOp.Touches, hkey, AList.lookup_erase_ne (Ne.symm hkey)]
      | clear => simp [MapOp.apply, MapOp.Touches]

/-- The keys of the map are those with an insertion in force. -/
theorem mem_replay {ops : List (MapOp K V)} {key : K} :
    key ∈ replay ops ↔ ∃ value, InForce ops key value := by
  rw [← AList.lookup_isSome, Option.isSome_iff_exists]
  exact exists_congr fun value => lookup_replay

/-- The size of the map is the number of keys with an insertion in force. -/
theorem length_entries_replay (ops : List (MapOp K V)) :
    (replay ops).entries.length = {key | ∃ value, InForce ops key value}.ncard := by
  have hkeys : {key | ∃ value, InForce ops key value} = ↑(replay ops).keys.toFinset := by
    ext key
    rw [Set.mem_ofPred_eq, ← mem_replay, Finset.mem_coe, List.mem_toFinset]
    rfl
  rw [hkeys, Set.ncard_coe_finset, List.toFinset_card_of_nodup (replay ops).keys_nodup]
  exact (List.length_map _).symm

end Replay

/-! ## Histories that explain their events -/

variable {Event : Type*}

/-- Each event satisfies the condition against the events before it. -/
def Explained (P : List Event → Event → Prop) (es : List Event) : Prop :=
  ∀ before e after, es = before ++ e :: after → P before e

theorem explained_nil (P : List Event → Event → Prop) : Explained P [] := by
  intro before e after h
  simp at h

theorem Explained.append_singleton {P : List Event → Event → Prop} {es : List Event} {e : Event}
    (h : Explained P es) (he : P es e) : Explained P (es ++ [e]) := by
  intro before e' after hes
  rcases List.eq_nil_or_concat after with rfl | ⟨init, last, rfl⟩
  · obtain ⟨rfl, hlast⟩ := List.append_inj' hes rfl
    rw [← List.singleton_inj.mp hlast]
    exact he
  · rw [List.concat_eq_append, ← List.cons_append, ← List.append_assoc] at hes
    exact h before e' init (List.append_inj' hes rfl).1
