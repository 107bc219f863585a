import CppSim.Common.Json

/-!
# What the library reads back

Printing a value and parsing the print gives the value back, except that a printed
integer does not say in which kind it was stored: a nonnegative one is read back as
unsigned.  `Json.reread` is the value that is read back, and `JsonLib.Rereads` says
that a library does so for a value whose strings are valid UTF-8.

A value that has been read back looks like the value that was printed:

* `field?_reread`: it has the same fields, each read back;
* `getString_reread`, `getInt64_reread`, …: a scalar is taken apart to the same result;
* `getVector_reread`: so is an array whose items are.
-/

namespace CppSim

@[simp] theorem text_inj {a b : String} : text a = text b ↔ a = b := text_injective.eq_iff

theorem isUtf8_text (literal : String) : IsUtf8 (text literal) := ⟨literal.toList, rfl⟩

namespace Json

/-! ## The fields of an object that is built -/

theorem find?_insertField {key k : Text} {value : Json} {fields : List (Text × Json)} :
    ((insertField key value fields).find? fun entry => entry.1 = k) =
      if key = k then some (key, value) else fields.find? fun entry => entry.1 = k := by
  by_cases hk : key = k
  · subst hk
    rw [if_pos rfl]
    induction fields with
    | nil => simp [insertField]
    | cons entry rest ih =>
        simp only [insertField]
        split
        · simp
        · rename_i hkey
          split
          · simp
          · simpa [Ne.symm hkey] using ih
  · rw [if_neg hk]
    induction fields with
    | nil => simp [insertField, hk]
    | cons entry rest ih =>
        simp only [insertField]
        split
        · rename_i hkey
          simp [hk, ← hkey]
        · split
          · simp [hk]
          · simp [List.find?_cons, ih]

/-- The last of the fields with the key is the field of the object. -/
theorem field?_ofFields {fields : List (Text × Json)} {key : Text} :
    (ofFields fields).field? key =
      (fields.reverse.find? fun entry => entry.1 = key).map Prod.snd := by
  simp only [ofFields, field?]
  congr 1
  induction fields using List.reverseRec with
  | nil => rfl
  | append_singleton fields entry ih =>
      rw [List.foldl_append, List.foldl_cons, List.foldl_nil, find?_insertField, ih,
        List.reverse_append, List.reverse_singleton, List.singleton_append, List.find?_cons]
      by_cases hkey : entry.1 = key
      · simp [← hkey]
      · simp [hkey]

/-- Where no key is given twice, each of the fields is a field of the object. -/
theorem field?_ofFields_of_mem {fields : List (Text × Json)} {key : Text} {value : Json}
    (hkeys : (fields.map Prod.fst).Nodup) (hmem : (key, value) ∈ fields) :
    (ofFields fields).field? key = some value := by
  rw [field?_ofFields]
  have hfind : (fields.reverse.find? fun entry => entry.1 = key) = some (key, value) := by
    have hrev : (key, value) ∈ fields.reverse := List.mem_reverse.mpr hmem
    obtain ⟨entry, hentry⟩ : ∃ entry, (fields.reverse.find? fun entry => entry.1 = key) = some entry :=
      Option.isSome_iff_exists.mp (List.find?_isSome.mpr ⟨_, hrev, by simp⟩)
    have hkey : entry.1 = key := by simpa using List.find?_some hentry
    have hin : entry ∈ fields := List.mem_reverse.mp (List.mem_of_find?_eq_some hentry)
    rw [hentry, List.inj_on_of_nodup_map hkeys hin hmem hkey]
  rw [hfind, Option.map_some]

/-- The value is an object. -/
def IsObject (j : Json) : Prop := ∃ fields, j = .object fields

theorem isObject_ofFields (fields : List (Text × Json)) : (ofFields fields).IsObject := ⟨_, rfl⟩

theorem field?_setField_of_ne {j value : Json} {key k : Text} (hne : key ≠ k) :
    (j.setField key value).field? k = j.field? k := by
  cases j with
  | object fields => simp only [setField, field?, find?_insertField, if_neg hne]
  | _ => rfl

/-! ## Reading back -/

mutual

/-- The value that the print of a value is parsed to. -/
def reread : Json → Json
  | .integer i => if 0 ≤ i then .unsigned i.toUInt64 else .integer i
  | .array items => .array (rereadItems items)
  | .object fields => .object (rereadFields fields)
  | j => j

def rereadItems : List Json → List Json
  | [] => []
  | item :: items => item.reread :: rereadItems items

def rereadFields : List (Text × Json) → List (Text × Json)
  | [] => []
  | (key, value) :: fields => (key, value.reread) :: rereadFields fields

end

theorem rereadItems_eq_map (items : List Json) : rereadItems items = items.map reread := by
  induction items with
  | nil => rfl
  | cons item items ih => rw [rereadItems, ih, List.map_cons]

theorem rereadFields_eq_map (fields : List (Text × Json)) :
    rereadFields fields = fields.map fun entry => (entry.1, entry.2.reread) := by
  induction fields with
  | nil => rfl
  | cons entry fields ih => rw [rereadFields, ih, List.map_cons]

theorem field?_reread {j : Json} {key : Text} :
    j.reread.field? key = (j.field? key).map reread := by
  cases j with
  | object fields =>
      simp only [reread, field?, rereadFields_eq_map, List.find?_map, Option.map_map]
      rfl
  | integer i => simp only [reread]; split <;> rfl
  | _ => rfl

/-! ## Taking apart what was read back -/

theorem atKey_reread {j value : Json} {key : Text} (h : j.field? key = some value) :
    j.reread.atKey key = .ok value.reread := by
  apply atKey_of_field?
  rw [field?_reread, h, Option.map_some]

@[simp] theorem isNull_reread (j : Json) : j.reread.isNull = j.isNull := by
  cases j with
  | integer i => simp only [reread]; split <;> rfl
  | _ => rfl

theorem getString_reread_string (s : Text) : (reread (.string s)).getString = .ok s := rfl

theorem getBoolean_reread_boolean (value : Bool) :
    (reread (.boolean value)).getBoolean = .ok value := rfl

theorem getInt64_reread_integer (i : Int64) : (reread (.integer i)).getInt64 = .ok i := by
  simp only [reread]
  split
  · simp [getInt64]
  · rfl

theorem getInt32_reread_integer (i : Int32) :
    (reread (.integer i.toInt64)).getInt32 = .ok i := by
  simp only [reread]
  split <;> simp [getInt32]

theorem isNumberInteger_reread_integer (i : Int64) :
    (reread (.integer i)).isNumberInteger = true := by
  simp only [reread]
  split <;> rfl

theorem isNumber_reread_integer (i : Int64) : (reread (.integer i)).isNumber = true := by
  simp only [reread]
  split <;> rfl

/-- An array is taken apart item by item. -/
theorem getVector_reread {T : Type} {get : Json → Except Exn T} {toJson : T → Json} {items : List T}
    (h : ∀ item ∈ items, get (toJson item).reread = .ok item) :
    (reread (.array (items.map toJson))).getVector get = .ok items := by
  rw [reread, rereadItems_eq_map, getVector, List.map_map]
  induction items with
  | nil => rfl
  | cons item items ih =>
      have hhead := h item List.mem_cons_self
      have htail := ih fun i hi => h i (List.mem_cons_of_mem _ hi)
      rw [List.map_cons, List.mapM_cons, Function.comp_apply, hhead, htail]
      rfl

/-! ## Strings -/

/-- Every string of the value is valid UTF-8, the keys of its objects included. -/
inductive StringsUtf8 : Json → Prop
  | null : StringsUtf8 .null
  | boolean (value : Bool) : StringsUtf8 (.boolean value)
  | integer (value : Int64) : StringsUtf8 (.integer value)
  | unsigned (value : UInt64) : StringsUtf8 (.unsigned value)
  | float (value : Double) : StringsUtf8 (.float value)
  | string {value : Text} (h : IsUtf8 value) : StringsUtf8 (.string value)
  | array {items : List Json} (h : ∀ item ∈ items, StringsUtf8 item) :
      StringsUtf8 (.array items)
  | object {fields : List (Text × Json)} (hkeys : ∀ entry ∈ fields, IsUtf8 entry.1)
      (hvalues : ∀ entry ∈ fields, StringsUtf8 entry.2) : StringsUtf8 (.object fields)

mutual

/-- Whether every string of the value is valid UTF-8. -/
def checkUtf8 : Json → Bool
  | .string value => decide (IsUtf8 value)
  | .array items => checkItems items
  | .object fields => checkFields fields
  | _ => true

def checkItems : List Json → Bool
  | [] => true
  | item :: items => item.checkUtf8 && checkItems items

def checkFields : List (Text × Json) → Bool
  | [] => true
  | (key, value) :: fields => decide (IsUtf8 key) && (value.checkUtf8 && checkFields fields)

end

theorem checkItems_eq_all (items : List Json) : checkItems items = items.all checkUtf8 := by
  induction items with
  | nil => rfl
  | cons item items ih => rw [checkItems, ih, List.all_cons]

theorem checkFields_eq_all (fields : List (Text × Json)) :
    checkFields fields = fields.all fun entry => decide (IsUtf8 entry.1) && entry.2.checkUtf8 := by
  induction fields with
  | nil => rfl
  | cons entry fields ih => rw [checkFields, ih, List.all_cons, Bool.and_assoc]

theorem StringsUtf8.checkUtf8 {j : Json} (h : j.StringsUtf8) : j.checkUtf8 = true := by
  induction h with
  | string h => exact decide_eq_true h
  | array _ ih =>
      rw [Json.checkUtf8, checkItems_eq_all, List.all_eq_true]
      exact ih
  | object hkeys _ ih =>
      rw [Json.checkUtf8, checkFields_eq_all, List.all_eq_true]
      intro entry hentry
      rw [Bool.and_eq_true, decide_eq_true_eq]
      exact ⟨hkeys entry hentry, ih entry hentry⟩
  | null | boolean | integer | unsigned | float => rfl

theorem stringsUtf8_string {value : Text} : StringsUtf8 (.string value) ↔ IsUtf8 value := by
  refine ⟨fun h => ?_, .string⟩
  cases h with
  | string h => exact h

theorem StringsUtf8.field? {j value : Json} {key : Text} (h : j.StringsUtf8)
    (hfield : j.field? key = some value) : value.StringsUtf8 := by
  cases h with
  | object hkeys hvalues =>
      obtain ⟨entry, hfind, rfl⟩ := Option.map_eq_some_iff.mp hfield
      exact hvalues entry (List.mem_of_find?_eq_some hfind)
  | _ => simp [Json.field?] at hfield

theorem StringsUtf8.isUtf8 {j value : Json} {key s : Text} (h : j.StringsUtf8)
    (hkey : j.atKey key = .ok value) (hstring : value.getString = .ok s) : IsUtf8 s := by
  have hvalue := h.field? (field?_of_atKey hkey)
  rw [eq_string_of_getString hstring] at hvalue
  exact stringsUtf8_string.mp hvalue

theorem mem_insertField {key : Text} {value : Json} {fields : List (Text × Json)}
    {entry : Text × Json} (h : entry ∈ insertField key value fields) :
    entry = (key, value) ∨ entry ∈ fields := by
  induction fields with
  | nil => exact Or.inl (List.mem_singleton.mp h)
  | cons head rest ih =>
      simp only [insertField] at h
      split at h
      · rcases List.mem_cons.mp h with hentry | hentry
        · exact Or.inl hentry
        · exact Or.inr (List.mem_cons_of_mem _ hentry)
      · split at h
        · exact List.mem_cons.mp h
        · rcases List.mem_cons.mp h with hentry | hentry
          · exact Or.inr (hentry ▸ List.mem_cons_self)
          · exact (ih hentry).imp_right (List.mem_cons_of_mem _)

theorem stringsUtf8_ofFields {fields : List (Text × Json)}
    (h : ∀ entry ∈ fields, IsUtf8 entry.1 ∧ entry.2.StringsUtf8) :
    (ofFields fields).StringsUtf8 := by
  have hmem : ∀ entry ∈ fields.foldl (fun entries entry => insertField entry.1 entry.2 entries) [],
      entry ∈ fields := by
    induction fields using List.reverseRec with
    | nil => exact fun entry => id
    | append_singleton fields last ih =>
        intro entry hentry
        rw [List.foldl_append, List.foldl_cons, List.foldl_nil] at hentry
        rcases mem_insertField hentry with rfl | hentry
        · exact List.mem_append_right _ List.mem_cons_self
        · exact List.mem_append_left _
            (ih (fun e he => h e (List.mem_append_left _ he)) entry hentry)
  exact .object (fun entry hentry => (h entry (hmem entry hentry)).1)
    fun entry hentry => (h entry (hmem entry hentry)).2

theorem stringsUtf8_setField {j value : Json} {key : Text} (hj : j.StringsUtf8) (hkey : IsUtf8 key)
    (hvalue : value.StringsUtf8) : (j.setField key value).StringsUtf8 := by
  cases hj with
  | object hkeys hvalues =>
      refine .object ?_ ?_
      · intro entry hentry
        rcases mem_insertField hentry with rfl | hentry
        · exact hkey
        · exact hkeys entry hentry
      · intro entry hentry
        rcases mem_insertField hentry with rfl | hentry
        · exact hvalue
        · exact hvalues entry hentry
  | string h => exact .string h
  | array h => exact .array h
  | null | boolean | integer | unsigned | float => constructor

theorem StringsUtf8.reread {j : Json} (h : j.StringsUtf8) : j.reread.StringsUtf8 := by
  induction h with
  | integer value =>
      simp only [Json.reread]
      split <;> constructor
  | string h => exact .string h
  | array h ih =>
      rw [Json.reread, rereadItems_eq_map]
      refine .array ?_
      intro _ hmem
      obtain ⟨item, hitem, rfl⟩ := List.mem_map.mp hmem
      exact ih item hitem
  | object hkeys hvalues ih =>
      rw [Json.reread, rereadFields_eq_map]
      refine .object ?_ ?_
      · intro _ hmem
        obtain ⟨entry, hentry, rfl⟩ := List.mem_map.mp hmem
        exact hkeys entry hentry
      · intro _ hmem
        obtain ⟨entry, hentry, rfl⟩ := List.mem_map.mp hmem
        exact ih entry hentry
  | null | boolean | unsigned | float => constructor

end Json

/-- The library prints the value when its strings are UTF-8, and reads the print back. -/
def JsonLib.Rereads (lib : JsonLib) (j : Json) : Prop :=
  j.StringsUtf8 → ∃ s, lib.dump j = .ok s ∧ lib.parse s = .ok j.reread

/-- The library prints every value whose strings are UTF-8. -/
def JsonLib.PrintsUtf8 (lib : JsonLib) : Prop :=
  ∀ j : Json, j.StringsUtf8 → ∃ s, lib.dump j = .ok s

/-- Every string the library parses is valid UTF-8. -/
def JsonLib.ParsesUtf8 (lib : JsonLib) : Prop :=
  ∀ s j, lib.parse s = .ok j → j.StringsUtf8

/-! ## A library that reads back -/

/-- The print does not show in which kind an integer is stored. -/
theorem Json.print_reread (depth : ℕ) (j : Json) : j.reread.print depth = j.print depth := by
  induction depth generalizing j with
  | zero => simp [print]
  | succ depth ih =>
      cases j with
      | integer i =>
          simp only [reread]
          split
          · rename_i hi
            have htoNat : (i.toUInt64.toNat : ℤ) = i.toInt := by
              rw [Int64.toNat_toUInt64_of_le hi]
              exact Int.toNat_of_nonneg (Int64.le_iff_toInt_le.mp hi)
            simp only [print, htoNat]
          · rfl
      | array items =>
          simp only [reread, print, rereadItems_eq_map, List.map_map, Function.comp_def, ih]
      | object fields =>
          simp only [reread, print, rereadFields_eq_map, List.map_map, Function.comp_def, ih]
      | _ => rfl

theorem JsonLib.printsUtf8_knowing (values : List Json) : (JsonLib.knowing values).PrintsUtf8 :=
  fun _ _ => ⟨_, rfl⟩

theorem JsonLib.parsesUtf8_knowing {values : List Json} (h : ∀ j ∈ values, j.StringsUtf8) :
    (JsonLib.knowing values).ParsesUtf8 := by
  intro s j hparse
  simp only [JsonLib.knowing] at hparse
  split at hparse
  · rename_i value hfind
    obtain rfl : value = j := Except.ok.inj hparse
    exact h value (List.mem_of_find?_eq_some hfind)
  · cases hparse

theorem JsonLib.rereads_knowing (j : Json) : (JsonLib.knowing [j.reread]).Rereads j := by
  intro _
  refine ⟨j.print 4, rfl, ?_⟩
  rw [← Json.print_reread]
  exact JsonLib.parse_knowing_cons_self _ _

end CppSim
