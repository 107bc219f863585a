import CppSim.Common.Text

/-!
# The version grammar

`is_valid_protocol_version` recognizes `v{major}.{minor}` by hand: a guard on the length,
the position of the first dot, and a loop over the digits on either side of it.

A read of `version[i]` is an `Option` here, which is `none` out of bounds.
`versionGrammar` says that the recognizer never reads out of bounds and that it accepts the
documented form and nothing else.
-/

namespace CppSim.Protocol

/-! ## The recognizer -/

/-- The loop over `n` digits from index `i` on. -/
def digitsFrom (version : Text) (i : ℕ) : ℕ → Option Bool
  | 0 => some true
  | n + 1 => do
      let c ← version[i]?
      if c < 48 || c > 57 then some false else digitsFrom version (i + 1) n

/-- `is_valid_protocol_version`. -/
def isValidProtocolVersion (version : Text) : Option Bool :=
  if version = [] then some false
  else if version.length < 4 then some false
  else do
    let c ← version[0]?
    if c ≠ 118 then some false
    else
      match version.idxOf? 46 with
      | none => some false
      | some dotPos =>
          if dotPos < 2 || dotPos == version.length - 1 then some false
          else do
            let major ← digitsFrom version 1 (dotPos - 1)
            if major then digitsFrom version (dotPos + 1) (version.length - (dotPos + 1))
            else some false

/-! ## The documented form -/

/-- One or more decimal digits. -/
def IsNumeral (s : Text) : Prop := s ≠ [] ∧ ∀ c ∈ s, 48 ≤ c ∧ c ≤ 57

/-- `v{major}.{minor}`. -/
def IsVersion (version : Text) : Prop :=
  ∃ major minor, version = text "v" ++ major ++ text "." ++ minor ∧ IsNumeral major ∧
    IsNumeral minor

/-! ## The loops -/

theorem digitsFrom_eq {version : Text} {i n : ℕ} (h : i + n ≤ version.length) :
    digitsFrom version i n =
      some (((version.drop i).take n).all fun c => decide (48 ≤ c ∧ c ≤ 57)) := by
  induction n generalizing i with
  | zero => simp [digitsFrom]
  | succ n ih =>
      have hi : i < version.length := by omega
      rw [digitsFrom, List.getElem?_eq_getElem hi, List.drop_eq_getElem_cons hi, List.take_succ_cons,
        List.all_cons, ih (by omega)]
      by_cases hdigit : 48 ≤ version[i] ∧ version[i] ≤ 57
      · have hlow : ¬ version[i] < 48 := UInt8.not_lt.mpr hdigit.1
        have hhigh : ¬ version[i] > 57 := UInt8.not_lt.mpr hdigit.2
        simp [hdigit, hlow, hhigh]
      · have hother : version[i] < 48 ∨ version[i] > 57 := by
          rw [not_and_or, UInt8.not_le, UInt8.not_le] at hdigit
          exact hdigit
        simp [hdigit, hother]

/-- Past the guards, the recognizer looks at what is before the first dot and after it. -/
theorem isValidProtocolVersion_cons {major minor : Text} (hmajor : major ≠ []) (hminor : minor ≠ [])
    (hdot : 46 ∉ major) :
    isValidProtocolVersion (118 :: (major ++ 46 :: minor)) =
      some (major.all (fun c => decide (48 ≤ c ∧ c ≤ 57)) &&
        minor.all (fun c => decide (48 ≤ c ∧ c ≤ 57))) := by
  have hmajor' := List.length_pos_iff.mpr hmajor
  have hminor' := List.length_pos_iff.mpr hminor
  have hlength : (118 :: (major ++ 46 :: minor)).length = major.length + minor.length + 2 := by
    simp only [List.length_cons, List.length_append]
    omega
  have hfind : (118 :: (major ++ 46 :: minor)).idxOf? 46 = some (major.length + 1) := by
    rw [List.idxOf?_eq_some_iff]
    refine ⟨by omega, by simp, ?_⟩
    intro j hj
    cases j with
    | zero => simp
    | succ j =>
        have hmem : major[j] ∈ major := List.getElem_mem (by omega)
        intro hget
        rw [List.getElem_cons_succ, List.getElem_append_left (by omega)] at hget
        exact hdot (hget ▸ hmem)
  have hguard : ¬ (118 :: (major ++ 46 :: minor)).length < 4 := by omega
  have hdotPos : (decide (major.length + 1 < 2) ||
      major.length + 1 == (118 :: (major ++ 46 :: minor)).length - 1) = false := by
    rw [hlength, Bool.or_eq_false_iff, decide_eq_false_iff_not, beq_eq_false_iff_ne]
    omega
  rw [isValidProtocolVersion, if_neg (by simp), if_neg hguard]
  simp only [List.getElem?_cons_zero, Option.bind_eq_bind, Option.bind_some, ne_eq,
    not_true_eq_false, if_false, hfind, hdotPos, Bool.false_eq_true]
  have hbefore : ((118 :: (major ++ 46 :: minor)).drop 1).take (major.length + 1 - 1) = major := by
    simp
  have hafter : (118 :: (major ++ 46 :: minor)).drop (major.length + 1 + 1) = minor := by
    simp
  have htake : minor.take (major.length + minor.length + 2 - (major.length + 1 + 1)) = minor :=
    List.take_of_length_le (by omega)
  rw [digitsFrom_eq (by omega), digitsFrom_eq (by omega), hbefore, hafter, hlength, htake]
  cases major.all fun c => decide (48 ≤ c ∧ c ≤ 57) <;> rfl

/-- A `v`, a part before the first dot and one after it. -/
def SplitsAtDot (version major minor : Text) : Prop :=
  version = 118 :: (major ++ 46 :: minor) ∧ major ≠ [] ∧ minor ≠ [] ∧ 46 ∉ major

theorem IsNumeral.not_mem_dot {s : Text} (h : IsNumeral s) : 46 ∉ s := by
  intro hmem
  exact absurd (h.2 46 hmem).1 (by decide)

theorem isVersion_iff {version : Text} :
    IsVersion version ↔
      ∃ major minor, SplitsAtDot version major minor ∧ IsNumeral major ∧ IsNumeral minor := by
  have hv : text "v" = [118] := rfl
  have hdot : text "." = [46] := rfl
  constructor
  · rintro ⟨major, minor, rfl, hmajor, hminor⟩
    exact ⟨major, minor, ⟨by simp [hv, hdot], hmajor.1, hminor.1, hmajor.not_mem_dot⟩, hmajor, hminor⟩
  · rintro ⟨major, minor, ⟨rfl, -⟩, hmajor, hminor⟩
    exact ⟨major, minor, by simp [hv, hdot], hmajor, hminor⟩

/-- The first dot is in one place. -/
theorem SplitsAtDot.unique {version major minor major' minor' : Text}
    (h : SplitsAtDot version major minor) (h' : SplitsAtDot version major' minor') :
    major = major' ∧ minor = minor' := by
  obtain ⟨rfl, -, -, hdot⟩ := h
  obtain ⟨hsame, -, -, hdot'⟩ := h'
  have hbefore : ∀ {before : Text} (after : Text), 46 ∉ before →
      (before ++ 46 :: after).takeWhile (· != 46) = before := by
    intro before after hnot
    rw [List.takeWhile_append_of_pos]
    · simp
    · intro c hc
      simpa using fun heq : c = 46 => hnot (heq ▸ hc)
  have htails := List.tail_eq_of_cons_eq hsame
  have hmajor : major = major' := by
    rw [← hbefore minor hdot, htails, hbefore minor' hdot']
  refine ⟨hmajor, ?_⟩
  rw [hmajor] at htails
  exact List.tail_eq_of_cons_eq (List.append_cancel_left htails)

/-- A string that is not cut so fails one of the guards. -/
theorem isValidProtocolVersion_eq_false {version : Text}
    (h : ¬ ∃ major minor, SplitsAtDot version major minor) :
    isValidProtocolVersion version = some false := by
  unfold isValidProtocolVersion
  by_cases hempty : version = []
  · rw [if_pos hempty]
  rw [if_neg hempty]
  by_cases hshort : version.length < 4
  · rw [if_pos hshort]
  rw [if_neg hshort, List.getElem?_eq_getElem (by omega)]
  simp only [Option.bind_eq_bind, Option.bind_some]
  by_cases hv : version[0] ≠ 118
  · rw [if_pos hv]
  rw [if_neg hv]
  split
  · rfl
  · rename_i dotPos hfind
    split
    · rfl
    · rename_i hdotPos
      simp only [Bool.or_eq_true, decide_eq_true_eq, beq_iff_eq, not_or] at hdotPos
      obtain ⟨hlt, hdot, hfirst⟩ := List.idxOf?_eq_some_iff.mp hfind
      refine absurd ⟨(version.drop 1).take (dotPos - 1), version.drop (dotPos + 1), ?_, ?_, ?_, ?_⟩ h
      · have hdrop : (version.drop 1).drop (dotPos - 1) = 46 :: version.drop (dotPos + 1) := by
          rw [List.drop_drop, show 1 + (dotPos - 1) = dotPos by omega,
            List.drop_eq_getElem_cons hlt, hdot]
        rw [← hdrop, List.take_append_drop]
        calc version = version.drop 0 := rfl
          _ = version[0] :: version.drop 1 := List.drop_eq_getElem_cons (by omega)
          _ = 118 :: version.drop 1 := by rw [not_not.mp hv]
      · rw [← List.length_pos_iff, List.length_take, List.length_drop]
        omega
      · rw [← List.length_pos_iff, List.length_drop]
        omega
      · intro hmem
        obtain ⟨j, hj, hget⟩ := List.mem_iff_getElem.mp hmem
        rw [List.length_take, List.length_drop] at hj
        rw [List.getElem_take, List.getElem_drop] at hget
        exact hfirst (1 + j) (by omega) hget

/-- The recognizer reads no index out of bounds, and it accepts exactly the documented form. -/
theorem versionGrammar (version : Text) :
    (isValidProtocolVersion version).isSome = true ∧
      (isValidProtocolVersion version = some true ↔ IsVersion version) := by
  by_cases hsplits : ∃ major minor, SplitsAtDot version major minor
  · obtain ⟨major, minor, hsplit⟩ := hsplits
    have hversion : IsVersion version ↔ IsNumeral major ∧ IsNumeral minor := by
      rw [isVersion_iff]
      constructor
      · rintro ⟨major', minor', hsplit', hmajor, hminor⟩
        obtain ⟨rfl, rfl⟩ := hsplit.unique hsplit'
        exact ⟨hmajor, hminor⟩
      · rintro ⟨hmajor, hminor⟩
        exact ⟨major, minor, hsplit, hmajor, hminor⟩
    obtain ⟨rfl, hmajor, hminor, hdot⟩ := hsplit
    rw [hversion, isValidProtocolVersion_cons hmajor hminor hdot]
    simp [IsNumeral, hmajor, hminor]
  · rw [isValidProtocolVersion_eq_false hsplits, isVersion_iff]
    refine ⟨rfl, ⟨nofun, ?_⟩⟩
    rintro ⟨major, minor, hsplit, -⟩
    exact absurd ⟨major, minor, hsplit⟩ hsplits

/-- The version of the protocol is one, and a second dot is not taken for a digit. -/
example : isValidProtocolVersion (text "v1.0") = some true ∧
    isValidProtocolVersion (text "v1.0.2") = some false := by
  decide

end CppSim.Protocol
