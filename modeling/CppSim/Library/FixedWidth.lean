import Mathlib.Algebra.Ring.Nat
import Mathlib.Data.List.Basic
import Mathlib.Tactic.Common

/-!
# Decimal fields of fixed width

`decimal w n` are the last `w` digits of `n` in ASCII.  Texts that are made of such fields, with
the same separators at the same places, compare as the lists of their values do
(`render_lt`).
-/

namespace FixedWidth

/-- The last `w` decimal digits of a number. -/
def decimal : ℕ → ℕ → List UInt8
  | 0, _ => []
  | w + 1, n => decimal w (n / 10) ++ [.ofNat (48 + n % 10)]

/-- Fields of the given widths, with what follows each of them. -/
def render : List (ℕ × List UInt8) → List ℕ → List UInt8
  | (width, separator) :: layout, v :: vs => decimal width v ++ (separator ++ render layout vs)
  | _, _ => []

/-- The values fit into their fields. -/
def Fits : List (ℕ × List UInt8) → List ℕ → Prop
  | (width, _) :: layout, v :: vs => v < 10 ^ width ∧ Fits layout vs
  | [], [] => True
  | _, _ => False

@[simp] theorem length_decimal (w n : ℕ) : (decimal w n).length = w := by
  induction w generalizing n with
  | zero => rfl
  | succ w ih => rw [decimal, List.length_append, ih, List.length_singleton]

/-- Every byte is a digit. -/
theorem mem_decimal {w n : ℕ} {c : UInt8} (h : c ∈ decimal w n) : 48 ≤ c.toNat ∧ c.toNat < 58 := by
  induction w generalizing n with
  | zero => cases h
  | succ w ih =>
      rcases List.mem_append.mp h with hmem | hlast
      · exact ih hmem
      · rw [List.mem_singleton.mp hlast, UInt8.toNat_ofNat']
        omega

theorem length_render {layout : List (ℕ × List UInt8)} {vs : List ℕ} (h : Fits layout vs) :
    (render layout vs).length = (layout.map fun field => field.1 + field.2.length).sum := by
  induction layout generalizing vs with
  | nil => rfl
  | cons field layout ih =>
      cases vs with
      | nil => exact h.elim
      | cons v vs => simp [render, ih h.2, Nat.add_assoc]

/-- A digit counts before all that follows. -/
private theorem append_lt_append (xs : List UInt8) {ys zs : List UInt8} (h : ys < zs) :
    xs ++ ys < xs ++ zs := by
  induction xs with
  | nil => exact h
  | cons x xs ih => exact List.cons_lt_cons_iff.mpr (.inr ⟨rfl, ih⟩)

/-- The field of a smaller number comes first, whatever follows. -/
theorem decimal_append_lt {w m n : ℕ} (hlt : m < n) (hn : n < 10 ^ w) (ys zs : List UInt8) :
    decimal w m ++ ys < decimal w n ++ zs := by
  induction w generalizing m n ys zs with
  | zero => omega
  | succ w ih =>
      rw [decimal, decimal, List.append_assoc, List.append_assoc]
      rcases Nat.lt_or_ge (m / 10) (n / 10) with hhigh | hle
      · exact ih hhigh (by rw [Nat.pow_succ] at hn; omega) _ _
      · have hsame : m / 10 = n / 10 := by omega
        rw [hsame]
        refine append_lt_append _ (List.cons_lt_cons_iff.mpr (.inl ?_))
        rw [UInt8.lt_iff_toNat_lt, UInt8.toNat_ofNat', UInt8.toNat_ofNat']
        omega

/-- Texts of the same layout compare as their values. -/
theorem render_lt {layout : List (ℕ × List UInt8)} {vs ws : List ℕ} (hvs : Fits layout vs)
    (hws : Fits layout ws) (h : vs < ws) : render layout vs < render layout ws := by
  induction layout generalizing vs ws with
  | nil =>
      cases vs with
      | cons v vs => exact hvs.elim
      | nil =>
          cases ws with
          | cons w ws => exact hws.elim
          | nil => exact absurd h (List.lt_irrefl _)
  | cons field layout ih =>
      cases vs with
      | nil => exact hvs.elim
      | cons v vs =>
          cases ws with
          | nil => exact hws.elim
          | cons w ws =>
              rcases List.cons_lt_cons_iff.mp h with hlt | ⟨rfl, hrest⟩
              · exact decimal_append_lt hlt hws.1 _ _
              · exact append_lt_append _ (append_lt_append _ (ih hvs.2 hws.2 hrest))

end FixedWidth
