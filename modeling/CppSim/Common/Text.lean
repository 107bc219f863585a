import Mathlib.Algebra.Order.Ring.Int
import Mathlib.Data.List.Basic

/-!
# Byte strings

A `std::string` is a sequence of bytes.  `Text` is that sequence, `text` is a string
literal of the source in its UTF-8 encoding, and the functions below are the string
helpers the rest of the program shares.
-/

namespace CppSim

/-- A `std::string`. -/
abbrev Text := List UInt8

/-- A string literal of the source: the UTF-8 encoding of its characters. -/
def text (literal : String) : Text := literal.toList.flatMap String.utf8EncodeChar

/-- `std::to_string` of an integer. -/
def toText (n : Int) : Text := text (toString n)

theorem text_injective : Function.Injective text := by
  intro a b h
  have hbytes : a.toByteArray = b.toByteArray := by
    rw [← String.ofList_toList (s := a), ← String.ofList_toList (s := b), String.toByteArray_ofList,
      String.toByteArray_ofList, List.utf8Encode, List.utf8Encode]
    exact congrArg List.toByteArray h
  exact String.toByteArray_inj.mp hbytes

theorem toText_natCast (n : ℕ) : toText n = text (String.ofList (Nat.toDigits 10 n)) := rfl

theorem toText_natCast_inj {m n : ℕ} : toText m = toText n ↔ m = n := by
  refine ⟨fun h => ?_, congrArg fun n : ℕ => toText n⟩
  have hdigits : Nat.toDigits 10 m = Nat.toDigits 10 n :=
    String.ofList_inj.mp (text_injective h)
  rw [← Nat.ofDigitChars_ten_toDigits (n := m), hdigits, Nat.ofDigitChars_ten_toDigits]

/-- A decimal digit is one byte. -/
theorem length_utf8EncodeChar_of_isDigit {c : Char} (h : c.isDigit = true) :
    (String.utf8EncodeChar c).length = 1 := by
  rw [String.length_utf8EncodeChar, Char.utf8Size_eq_one_iff]
  simp only [Char.isDigit, Bool.and_eq_true, decide_eq_true_eq] at h
  exact UInt32.le_trans h.2 (by decide)

theorem length_toText_le {n k : ℕ} (hk : 0 < k) (h : n < 10 ^ k) : (toText n).length ≤ k := by
  have hbytes : ∀ c ∈ Nat.toDigits 10 n, (String.utf8EncodeChar c).length = 1 := fun c hc =>
    length_utf8EncodeChar_of_isDigit (Nat.isDigit_of_mem_toDigits (by decide) (by decide) hc)
  rw [toText_natCast, text, String.toList_ofList, List.length_flatMap,
    List.map_congr_left hbytes, List.map_const']
  simp [Nat.length_toDigits_le_iff (b := 10) (by decide) hk, h]

/-- `trunc_field`: at most `maxLen` bytes of `s`, and an ellipsis if more follow. -/
def truncField (s : Text) (maxLen : ℕ) : Text :=
  if s.length ≤ maxLen then s else s.take maxLen ++ text "..."

/-- The length of a session id in the log: `sess_` and eight hexadecimal digits. -/
def sessionIdLogLength : ℕ := 13

/-- `sanitize_session_id`. -/
def sanitizeSessionId (sid : Text) : Text :=
  if sid.length ≤ sessionIdLogLength then sid else sid.take sessionIdLogLength ++ text "..."

end CppSim
