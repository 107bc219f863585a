import CppSim.Library.Word
import CppSim.Common.Text

/-!
# Session ids

`generate_session_id` mixes a counter with a random word, so that ids are unpredictable
and yet no two of the first `2^32` are the same: the counter fills the upper half of
the word that is printed.  When the random source throws, the id is a second counter in
decimal, which is shorter than the sixteen digits of the first kind.
-/

namespace CppSim.Server

/-- `hex`. -/
def hexDigits : Text := text "0123456789abcdef"

/-- `mixed`: the counter in the upper half, over the random word. -/
def mixedId (id : UInt64) (rnd : UInt32) : UInt64 := (id <<< 32) ^^^ rnd.toUInt64

/-- `generate_session_id`: `sess_` and sixteen hexadecimal digits. -/
def generateSessionId (id : UInt64) (rnd : UInt32) : Text :=
  text "sess_" ++ (List.range 16).map fun i =>
    hexDigits.getD (mixedId id rnd >>> (60 - 4 * i).toUInt64 &&& 0xF).toNat 0

/-- `generate_session_id`: the fallback. -/
def fallbackSessionId (id : UInt64) : Text := text "sess_" ++ toText id.toNat

/-! ## Distinct ids -/

theorem hexDigits_inj {m n : ℕ} (hm : m < 16) (hn : n < 16)
    (h : hexDigits.getD m 0 = hexDigits.getD n 0) : m = n := by
  have hall : ∀ m : Fin 16, ∀ n : Fin 16, hexDigits.getD m 0 = hexDigits.getD n 0 → m = n := by
    decide +kernel
  exact congrArg Fin.val (hall ⟨m, hm⟩ ⟨n, hn⟩ h)

/-- The digit that the shift brings down. -/
theorem toNat_hexDigit (x : UInt64) {i : ℕ} (hi : i < 16) :
    (x >>> (60 - 4 * i).toUInt64 &&& 0xF).toNat = x.toNat / 16 ^ (15 - i) % 16 := by
  have hshift : (60 - 4 * i).toUInt64.toNat % 64 = 4 * (15 - i) := by
    rw [Nat.toUInt64_eq, UInt64.toNat_ofNat']
    omega
  rw [UInt64.toNat_and, UInt64.toNat_shiftRight, hshift, Nat.shiftRight_eq_div_pow, Nat.pow_mul]
  exact Nat.and_two_pow_sub_one_eq_mod _ 4

/-- The shift leaves the lower half of the counter. -/
theorem toNat_mixedId (id : UInt64) (rnd : UInt32) :
    (mixedId id rnd).toNat / 2 ^ 32 = id.toNat % 2 ^ 32 := by
  have hrnd : rnd.toNat >>> 32 = 0 := Nat.shiftRight_eq_zero _ _ rnd.toNat_lt
  have hword : (id.toNat <<< 32 % 2 ^ 64) >>> 32 = id.toNat % 2 ^ 32 := by
    rw [Nat.shiftLeft_eq, Nat.shiftRight_eq_div_pow]
    omega
  rw [mixedId, UInt64.toNat_xor, UInt64.toNat_shiftLeft, UInt32.toNat_toUInt64,
    ← Nat.shiftRight_eq_div_pow, Nat.shiftRight_xor_distrib, hrnd, Nat.xor_zero]
  exact hword

/-- The same id comes only from counters with the same lower half, whatever the random words. -/
theorem mod_eq_of_generateSessionId_eq {id id' : UInt64} {rnd rnd' : UInt32}
    (h : generateSessionId id rnd = generateSessionId id' rnd') :
    id.toNat % 2 ^ 32 = id'.toNat % 2 ^ 32 := by
  have hdigit : ∀ k < 16, (mixedId id rnd).toNat / 16 ^ k % 16 =
      (mixedId id' rnd').toNat / 16 ^ k % 16 := by
    intro k hk
    have hget := List.map_inj_left.mp (List.append_cancel_left h) (15 - k)
      (List.mem_range.mpr (by omega))
    have hbyte := hexDigits_inj (by rw [toNat_hexDigit _ (by omega)]; omega)
      (by rw [toNat_hexDigit _ (by omega)]; omega) hget
    rwa [toNat_hexDigit _ (by omega), toNat_hexDigit _ (by omega),
      show 15 - (15 - k) = k by omega] at hbyte
  have hword (x : UInt64) : x.toNat < 16 ^ 16 := by
    have hlt := x.toNat_lt
    omega
  have hmixed : (mixedId id rnd).toNat = (mixedId id' rnd').toNat := by
    have hmod := Nat.mod_pow_eq_of_digit_eq hdigit
    rwa [Nat.mod_eq_of_lt (hword _), Nat.mod_eq_of_lt (hword _)] at hmod
  rw [← toNat_mixedId id rnd, ← toNat_mixedId id' rnd', hmixed]

/-- Of the first `2^32` counters no two lead to the same id, whatever the random words. -/
theorem generateSessionId_inj {id id' : UInt64} {rnd rnd' : UInt32} (hid : id.toNat < 2 ^ 32)
    (hid' : id'.toNat < 2 ^ 32) (h : generateSessionId id rnd = generateSessionId id' rnd') :
    id = id' := by
  have hmod := mod_eq_of_generateSessionId_eq h
  rwa [Nat.mod_eq_of_lt hid, Nat.mod_eq_of_lt hid', UInt64.toNat_inj] at hmod

/-- The upper half of the counter does not show. -/
theorem generateSessionId_eq_of_mod_eq {id id' : UInt64} (rnd : UInt32)
    (h : id.toNat % 2 ^ 32 = id'.toNat % 2 ^ 32) :
    generateSessionId id rnd = generateSessionId id' rnd := by
  have hshift : id <<< 32 = id' <<< 32 := by
    rw [← UInt64.toNat_inj, UInt64.toNat_shiftLeft, UInt64.toNat_shiftLeft]
    change id.toNat <<< 32 % 2 ^ 64 = id'.toNat <<< 32 % 2 ^ 64
    rw [Nat.shiftLeft_eq, Nat.shiftLeft_eq]
    omega
  rw [generateSessionId, generateSessionId, mixedId, mixedId, hshift]

theorem fallbackSessionId_inj {id id' : UInt64} (h : fallbackSessionId id = fallbackSessionId id') :
    id = id' :=
  UInt64.toNat_inj.mp (toText_natCast_inj.mp (List.append_cancel_left h))

theorem length_generateSessionId (id : UInt64) (rnd : UInt32) :
    (generateSessionId id rnd).length = 21 := by
  simp [generateSessionId, show (text "sess_").length = 5 by decide +kernel]

/-- The two kinds of ids differ in length. -/
theorem length_fallbackSessionId_lt {id : UInt64} (hid : id.toNat < 10 ^ 15) :
    (fallbackSessionId id).length < 21 := by
  have hdecimal : (toText id.toNat).length ≤ 15 := length_toText_le (by decide) hid
  rw [fallbackSessionId, List.length_append, show (text "sess_").length = 5 by decide +kernel]
  omega

theorem generateSessionId_ne_fallback {id id' : UInt64} {rnd : UInt32}
    (hid' : id'.toNat < 10 ^ 15) : generateSessionId id rnd ≠ fallbackSessionId id' := by
  intro h
  have hlength := length_fallbackSessionId_lt hid'
  rw [← h, length_generateSessionId] at hlength
  exact absurd hlength (by decide)

example : generateSessionId 1 0xdeadbeef = text "sess_00000001deadbeef" := by decide +kernel

end CppSim.Server
