import Mathlib.Data.List.Basic

/-!
# Byte sequences that are valid UTF-8

A byte sequence is valid when it is the encoding of a sequence of characters.  Valid
sequences are closed under concatenation, and what is left of one after a valid part
is cut off either end is valid:

* `isUtf8_append_iff`: a valid part in front;
* `isUtf8_append_ascii_iff`: bytes below 128 at the end.

A cut at an arbitrary byte may leave a part of a character behind, and that is never
valid.
-/

/-- The bytes are the UTF-8 encoding of some characters. -/
def IsUtf8 (bytes : List UInt8) : Prop :=
  ∃ chars : List Char, chars.flatMap String.utf8EncodeChar = bytes

theorem isUtf8_iff_isValidUTF8 {bytes : List UInt8} :
    IsUtf8 bytes ↔ bytes.toByteArray.IsValidUTF8 := by
  constructor
  · rintro ⟨chars, rfl⟩
    exact ⟨chars, rfl⟩
  · rintro ⟨chars, hchars⟩
    refine ⟨chars, ?_⟩
    rw [List.utf8Encode] at hchars
    have hlists := congrArg (fun array => array.data.toList) hchars
    simpa using hlists.symm

instance (bytes : List UInt8) : Decidable (IsUtf8 bytes) :=
  decidable_of_iff _ isUtf8_iff_isValidUTF8.symm

theorem isUtf8_nil : IsUtf8 [] := ⟨[], rfl⟩

theorem IsUtf8.append {a b : List UInt8} (ha : IsUtf8 a) (hb : IsUtf8 b) : IsUtf8 (a ++ b) := by
  obtain ⟨chars, rfl⟩ := ha
  obtain ⟨rest, rfl⟩ := hb
  exact ⟨chars ++ rest, List.flatMap_append⟩

/-- A valid part in front does not matter. -/
theorem isUtf8_append_iff {a b : List UInt8} (ha : IsUtf8 a) : IsUtf8 (a ++ b) ↔ IsUtf8 b := by
  refine ⟨fun h => ?_, ha.append⟩
  obtain ⟨chars, rfl⟩ := ha
  induction chars with
  | nil => exact h
  | cons c chars ih =>
      apply ih
      rw [isUtf8_iff_isValidUTF8] at h ⊢
      rw [List.flatMap_cons, List.append_assoc, List.toByteArray_append,
        ← List.utf8Encode_singleton] at h
      exact ByteArray.isValidUTF8_utf8Encode_singleton_append_iff.mp h

/-! ## Bytes below 128 -/

private theorem utf8EncodeChar_ofNat :
    ∀ n < 128, String.utf8EncodeChar (Char.ofNat n) = [UInt8.ofNat n] := by decide

private theorem and_top_bit : ∀ n < 128, UInt8.ofNat n &&& 0x80 = 0 := by decide

/-- A byte below 128 is a character of its own. -/
theorem isUtf8_singleton {byte : UInt8} (h : byte < 128) : IsUtf8 [byte] := by
  refine ⟨[Char.ofNat byte.toNat], ?_⟩
  have hbyte := utf8EncodeChar_ofNat byte.toNat h
  simpa using hbyte

theorem isUtf8_of_ascii {bytes : List UInt8} (h : ∀ byte ∈ bytes, byte < 128) : IsUtf8 bytes := by
  induction bytes with
  | nil => exact isUtf8_nil
  | cons byte bytes ih =>
      have hhead := isUtf8_singleton (h byte List.mem_cons_self)
      exact hhead.append (ih fun b hb => h b (List.mem_cons_of_mem _ hb))

/-- The encoding of a character that ends in a byte below 128 is that byte. -/
private theorem utf8EncodeChar_eq_singleton {c : Char} {bytes : List UInt8} {byte : UInt8}
    (hc : String.utf8EncodeChar c = bytes ++ [byte]) (h : byte < 128) : bytes = [] := by
  have hfirst : byte.IsUTF8FirstByte := by
    have htop := and_top_bit byte.toNat h
    rw [UInt8.ofNat_toNat] at htop
    exact Or.inl htop
  have hindex : bytes.length < (String.utf8EncodeChar c).length := by simp [hc]
  have hlast : (String.utf8EncodeChar c)[bytes.length].IsUTF8FirstByte := by
    simpa [hc] using hfirst
  exact List.length_eq_zero_iff.mp (UInt8.isUTF8FirstByte_getElem_utf8EncodeChar.mp hlast)

/-- A byte below 128 at the end does not matter. -/
theorem isUtf8_concat_iff {bytes : List UInt8} {byte : UInt8} (h : byte < 128) :
    IsUtf8 (bytes ++ [byte]) ↔ IsUtf8 bytes := by
  refine ⟨?_, fun hbytes => hbytes.append (isUtf8_singleton h)⟩
  rintro ⟨chars, hchars⟩
  rcases List.eq_nil_or_concat chars with rfl | ⟨init, c, rfl⟩
  · simp at hchars
  · rw [List.concat_eq_append, List.flatMap_append, List.flatMap_singleton] at hchars
    obtain ⟨start, final, hc⟩ : ∃ start final, String.utf8EncodeChar c = start ++ [final] := by
      rcases List.eq_nil_or_concat (String.utf8EncodeChar c) with hnil | ⟨start, final, hc⟩
      · exact absurd hnil String.utf8EncodeChar_ne_nil
      · exact ⟨start, final, hc.trans List.concat_eq_append⟩
    rw [hc, ← List.append_assoc] at hchars
    obtain ⟨hbytes, hfinal⟩ := List.append_inj' hchars rfl
    obtain rfl : final = byte := by simpa using hfinal
    rw [utf8EncodeChar_eq_singleton hc h, List.append_nil] at hbytes
    exact ⟨init, hbytes⟩

/-- Bytes below 128 at the end do not matter. -/
theorem isUtf8_append_ascii_iff {a b : List UInt8} (hb : ∀ byte ∈ b, byte < 128) :
    IsUtf8 (a ++ b) ↔ IsUtf8 a := by
  induction b generalizing a with
  | nil => rw [List.append_nil]
  | cons byte b ih =>
      have hrest := ih (a := a ++ [byte]) fun x hx => hb x (List.mem_cons_of_mem _ hx)
      rw [List.append_assoc, List.singleton_append] at hrest
      exact hrest.trans (isUtf8_concat_iff (hb byte List.mem_cons_self))
