import ApiBinding.Text.Percent

/-!
# Percent-encoding and back

Percent-encoding loses nothing: what is read from an encoded text are the bytes that
were written, and the bytes of a text determine it.  A segment that is encoded holds
no character that means anything in an address.

Main results:

- Theorem `percentDecode_percentEncode`: encoded bytes are read back as they were.
- Theorem `utf8Bytes_injective`: different texts have different bytes.
- Theorem `ne_of_mem_percentEncode`: an encoded segment holds neither a slash, nor a
  question mark, nor a number sign.
-/

namespace ApiBinding.Text

/-! ## Hexadecimal digits -/

/-- A written digit is read as it was. -/
theorem hexValue?_upperHexDigit {n : Nat} (h : n < 16) : hexValue? (upperHexDigit n) = some n := by
  revert n
  decide

/-- A written digit is a letter or a decimal digit. -/
theorem isAlphanum_upperHexDigit {n : Nat} (h : n < 16) :
    (upperHexDigit n).isAlphanum = true := by
  revert n
  decide

/-- What holds of the percent sign, of letters and of digits holds of a written byte. -/
theorem forall_mem_percentByte {P : Char → Prop} (hpercent : P '%')
    (hdigit : ∀ c : Char, c.isAlphanum = true → P c) (b : UInt8) : ∀ c ∈ percentByte b, P c := by
  have hbyte : b.toNat < 256 := b.toNat_lt
  intro c hc
  simp only [percentByte, List.mem_cons, List.not_mem_nil, or_false] at hc
  rcases hc with rfl | rfl | rfl
  · exact hpercent
  · exact hdigit _ (isAlphanum_upperHexDigit (by omega))
  · exact hdigit _ (isAlphanum_upperHexDigit (by omega))

/-! ## Kept bytes -/

/-- An ASCII byte as a character. -/
theorem toNat_ofNat_byte {b : UInt8} (h : b.toNat < 0x80) :
    (Char.ofNat b.toNat).toNat = b.toNat := by
  have hvalid : b.toNat.isValidChar := Or.inl (by omega)
  rw [Char.ofNat, dif_pos hvalid]
  rfl

/-- An ASCII byte is written as the character that has it as its only byte. -/
theorem utf8EncodeChar_ofNat {b : UInt8} (h : b.toNat < 0x80) :
    String.utf8EncodeChar (Char.ofNat b.toNat) = [b] := by
  have hval : (Char.ofNat b.toNat).val.toNat = b.toNat := toNat_ofNat_byte h
  unfold String.utf8EncodeChar
  rw [hval, if_pos (by omega)]
  simp

/-- A segment keeps visible ASCII bytes, and none that means anything in an address. -/
theorem isSegmentByte_spec {b : UInt8} (h : isSegmentByte b = true) :
    b.toNat < 0x80 ∧ b.toNat ≠ 0x25 ∧ b.toNat ≠ 0x2F ∧ b.toNat ≠ 0x3F ∧ b.toNat ≠ 0x23 := by
  simp only [isSegmentByte, isPathByte, isVisibleAscii, Bool.and_eq_true, decide_eq_true_eq,
    Bool.not_eq_true', List.contains_eq_mem, List.mem_cons, decide_eq_false_iff_not, not_or]
    at h
  omega

/-! ## Encoded bytes -/

/-- A percent sign with two written digits is read as the byte they stand for. -/
theorem percentDecode_percentByte (b : UInt8) (rest : List Char) :
    percentDecode (percentByte b ++ rest) = b :: percentDecode rest := by
  have hbyte : b.toNat < 256 := b.toNat_lt
  have hhigh : b.toNat / 16 < 16 := by omega
  have hlow : b.toNat % 16 < 16 := by omega
  have hvalue : b.toNat / 16 * 16 + b.toNat % 16 = b.toNat := by omega
  simp [percentByte, percentDecode, hexValue?_upperHexDigit hhigh, hexValue?_upperHexDigit hlow,
    hvalue]

/-- A kept byte is read as itself, unless it is a percent sign. -/
theorem percentDecode_ofNat {b : UInt8} (hascii : b.toNat < 0x80) (hpercent : b.toNat ≠ 0x25)
    (rest : List Char) :
    percentDecode (Char.ofNat b.toNat :: rest) = b :: percentDecode rest := by
  have hne : Char.ofNat b.toNat ≠ '%' := by
    intro heq
    apply hpercent
    rw [← toNat_ofNat_byte hascii, heq]
    rfl
  rw [percentDecode, utf8EncodeChar_ofNat hascii]
  · rfl
  · intro _ _ _ heq
    exact absurd heq hne

/-- Percent-encoded bytes are read back as they were, if a percent sign is never kept. -/
theorem percentDecode_percentEncode {keep : UInt8 → Bool}
    (hkeep : ∀ b, keep b = true → b.toNat < 0x80 ∧ b.toNat ≠ 0x25) (bytes : List UInt8) :
    percentDecode (percentEncode keep bytes) = bytes := by
  induction bytes with
  | nil => rfl
  | cons b rest ih =>
      have hcons : percentEncode keep (b :: rest) =
          (if keep b then [Char.ofNat b.toNat] else percentByte b) ++ percentEncode keep rest := rfl
      rw [hcons]
      by_cases hkept : keep b = true
      · rw [if_pos hkept, List.singleton_append,
          percentDecode_ofNat (hkeep b hkept).1 (hkeep b hkept).2, ih]
      · rw [if_neg hkept, percentDecode_percentByte, ih]

/-- An encoded segment is read back as it was. -/
theorem percentDecode_segment (bytes : List UInt8) :
    percentDecode (percentEncode isSegmentByte bytes) = bytes :=
  percentDecode_percentEncode
    (fun _ hkept => ⟨(isSegmentByte_spec hkept).1, (isSegmentByte_spec hkept).2.1⟩) bytes

/-- An encoded segment is neither cut by a slash nor ended by a question mark or a number
sign. -/
theorem ne_of_mem_percentEncode {bytes : List UInt8} {c : Char}
    (h : c ∈ percentEncode isSegmentByte bytes) : c ≠ '/' ∧ c ≠ '?' ∧ c ≠ '#' := by
  obtain ⟨b, _, hc⟩ := List.mem_flatMap.1 h
  by_cases hkept : isSegmentByte b = true
  · obtain ⟨hascii, _, hslash, hquestion, hnumber⟩ := isSegmentByte_spec hkept
    rw [if_pos hkept, List.mem_singleton] at hc
    have hcode : c.toNat = b.toNat := by rw [hc, toNat_ofNat_byte hascii]
    refine ⟨?_, ?_, ?_⟩
    · rintro rfl
      exact hslash hcode.symm
    · rintro rfl
      exact hquestion hcode.symm
    · rintro rfl
      exact hnumber hcode.symm
  · have halphanum : ∀ d : Char, d.isAlphanum = true → d ≠ '/' ∧ d ≠ '?' ∧ d ≠ '#' := by
      intro d hd
      refine ⟨?_, ?_, ?_⟩ <;> rintro rfl <;> cases hd
    rw [if_neg hkept] at hc
    exact forall_mem_percentByte (by decide) halphanum b c hc

/-! ## Joined texts -/

/-- A character between joined texts is the joint or stands in one of them. -/
theorem mem_intercalate {texts : List (List Char)} {joint c : Char}
    (h : c ∈ List.intercalate [joint] texts) : c = joint ∨ ∃ text ∈ texts, c ∈ text := by
  induction texts with
  | nil => simp at h
  | cons text rest ih =>
      by_cases hrest : rest = []
      · subst hrest
        exact Or.inr ⟨text, List.mem_cons_self, by simpa using h⟩
      · rw [List.intercalate_cons_of_ne_nil hrest] at h
        simp only [List.append_assoc, List.mem_append, List.mem_singleton] at h
        rcases h with htext | hjoint | hmem
        · exact Or.inr ⟨text, List.mem_cons_self, htext⟩
        · exact Or.inl hjoint
        · rcases ih hmem with hjoint | ⟨other, hother, hc⟩
          · exact Or.inl hjoint
          · exact Or.inr ⟨other, List.mem_cons_of_mem _ hother, hc⟩

/-! ## Bytes of a text -/

/-- Different texts have different bytes. -/
theorem utf8Bytes_injective {first second : List Char} (h : utf8Bytes first = utf8Bytes second) :
    first = second := by
  have hencode : first.utf8Encode = second.utf8Encode := by
    simp only [utf8Bytes] at h
    simp [List.utf8Encode, h]
  have hdecode := congrArg ByteArray.utf8Decode? hencode
  rw [List.utf8Decode?_utf8Encode, List.utf8Decode?_utf8Encode, Option.some.injEq] at hdecode
  simpa using hdecode

end ApiBinding.Text
