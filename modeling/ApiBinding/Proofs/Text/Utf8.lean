import ApiBinding.Text.Utf8
import Mathlib.Tactic.SplitIfs

/-!
# Bytes of a text, read back

The bytes of a character are read as that character, whatever follows them: the first byte
tells how many others belong to it and in which range the next one lies, and each of them
adds six bits.  So every text is read from its bytes as it was, by the strict reader and by
the lenient one alike.

Main results:

- Theorem `utf8Run_encodeChar`: the bytes of a character are read as that character.
- Theorem `utf8Decode?_utf8Bytes`: every text is read back from its bytes.
- Theorem `ofNat_mem_of_mem_utf8Bytes`: the ASCII bytes of a text are characters of it.
-/

namespace ApiBinding.Text

/-! ## Steps of the reader -/

/-- The last byte of a character completes it. -/
theorem utf8Run_last {code lower upper : Nat} {b : UInt8} (hlower : lower ≤ b.toNat)
    (hupper : b.toNat ≤ upper) (rest : List UInt8) :
    utf8Run (some ⟨1, code, lower, upper⟩) (b :: rest) =
      some (Char.ofNat (code * 64 + (b.toNat - 0x80))) :: utf8Run none rest := by
  simp [utf8Run, utf8Step, hlower, hupper]

/-- A byte in the middle of a character adds six bits. -/
theorem utf8Run_middle {needed code lower upper : Nat} {b : UInt8} (hlower : lower ≤ b.toNat)
    (hupper : b.toNat ≤ upper) (rest : List UInt8) :
    utf8Run (some ⟨needed + 2, code, lower, upper⟩) (b :: rest) =
      utf8Run (some ⟨needed + 1, code * 64 + (b.toNat - 0x80), 0x80, 0xBF⟩) rest := by
  simp [utf8Run, utf8Step, hlower, hupper]

/-- A small byte is a character of its own. -/
theorem utf8Run_single {b : UInt8} (h : b.toNat < 0x80) (rest : List UInt8) :
    utf8Run none (b :: rest) = some (Char.ofNat b.toNat) :: utf8Run none rest := by
  simp [utf8Run, utf8Step, utf8Start, h]

/-- The first of two bytes. -/
theorem utf8Run_two {b : UInt8} (hlower : 0xC2 ≤ b.toNat) (hupper : b.toNat < 0xE0)
    (rest : List UInt8) :
    utf8Run none (b :: rest) = utf8Run (some ⟨1, b.toNat - 0xC0, 0x80, 0xBF⟩) rest := by
  have hsingle : ¬b.toNat < 0x80 := by omega
  have hgap : ¬b.toNat < 0xC2 := by omega
  simp [utf8Run, utf8Step, utf8Start, hsingle, hgap, hupper]

/-- The first of three bytes. -/
theorem utf8Run_three {b : UInt8} (hlower : 0xE0 ≤ b.toNat) (hupper : b.toNat < 0xF0)
    (rest : List UInt8) :
    utf8Run none (b :: rest) =
      utf8Run (some ⟨2, b.toNat - 0xE0, if b.toNat = 0xE0 then 0xA0 else 0x80,
        if b.toNat = 0xED then 0x9F else 0xBF⟩) rest := by
  have hsingle : ¬b.toNat < 0x80 := by omega
  have hgap : ¬b.toNat < 0xC2 := by omega
  have htwo : ¬b.toNat < 0xE0 := by omega
  simp [utf8Run, utf8Step, utf8Start, hsingle, hgap, htwo, hupper]

/-- The first of four bytes. -/
theorem utf8Run_four {b : UInt8} (hlower : 0xF0 ≤ b.toNat) (hupper : b.toNat < 0xF5)
    (rest : List UInt8) :
    utf8Run none (b :: rest) =
      utf8Run (some ⟨3, b.toNat - 0xF0, if b.toNat = 0xF0 then 0x90 else 0x80,
        if b.toNat = 0xF4 then 0x8F else 0xBF⟩) rest := by
  have hsingle : ¬b.toNat < 0x80 := by omega
  have hgap : ¬b.toNat < 0xC2 := by omega
  have htwo : ¬b.toNat < 0xE0 := by omega
  have hthree : ¬b.toNat < 0xF0 := by omega
  simp [utf8Run, utf8Step, utf8Start, hsingle, hgap, htwo, hthree, hupper]

/-! ## Characters -/

/-- A byte that is written as a number is that number. -/
theorem toNat_ofNat_of_lt {n : Nat} (h : n < 0x100) : (UInt8.ofNat n).toNat = n :=
  Nat.mod_eq_of_lt h

/-- The bytes of a character are read as that character. -/
theorem utf8Run_encodeChar (c : Char) (rest : List UInt8) :
    utf8Run none (String.utf8EncodeChar c ++ rest) = some c :: utf8Run none rest := by
  have hchar : Char.ofNat c.val.toNat = c := Char.ofNat_toNat c
  have hvalid : c.val.toNat < 0xD800 ∨ 0xDFFF < c.val.toNat ∧ c.val.toNat < 0x110000 := c.valid
  unfold String.utf8EncodeChar
  generalize c.val.toNat = v at hchar hvalid
  dsimp only
  split_ifs with hone htwo hthree
  · have hfirst := toNat_ofNat_of_lt (show v < 0x100 by omega)
    rw [List.singleton_append, utf8Run_single (by omega), hfirst, hchar]
  · have hfirst := toNat_ofNat_of_lt (show v / 64 % 32 + 192 < 0x100 by omega)
    have hlast := toNat_ofNat_of_lt (show v % 64 + 128 < 0x100 by omega)
    have hcode : (v / 64 % 32 + 192 - 0xC0) * 64 + (v % 64 + 128 - 0x80) = v := by omega
    rw [List.cons_append, List.singleton_append, utf8Run_two (by omega) (by omega),
      utf8Run_last (by omega) (by omega), hfirst, hlast, hcode, hchar]
  · have hfirst := toNat_ofNat_of_lt (show v / 4096 % 16 + 224 < 0x100 by omega)
    have hsecond := toNat_ofNat_of_lt (show v / 64 % 64 + 128 < 0x100 by omega)
    have hlast := toNat_ofNat_of_lt (show v % 64 + 128 < 0x100 by omega)
    have hcode : ((v / 4096 % 16 + 224 - 0xE0) * 64 + (v / 64 % 64 + 128 - 0x80)) * 64 +
        (v % 64 + 128 - 0x80) = v := by omega
    rw [List.cons_append, List.cons_append, List.singleton_append,
      utf8Run_three (by omega) (by omega), utf8Run_middle, utf8Run_last (by omega) (by omega),
      hfirst, hsecond, hlast, hcode, hchar]
    · rw [hfirst, hsecond]
      split_ifs <;> omega
    · -- no character lies in the range of the surrogates
      rw [hfirst, hsecond]
      split_ifs <;> omega
  · have hfirst := toNat_ofNat_of_lt (show v / 262144 % 8 + 240 < 0x100 by omega)
    have hsecond := toNat_ofNat_of_lt (show v / 4096 % 64 + 128 < 0x100 by omega)
    have hthird := toNat_ofNat_of_lt (show v / 64 % 64 + 128 < 0x100 by omega)
    have hlast := toNat_ofNat_of_lt (show v % 64 + 128 < 0x100 by omega)
    have hcode : (((v / 262144 % 8 + 240 - 0xF0) * 64 + (v / 4096 % 64 + 128 - 0x80)) * 64 +
        (v / 64 % 64 + 128 - 0x80)) * 64 + (v % 64 + 128 - 0x80) = v := by omega
    rw [List.cons_append, List.cons_append, List.cons_append, List.singleton_append,
      utf8Run_four (by omega) (by omega), utf8Run_middle, utf8Run_middle (by omega) (by omega),
      utf8Run_last (by omega) (by omega), hfirst, hsecond, hthird, hlast, hcode, hchar]
    · rw [hfirst, hsecond]
      split_ifs <;> omega
    · rw [hfirst, hsecond]
      split_ifs <;> omega

/-! ## ASCII bytes -/

/-- A character that has an ASCII byte has no other one. -/
theorem eq_of_mem_utf8EncodeChar {b : UInt8} {c : Char} (h : b ∈ String.utf8EncodeChar c)
    (hascii : b.toNat < 0x80) : Char.ofNat b.toNat = c := by
  have hchar : Char.ofNat c.val.toNat = c := Char.ofNat_toNat c
  unfold String.utf8EncodeChar at h
  generalize c.val.toNat = v at h hchar
  dsimp only at h
  split_ifs at h with hone
  · obtain rfl := List.mem_singleton.1 h
    rw [toNat_ofNat_of_lt (by omega), hchar]
  -- every byte of a longer character has its highest bit set
  all_goals
    have hhigh : ∀ n, 0x80 ≤ n → n < 0x100 → UInt8.ofNat n ≠ b := by
      rintro n hlower hupper rfl
      rw [toNat_ofNat_of_lt hupper] at hascii
      omega
    simp only [List.mem_cons, List.not_mem_nil, or_false] at h
  · rcases h with h | h <;> exact absurd h.symm (hhigh _ (by omega) (by omega))
  · rcases h with h | h | h <;> exact absurd h.symm (hhigh _ (by omega) (by omega))
  · rcases h with h | h | h | h <;> exact absurd h.symm (hhigh _ (by omega) (by omega))

/-- The ASCII bytes of a text are characters of it. -/
theorem ofNat_mem_of_mem_utf8Bytes {b : UInt8} {text : List Char} (h : b ∈ utf8Bytes text)
    (hascii : b.toNat < 0x80) : Char.ofNat b.toNat ∈ text := by
  obtain ⟨c, hc, hbyte⟩ := List.mem_flatMap.1 h
  rw [eq_of_mem_utf8EncodeChar hbyte hascii]
  exact hc

/-! ## Texts -/

/-- The bytes of a text are read without a gap. -/
theorem utf8Pieces_utf8Bytes (text : List Char) : utf8Pieces (utf8Bytes text) = text.map some := by
  unfold utf8Pieces utf8Bytes
  induction text with
  | nil => rfl
  | cons c rest ih => rw [List.flatMap_cons, utf8Run_encodeChar, ih, List.map_cons]

/-- Every text is read back from its bytes. -/
theorem utf8Decode?_utf8Bytes (text : List Char) : utf8Decode? (utf8Bytes text) = some text :=
  utf8Decode?_eq_some_iff.2 (utf8Pieces_utf8Bytes text)

/-- The lenient reader replaces nothing in the bytes of a text. -/
theorem utf8DecodeLenient_utf8Bytes (text : List Char) :
    utf8DecodeLenient (utf8Bytes text) = text :=
  utf8DecodeLenient_of_utf8Decode? (utf8Decode?_utf8Bytes text)

end ApiBinding.Text
