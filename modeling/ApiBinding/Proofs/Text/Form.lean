import ApiBinding.Proofs.Text.Percent
import ApiBinding.Proofs.Text.Utf8
import Mathlib.Data.List.Basic

/-!
# Forms, read back

A form is written as pairs between ampersands, each a name and a value with an equals sign
between them.  Neither sign is left in an encoded field, so the pairs are found again where
they were written, and each field is read as it was: a plus sign is only ever written for a
space, since one that is meant is percent-encoded.

Main results:

- Theorem `ne_of_mem_formEncode`: an encoded field holds none of the signs that mean
  something in a query.
- Theorem `formDecode_formEncode`: an encoded field is read back as it was.
- Theorem `readForm_formText`: a form gives back its pairs, in their order.
- Theorem `ne_of_mem_formText`: a form holds neither a question mark nor a number sign.
-/

namespace ApiBinding.Text

/-! ## Written characters -/

/-- A form field keeps ASCII letters, digits and four other signs. -/
theorem isFormByte_spec {b : UInt8} (h : isFormByte b = true) :
    b.toNat < 0x80 ∧ ∀ c ∈ ['%', '+', '&', '=', '?', '#'], b.toNat ≠ c.toNat := by
  simp only [isFormByte, Bool.or_eq_true, Bool.and_eq_true, decide_eq_true_eq, beq_iff_eq] at h
  refine ⟨by omega, ?_⟩
  simp only [List.forall_mem_cons, List.not_mem_nil, false_imp_iff, implies_true, and_true,
    Char.reduceToNat]
  omega

/-- A kept byte is written as a character that is none of the signs of a query. -/
theorem ofNat_ne_of_isFormByte {b : UInt8} (h : isFormByte b = true) {c : Char}
    (hc : c ∈ ['%', '+', '&', '=', '?', '#']) : Char.ofNat b.toNat ≠ c := by
  rintro rfl
  obtain ⟨hascii, hother⟩ := isFormByte_spec h
  exact hother _ hc (toNat_ofNat_byte hascii).symm

/-- An encoded field holds none of the signs that mean something in a query. -/
theorem ne_of_mem_formEncode {bytes : List UInt8} {c : Char} (h : c ∈ formEncode bytes) :
    c ≠ '&' ∧ c ≠ '=' ∧ c ≠ '?' ∧ c ≠ '#' := by
  have halphanum : ∀ d : Char, d.isAlphanum = true → d ≠ '&' ∧ d ≠ '=' ∧ d ≠ '?' ∧ d ≠ '#' := by
    intro d hd
    refine ⟨?_, ?_, ?_, ?_⟩ <;> rintro rfl <;> cases hd
  obtain ⟨b, _, hc⟩ := List.mem_flatMap.1 h
  split_ifs at hc with hspace hkept
  · obtain rfl := List.mem_singleton.1 hc
    decide
  · obtain rfl := List.mem_singleton.1 hc
    exact ⟨ofNat_ne_of_isFormByte hkept (by decide), ofNat_ne_of_isFormByte hkept (by decide),
      ofNat_ne_of_isFormByte hkept (by decide), ofNat_ne_of_isFormByte hkept (by decide)⟩
  · exact forall_mem_percentByte (by decide) halphanum b c hc

/-! ## Fields -/

/-- No character of a written byte is a plus sign. -/
theorem map_percentByte (b : UInt8) :
    ((percentByte b).map fun c => if c = '+' then ' ' else c) = percentByte b := by
  have hplus : ∀ c ∈ percentByte b, c ≠ '+' := by
    have halphanum : ∀ d : Char, d.isAlphanum = true → d ≠ '+' := by
      rintro d hd rfl
      cases hd
    exact forall_mem_percentByte (by decide) halphanum b
  have hsame : ∀ c ∈ percentByte b, (if c = '+' then ' ' else c) = c := fun c hc =>
    if_neg (hplus c hc)
  simpa using List.map_congr_left hsame

/-- An encoded field is read back as it was. -/
theorem formDecode_formEncode (bytes : List UInt8) : formDecode (formEncode bytes) = bytes := by
  induction bytes with
  | nil => rfl
  | cons b rest ih =>
      have hcons : formEncode (b :: rest) =
          (if b = 0x20 then ['+'] else if isFormByte b then [Char.ofNat b.toNat]
            else percentByte b) ++ formEncode rest := rfl
      unfold formDecode at ih ⊢
      rw [hcons, List.map_append]
      split_ifs with hspace hkept
      · subst hspace
        have hread := percentDecode_ofNat (b := 0x20) (by decide) (by decide)
          ((formEncode rest).map fun c => if c = '+' then ' ' else c)
        rw [ih] at hread
        exact hread
      · obtain ⟨hascii, hother⟩ := isFormByte_spec hkept
        have hpercent : b.toNat ≠ 0x25 := hother '%' (by decide)
        have hplus : Char.ofNat b.toNat ≠ '+' := ofNat_ne_of_isFormByte hkept (by decide)
        rw [List.map_singleton, if_neg hplus, List.singleton_append,
          percentDecode_ofNat hascii hpercent, ih]
      · rw [map_percentByte, percentDecode_percentByte, ih]

/-- A text that is encoded as a field is read back. -/
theorem readField_formEncode (text : String) :
    readField (formEncode (utf8Bytes text.toList)) = text := by
  rw [readField, formDecode_formEncode, utf8DecodeLenient_utf8Bytes, String.ofList_toList]

/-! ## Pairs -/

/-- A pair is cut where it was joined. -/
theorem readPair_formPair (pair : String × String) : readPair (formPair pair) = pair := by
  have hname : ∀ c ∈ formEncode (utf8Bytes pair.1.toList), decide (c ≠ '=') = true := by
    intro c hc
    exact decide_eq_true (ne_of_mem_formEncode hc).2.1
  rw [readPair, formPair, List.takeWhile_append_of_pos hname, List.dropWhile_append_of_pos hname]
  simp [readField_formEncode]

/-- A written pair is not empty and holds no ampersand. -/
theorem formPair_spec (pair : String × String) : formPair pair ≠ [] ∧ '&' ∉ formPair pair := by
  refine ⟨by simp [formPair], fun hmem => ?_⟩
  rcases List.mem_append.1 hmem with hname | hvalue
  · exact (ne_of_mem_formEncode hname).1 rfl
  · rcases List.mem_cons.1 hvalue with heq | hvalue
    · cases heq
    · exact (ne_of_mem_formEncode hvalue).1 rfl

/-- A form gives back its pairs, in their order. -/
theorem readForm_formText (pairs : List (String × String)) : readForm (formText pairs) = pairs := by
  by_cases hpairs : pairs = []
  · subst hpairs
    rfl
  · have hapart : ∀ piece ∈ pairs.map formPair, '&' ∉ piece := by
      intro piece hpiece
      obtain ⟨pair, _, rfl⟩ := List.mem_map.1 hpiece
      exact (formPair_spec pair).2
    have hfilled : ∀ piece ∈ pairs.map formPair, (!piece.isEmpty) = true := by
      intro piece hpiece
      obtain ⟨pair, _, rfl⟩ := List.mem_map.1 hpiece
      simpa using (formPair_spec pair).1
    have hread : pairs.map (fun pair => readPair (formPair pair)) = pairs.map id :=
      List.map_congr_left fun pair _ => readPair_formPair pair
    rw [readForm, formText, List.splitOn_intercalate '&' hapart (by simpa using hpairs),
      List.filter_eq_self.2 hfilled, List.map_map]
    exact hread.trans (List.map_id pairs)

/-- A form holds neither a question mark nor a number sign. -/
theorem ne_of_mem_formText {pairs : List (String × String)} {c : Char} (h : c ∈ formText pairs) :
    c ≠ '?' ∧ c ≠ '#' := by
  rcases mem_intercalate h with rfl | ⟨piece, hpiece, hc⟩
  · decide
  · obtain ⟨pair, _, rfl⟩ := List.mem_map.1 hpiece
    rcases List.mem_append.1 hc with hname | hvalue
    · exact (ne_of_mem_formEncode hname).2.2
    · rcases List.mem_cons.1 hvalue with rfl | hvalue
      · decide
      · exact (ne_of_mem_formEncode hvalue).2.2

end ApiBinding.Text
