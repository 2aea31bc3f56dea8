import ApiBinding.Number.Decimal
import ApiBinding.Number.Reader
import Mathlib.Tactic.IntervalCases
import Mathlib.Tactic.Ring

/-!
# Decimal digits

The digits of a number are decimal digits, the first of them is not zero unless the number
is, and their value is the number again.

Main results:

- Theorem `digitsValue_append`: the value of two runs of digits.
- Theorem `digitsValue_toDigits`: the digits of a number have its value.
- Theorem `exists_toDigits_eq_cons`: the first digit of a positive number is not zero.
- Theorem `exists_paddedDigits_eq`: digits with a given number of places split at the point.
-/

namespace ApiBinding

/-- A power of two, in the notation that arithmetic knows. -/
theorem powerOfTwo_eq (n : Nat) : powerOfTwo n = 2 ^ n := rfl

/-- A power of ten, in the notation that arithmetic knows. -/
theorem powerOfTen_eq (n : Nat) : powerOfTen n = 10 ^ n := rfl

/-! ## Values of digits -/

/-- Digits after others that have a value already. -/
theorem digitsValue_foldl (start : Nat) (cs : List Char) :
    cs.foldl (fun n c => n * 10 + (c.toNat - 0x30)) start =
      start * 10 ^ cs.length + digitsValue cs := by
  induction cs generalizing start with
  | nil => simp [digitsValue]
  | cons c rest ih =>
      rw [digitsValue, List.foldl_cons, List.foldl_cons, ih, ih (0 * 10 + _), List.length_cons,
        pow_succ]
      ring

/-- The value of two runs of digits. -/
theorem digitsValue_append (xs ys : List Char) :
    digitsValue (xs ++ ys) = digitsValue xs * 10 ^ ys.length + digitsValue ys := by
  rw [digitsValue, List.foldl_append, digitsValue_foldl]
  rfl

/-- Zeros have the value zero. -/
theorem digitsValue_zeros (n : Nat) : digitsValue (List.replicate n '0') = 0 := by
  induction n with
  | zero => rfl
  | succ n ih =>
      rw [List.replicate_succ', digitsValue_append, ih]
      rfl

/-- The digits of a number have its value. -/
theorem digitsValue_toDigits (n : Nat) : digitsValue (Nat.toDigits 10 n) = n := by
  have h : digitsValue (Nat.toDigits 10 n) = Nat.ofDigitChars 10 (Nat.toDigits 10 n) 0 := by
    rw [digitsValue, Nat.ofDigitChars_eq_foldl]
    congr 1
    funext value c
    rw [Nat.mul_comm]
    rfl
  rw [h, Nat.ofDigitChars_ten_toDigits]

/-! ## Digits of numbers -/

/-- The digits of a number are decimal digits. -/
theorem isDigit_of_mem_toDigits {n : Nat} {c : Char} (h : c ∈ Nat.toDigits 10 n) :
    c.isDigit = true :=
  Nat.isDigit_of_mem_toDigits (by decide) (by decide) h

/-- The first digit of a positive number is not zero. -/
theorem exists_toDigits_eq_cons {n : Nat} (h : 0 < n) :
    ∃ c rest, Nat.toDigits 10 n = c :: rest ∧ c ≠ '0' := by
  induction n using Nat.strong_induction_on with
  | _ n ih =>
      by_cases hsmall : n < 10
      · refine ⟨n.digitChar, [], Nat.toDigits_of_lt_base hsmall, ?_⟩
        interval_cases n <;> decide
      · obtain ⟨c, rest, heq, hc⟩ := ih (n / 10) (by omega) (by omega)
        refine ⟨c, rest ++ [(n % 10).digitChar], ?_, hc⟩
        rw [Nat.toDigits_of_base_le (by decide) (by omega), heq, List.cons_append]

/-! ## Digits around a point -/

/-- Digits before a point: a zero alone, or digits that start with another. -/
structure IsWholePart (cs : List Char) : Prop where
  digits : ∀ c ∈ cs, c.isDigit = true
  start : cs = ['0'] ∨ ∃ c rest, cs = c :: rest ∧ c ≠ '0'

/-- The digits of a number can stand before a point, as far as there are any. -/
theorem isWholePart_take {n count : Nat} (h : 0 < count) :
    IsWholePart ((Nat.toDigits 10 n).take count) := by
  refine ⟨fun c hc => isDigit_of_mem_toDigits (List.mem_of_mem_take hc), ?_⟩
  obtain ⟨count, rfl⟩ := Nat.exists_eq_add_of_lt h
  rcases Nat.eq_zero_or_pos n with rfl | hn
  · exact .inl (by rw [Nat.toDigits_zero, List.take_succ_cons, List.take_nil])
  · obtain ⟨c, rest, heq, hc⟩ := exists_toDigits_eq_cons hn
    rw [heq]
    exact .inr ⟨c, rest.take _, List.take_succ_cons, hc⟩

/-- Digits with a given number of places split at the point. -/
theorem exists_paddedDigits_eq (scale n : Nat) :
    ∃ whole fraction, Decimal.paddedDigits (scale + 1) n = whole ++ fraction ∧
      fraction.length = scale ∧ IsWholePart whole ∧ (∀ c ∈ fraction, c.isDigit = true) ∧
      digitsValue (whole ++ fraction) = n := by
  have hvalue : digitsValue (Decimal.paddedDigits (scale + 1) n) = n := by
    rw [Decimal.paddedDigits, digitsValue_append, digitsValue_zeros, digitsValue_toDigits]
    omega
  have hpositive : 0 < (Nat.toDigits 10 n).length := Nat.length_toDigits_pos
  rcases Nat.lt_or_ge scale (Nat.toDigits 10 n).length with hlong | hshort
  · -- no zero is added
    have hpadded : Decimal.paddedDigits (scale + 1) n = Nat.toDigits 10 n := by
      rw [Decimal.paddedDigits, Nat.sub_eq_zero_of_le hlong]
      rfl
    rw [hpadded] at hvalue ⊢
    refine ⟨_, _, (List.take_append_drop ((Nat.toDigits 10 n).length - scale) _).symm, ?_,
      isWholePart_take (by omega), fun c hc => isDigit_of_mem_toDigits (List.mem_of_mem_drop hc),
      ?_⟩
    · rw [List.length_drop]
      omega
    · rw [List.take_append_drop, hvalue]
  · -- the first of the added zeros stands before the point
    have hpadded : Decimal.paddedDigits (scale + 1) n = ['0'] ++
        (List.replicate (scale - (Nat.toDigits 10 n).length) '0' ++ Nat.toDigits 10 n) := by
      rw [Decimal.paddedDigits, Nat.sub_add_comm hshort, List.replicate_succ]
      rfl
    rw [hpadded] at hvalue ⊢
    refine ⟨_, _, rfl, ?_, ⟨fun c hc => ?_, .inl rfl⟩, fun c hc => ?_, hvalue⟩
    · rw [List.length_append, List.length_replicate]
      omega
    · rw [List.mem_singleton.1 hc]
      decide
    · rcases List.mem_append.1 hc with hzero | hdigit
      · rw [List.eq_of_mem_replicate hzero]
        decide
      · exact isDigit_of_mem_toDigits hdigit

end ApiBinding
