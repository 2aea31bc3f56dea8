import ApiBinding.Json.Reader
import ApiBinding.Proofs.Number.DecimalText

/-!
# Reading written numbers

A text of a sign, digits and places is a number in JSON.  It is read as a whole number if it
has no places and fits 64 bits, else step by step as a number of the binary64 format.

Main results:

- Theorem `parse?_written`: digits and places are read as the number that they write.
- Theorem `numberOf?_whole`: digits that fit 64 bits are read as a whole number.
- Theorem `numberOf?_binary`: any others are read in the binary64 format.
-/

namespace ApiBinding

namespace Json

/-! ## The grammar -/

/-- Digits that may stand before a point are read up to what is no digit. -/
theorem readWhole?_append {whole rest : List Char} (hwhole : IsWholePart whole)
    (hrest : ∀ c ∈ rest.head?, c.isDigit = false) :
    readWhole? (whole ++ rest) = some (whole, rest) := by
  have hall := hwhole.digits
  have hstop : rest.takeWhile Char.isDigit = [] ∧ rest.dropWhile Char.isDigit = rest := by
    cases rest with
    | nil => exact ⟨rfl, rfl⟩
    | cons c rest => simp [hrest c rfl]
  rcases hwhole.start with rfl | ⟨c, digits, rfl, hc⟩
  · rfl
  · rw [readWhole?.eq_def]
    split
    · rename_i heq
      exact absurd (List.cons.inj heq).1 hc
    · rw [List.takeWhile_append_of_pos hall, List.dropWhile_append_of_pos hall, hstop.1, hstop.2,
        List.append_nil]
      rfl

/-- Places are read up to the end. -/
theorem readFraction?_pointed {fraction : List Char} (h : ∀ c ∈ fraction, c.isDigit = true) :
    readFraction? (pointed fraction) = some (fraction, []) := by
  cases fraction with
  | nil => rfl
  | cons c fraction =>
      have hpoint : pointed (c :: fraction) = '.' :: c :: fraction := rfl
      have htake : (c :: fraction ++ []).takeWhile Char.isDigit = c :: fraction ++ [] :=
        List.takeWhile_append_of_pos h
      have hdrop : (c :: fraction ++ []).dropWhile Char.isDigit = [] :=
        List.dropWhile_append_of_pos h
      rw [List.append_nil] at htake hdrop
      rw [hpoint, readFraction?, htake, hdrop]
      rfl

variable {whole fraction : List Char}

/-- A sign, digits and places are read as the number that they write. -/
theorem readNumber?_written (negative : Bool) (hwhole : IsWholePart whole)
    (hfraction : ∀ c ∈ fraction, c.isDigit = true) :
    readNumber? (signChars negative ++ (whole ++ pointed fraction)) =
      (numberOf? ⟨negative, whole, fraction, 0⟩ fraction.isEmpty).map fun n => (n, []) := by
  have hsign : ((signChars negative ++ (whole ++ pointed fraction)).head? == some '-') =
      negative := by
    cases negative with
    | true => rfl
    | false =>
        obtain ⟨c, rest, rfl⟩ : ∃ c rest, whole = c :: rest := by
          rcases hwhole.start with h | ⟨c, rest, h, -⟩ <;> exact ⟨_, _, h⟩
        have hdigit := hwhole.digits c List.mem_cons_self
        rw [signChars, if_neg (by simp), List.nil_append, List.cons_append, List.head?_cons]
        simp only [Option.some_beq_some, beq_eq_false_iff_ne]
        rintro rfl
        exact absurd hdigit (by decide)
  have hunsigned : (if negative = true then
      (signChars negative ++ (whole ++ pointed fraction)).drop 1
      else signChars negative ++ (whole ++ pointed fraction)) = whole ++ pointed fraction := by
    cases negative <;> rfl
  have hpoint : ∀ c ∈ (pointed fraction).head?, c.isDigit = false := by
    cases fraction with
    | nil => simp [pointed]
    | cons c fraction =>
        intro d hd
        obtain rfl := Option.some.inj hd
        decide
  rw [readNumber?]
  simp only [hsign, hunsigned, readWhole?_append hwhole hpoint, readFraction?_pointed hfraction,
    readPower?, Option.bind_eq_bind, Option.bind_some, Option.isNone_none, Bool.and_true,
    Option.getD_none, Option.pure_def]
  cases numberOf? ⟨negative, whole, fraction, 0⟩ fraction.isEmpty <;> rfl

/-- What starts as a number is read as one. -/
theorem readValue_number (fuel nesting : Nat) {c : Char} {cs : List Char}
    (h : c = '-' ∨ c.isDigit = true) :
    readValue (fuel + 1) nesting (c :: cs) =
      (readNumber? (c :: cs)).map fun read => (num read.1, read.2) := by
  have hne : ∀ d : Char, d ≠ '-' → d.isDigit = false → c ≠ d := by
    rintro d hminus hdigit rfl
    rcases h with h | h
    · exact hminus h
    · rw [hdigit] at h
      cases h
  have hspace : skipSpace (c :: cs) = c :: cs := by
    rw [skipSpace, List.dropWhile_cons_of_neg]
    simp [isSpace, hne]
  rw [readValue, hspace]
  split
  all_goals first
    | rfl
    | rename_i heq
      exact absurd (List.cons.inj heq).1 (hne _ (by decide) (by decide))

/-- A sign, digits and places are a whole text in JSON. -/
theorem parse?_written (negative : Bool) (hwhole : IsWholePart whole)
    (hfraction : ∀ c ∈ fraction, c.isDigit = true) :
    parse? (signChars negative ++ (whole ++ pointed fraction)) =
      (numberOf? ⟨negative, whole, fraction, 0⟩ fraction.isEmpty).map num := by
  obtain ⟨c, cs, heq, hstart⟩ : ∃ c cs,
      signChars negative ++ (whole ++ pointed fraction) = c :: cs ∧
        (c = '-' ∨ c.isDigit = true) := by
    cases negative with
    | true => exact ⟨_, _, rfl, .inl rfl⟩
    | false =>
        obtain ⟨c, rest, rfl⟩ : ∃ c rest, whole = c :: rest := by
          rcases hwhole.start with h | ⟨c, rest, h, -⟩ <;> exact ⟨_, _, h⟩
        exact ⟨c, _, rfl, .inr (hwhole.digits c List.mem_cons_self)⟩
  have hread := readNumber?_written negative hwhole hfraction
  rw [parse?, parseRepeating?]
  rw [heq] at hread ⊢
  rw [readValue_number _ _ hstart, hread]
  cases numberOf? ⟨negative, whole, fraction, 0⟩ fraction.isEmpty with
  | none => rfl
  | some n => rfl

/-- Digits without places that fit 64 bits are read as a whole number. -/
theorem numberOf?_whole {negative : Bool} (hnegative : negative = true → digitsValue whole ≠ 0)
    (hfits : digitsValue whole < if negative then integerBound + 1 else naturalBound) :
    numberOf? ⟨negative, whole, [], 0⟩ true =
      some (.whole (if negative then -(digitsValue whole : Int) else digitsValue whole)) := by
  cases negative with
  | false =>
      rw [if_neg (by simp)] at hfits
      simp [numberOf?, hfits]
  | true =>
      rw [if_pos rfl] at hfits
      simp [numberOf?, hnegative rfl, Nat.le_of_lt_succ hfits]

/-- Digits with places, or too many for 64 bits, are read in the binary64 format. -/
theorem numberOf?_binary {negative : Bool}
    (hlarge : fraction = [] →
      (if negative then integerBound + 1 else naturalBound) ≤ digitsValue whole) :
    numberOf? ⟨negative, whole, fraction, 0⟩ fraction.isEmpty =
      JsonNumber.ofBinary64? (WrittenNumber.readBinary64 ⟨negative, whole, fraction, 0⟩) := by
  cases fraction with
  | cons c fraction => rfl
  | nil =>
      have hbound := hlarge rfl
      cases negative with
      | false =>
          rw [if_neg (by simp)] at hbound
          simp [numberOf?, Nat.not_lt.2 hbound]
      | true =>
          rw [if_pos rfl] at hbound
          simp [numberOf?, Nat.not_le.2 hbound]

end Json

end ApiBinding
