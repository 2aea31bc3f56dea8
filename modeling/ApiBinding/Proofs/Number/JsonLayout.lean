import ApiBinding.Proofs.Number.DecimalText
import Mathlib.Algebra.Order.Round
import Mathlib.Data.Rat.Floor

/-!
# Reading numbers in the JSON layout

Decimal digits are written in positional notation or with a power of ten.  Read as a decimal
number, either gives the value of the digits, rounded to 28 places, provided that it fits 96
bits; digits that do not fit 96 bits are refused.

Main results:

- Theorem `shift?_exact`: a power of ten that keeps the number within bounds is exact.
- Theorem `shift?_rounded`: one that leads beyond the last place rounds the number to it.
- Theorem `exists_writePositional_eq`: digits and places in positional notation.
- Theorem `ofText?_writeDigits`: what fits is read back with its value, rounded to 28 places.
- Theorem `ofText?_writeDigits_eq_none`: what is too large is refused.
-/

namespace ApiBinding

/-- A number has as many digits as places are needed for it. -/
theorem lt_pow_length_toDigits (n : Nat) : n < 10 ^ (Nat.toDigits 10 n).length :=
  (Nat.length_toDigits_le_iff (by decide) Nat.length_toDigits_pos).1 le_rfl

/-- The digits of a positive number reach up to its first one. -/
theorem pow_length_toDigits_le {n : Nat} (h : 0 < n) :
    10 ^ ((Nat.toDigits 10 n).length - 1) ≤ n := by
  by_contra hless
  rcases Nat.eq_zero_or_pos ((Nat.toDigits 10 n).length - 1) with hone | hmore
  · rw [hone] at hless
    omega
  · have hshort := (Nat.length_toDigits_le_iff (by decide) hmore).2 (Nat.lt_of_not_le hless)
    omega

namespace Decimal

/-! ## Rounding to places -/

/-- A magnitude rounded to the places that a decimal number can have, a half upwards. -/
def placed (r : ℚ) : ℚ :=
  round (r * 10 ^ maxScale) / 10 ^ maxScale

/-- What has few enough places is kept. -/
theorem placed_eq_self (n : Nat) {place : Int} (h : -28 ≤ place) :
    placed (n * 10 ^ place) = n * 10 ^ place := by
  obtain ⟨k, hk⟩ := Int.eq_ofNat_of_zero_le (show 0 ≤ place + 28 by omega)
  have hwhole : (n : ℚ) * 10 ^ place * 10 ^ maxScale = (n * 10 ^ k : Nat) := by
    rw [mul_assoc, ← zpow_natCast 10 maxScale, ← zpow_add₀ (by norm_num)]
    have hsum : place + (maxScale : ℤ) = k := hk
    rw [hsum, zpow_natCast]
    push_cast
    rfl
  rw [placed, hwhole, round_natCast, Int.cast_natCast, ← hwhole,
    mul_div_cancel_right₀ _ (by positivity)]

/-- The rounded quotient. -/
theorem roundUpDiv_eq (num : Nat) {den : Nat} (hden : 0 < den) :
    ((roundUpDiv num den : Nat) : ℤ) = round ((num : ℚ) / den) := by
  have hpositive : (den : ℚ) ≠ 0 := by positivity
  have hhalf : (num : ℚ) / den + 1 / 2 = ((2 * num + den : Nat) : ℚ) / (2 * den : Nat) := by
    push_cast
    field_simp
  rw [round_eq, hhalf, Rat.floor_natCast_div_natCast, roundUpDiv]
  norm_cast

/-! ## Powers of ten -/

/-- A power of ten that keeps the number within bounds is exact. -/
theorem shift?_exact (d : Decimal) {exponent : Int} (hexponent : exponent.natAbs ≤ maxScale)
    (hplaces : (d.scale : Int) - exponent ≤ 28)
    (hbound : d.coefficient * 10 ^ (exponent - d.scale).toNat < powerOfTwo 96) :
    ∃ shifted, d.shift? exponent = some shifted ∧
      shifted.value = signed d.negative (d.magnitude * 10 ^ exponent) := by
  rw [shift?, if_neg (Nat.not_lt.2 hexponent)]
  split
  · -- the places are moved, none of them is dropped
    rename_i hnegative
    have hfits : d.scale + exponent.natAbs ≤ 28 := by omega
    have hkept : d.dropPlaces (d.scale + exponent.natAbs - maxScale) = d := by
      have hzero : d.scale + exponent.natAbs - maxScale = 0 := Nat.sub_eq_zero_of_le hfits
      rw [hzero, dropPlaces, if_pos rfl]
    dsimp only
    simp only [hkept]
    refine ⟨_, dif_pos hfits, ?_⟩
    have hsum : (-((d.scale + exponent.natAbs : Nat) : ℤ)) = -(d.scale : ℤ) + exponent := by
      omega
    rw [value, magnitude, magnitude]
    dsimp only
    rw [hsum, zpow_add₀ (by norm_num), mul_assoc]
  · rename_i hpositive
    split
    · rename_i hwithin
      have hzero : (exponent - d.scale).toNat = 0 := by omega
      rw [hzero, pow_zero, mul_one] at hbound
      obtain ⟨shifted, heq, hvalue⟩ := make?_of_bounds d.negative hbound
        (Nat.le_trans (Nat.sub_le d.scale exponent.toNat) d.scale_le)
      refine ⟨shifted, heq, ?_⟩
      have hsum : (-((d.scale - exponent.toNat : Nat) : ℤ)) = -(d.scale : ℤ) + exponent := by
        omega
      rw [hvalue, magnitude, hsum, zpow_add₀ (by norm_num), mul_assoc]
    · rename_i hbeyond
      have htoNat : exponent.toNat - d.scale = (exponent - d.scale).toNat := by omega
      rw [htoNat, powerOfTen_eq]
      obtain ⟨shifted, heq, hvalue⟩ := make?_of_bounds d.negative hbound (Nat.zero_le _)
      refine ⟨shifted, heq, ?_⟩
      have hsum : (((exponent - d.scale).toNat : Nat) : ℤ) = -(d.scale : ℤ) + exponent := by
        omega
      rw [hvalue, magnitude, Nat.cast_mul, Nat.cast_pow, ← zpow_natCast, hsum,
        zpow_add₀ (by norm_num)]
      simp [mul_assoc]

/-- A power of ten that leads beyond the last place rounds the number to it. -/
theorem shift?_rounded (d : Decimal) {exponent : Int} (hexponent : exponent.natAbs ≤ maxScale)
    (hplaces : 28 < (d.scale : Int) - exponent) :
    ∃ shifted, d.shift? exponent = some shifted ∧
      shifted.value = signed d.negative (placed (d.magnitude * 10 ^ exponent)) := by
  have hscale := d.scale_le
  have hmost : exponent.natAbs ≤ 28 := hexponent
  obtain ⟨count, hcount⟩ : ∃ count, d.scale + exponent.natAbs - maxScale = count + 1 :=
    ⟨d.scale + exponent.natAbs - maxScale - 1, by unfold maxScale; omega⟩
  have htotal : d.scale - (count + 1) + exponent.natAbs = 28 := by
    unfold maxScale at hcount
    omega
  have hquotient : d.magnitude * 10 ^ exponent * 10 ^ maxScale =
      (d.coefficient : ℚ) / (powerOfTen (count + 1) : Nat) := by
    have hsum : -(d.scale : ℤ) + (exponent + (maxScale : ℤ)) = -((count + 1 : Nat) : ℤ) := by
      unfold maxScale at hcount ⊢
      omega
    rw [magnitude, mul_assoc, mul_assoc, ← zpow_natCast 10 maxScale,
      ← zpow_add₀ (by norm_num), ← zpow_add₀ (by norm_num), hsum, zpow_neg, zpow_natCast,
      powerOfTen_eq, Nat.cast_pow, div_eq_mul_inv]
    rfl
  have hdropped : d.dropPlaces (count + 1) =
      ⟨d.negative, roundUpDiv d.coefficient (powerOfTen (count + 1)), d.scale - (count + 1),
        (d.dropPlaces (count + 1)).coefficient_lt, (d.dropPlaces (count + 1)).scale_le⟩ := rfl
  rw [shift?, if_neg (Nat.not_lt.2 hexponent), if_pos (by omega), hcount]
  dsimp only
  simp only [hdropped]
  refine ⟨_, dif_pos htotal.le, ?_⟩
  rw [value, magnitude, placed, hquotient, ← roundUpDiv_eq _ (powerOfTen_pos _)]
  dsimp only
  rw [htotal, zpow_neg, zpow_natCast, div_eq_mul_inv]
  rfl

/-- A power of ten that takes the number beyond 96 bits is refused. -/
theorem shift?_eq_none (d : Decimal) {exponent : Int} (hpositive : 0 ≤ exponent)
    (hlarge : powerOfTwo 96 ≤ d.coefficient * 10 ^ (exponent - d.scale).toNat) :
    d.shift? exponent = none := by
  rw [shift?]
  split
  · rfl
  · rw [if_neg (by omega)]
    split
    · rename_i hwithin
      have hzero : (exponent - d.scale).toNat = 0 := by omega
      rw [hzero, pow_zero, mul_one] at hlarge
      exact absurd d.coefficient_lt (Nat.not_lt.2 hlarge)
    · have htoNat : exponent.toNat - d.scale = (exponent - d.scale).toNat := by omega
      rw [htoNat, powerOfTen_eq]
      exact dif_neg fun h => absurd h.1 (Nat.not_lt.2 hlarge)

/-- A written power of ten is read. -/
theorem readPower?_written (exponent : Int) :
    readPower? ((if exponent < 0 then '-' else '+') :: Nat.toDigits 10 exponent.natAbs) =
      some exponent := by
  obtain ⟨c, rest, heq⟩ := List.exists_cons_of_ne_nil
    (Nat.toDigits_ne_nil (n := exponent.natAbs) (b := 10))
  have hdigits : ∀ d ∈ c :: rest, d.isDigit = true := fun d hd =>
    isDigit_of_mem_toDigits (heq ▸ hd)
  have hall : (c :: rest).all Char.isDigit = true := List.all_eq_true.2 hdigits
  have hplus : c ≠ '+' := fun hc => absurd (hdigits c List.mem_cons_self) (by rw [hc]; decide)
  have hvalue := digitsValue_toDigits exponent.natAbs
  rw [heq] at hvalue ⊢
  rw [readPower?]
  split
  · simp [hplus, hall, hvalue, -Nat.cast_natAbs]
    omega
  · simp [hall, hvalue, -Nat.cast_natAbs]
    omega

end Decimal

/-! ## The two notations -/

namespace NumberLayout

/-- Digits and places in positional notation. -/
theorem exists_writePositional_eq (d : DecimalDigits) :
    ∃ whole fraction, json.writePositional d = whole ++ pointed fraction ∧ whole ≠ [] ∧
      (∀ c ∈ whole ++ fraction, c.isDigit = true) ∧
      fraction.length = (if 0 ≤ d.exponent then 1 else (-d.exponent).toNat) ∧
      digitsValue (whole ++ fraction) =
        if 0 ≤ d.exponent then d.coefficient * 10 ^ (d.exponent.toNat + 1) else d.coefficient := by
  have hdigit : ∀ c ∈ Nat.toDigits 10 d.coefficient, c.isDigit = true := fun c hc =>
    isDigit_of_mem_toDigits hc
  have hlength : 0 < (Nat.toDigits 10 d.coefficient).length := Nat.length_toDigits_pos
  have hzero : ∀ {n : Nat}, ∀ c ∈ List.replicate n '0', c.isDigit = true := fun c hc => by
    rw [List.eq_of_mem_replicate hc]
    decide
  rw [writePositional]
  by_cases hwhole : 0 ≤ d.exponent
  · -- a whole number: zeros up to the point, and one behind it
    simp only [if_pos hwhole]
    refine ⟨Nat.toDigits 10 d.coefficient ++ List.replicate d.exponent.toNat '0', ['0'], rfl,
      List.append_ne_nil_of_left_ne_nil Nat.toDigits_ne_nil _, fun c hc => ?_, rfl, ?_⟩
    · rcases List.mem_append.1 hc with hc | hc
      · exact (List.mem_append.1 hc).elim (hdigit c) (hzero c)
      · exact hzero (n := 1) c hc
    · rw [digitsValue_append, digitsValue_append, digitsValue_toDigits, digitsValue_zeros,
        List.length_replicate, pow_succ]
      simp [digitsValue, mul_assoc]
  · simp only [if_neg hwhole]
    by_cases hfirst : 0 ≤ leading d
    · -- the point stands between two digits
      rw [if_pos hfirst]
      have hplaces : (leading d).toNat + 1 < (Nat.toDigits 10 d.coefficient).length := by
        unfold leading at hfirst ⊢
        omega
      refine ⟨(Nat.toDigits 10 d.coefficient).take ((leading d).toNat + 1),
        (Nat.toDigits 10 d.coefficient).drop ((leading d).toNat + 1), ?_, ?_, ?_, ?_, ?_⟩
      · rw [pointed, if_neg]
        simpa using hplaces
      · simp
      · rw [List.take_append_drop]
        exact hdigit
      · rw [List.length_drop]
        unfold leading at hfirst ⊢
        omega
      · rw [List.take_append_drop, digitsValue_toDigits]
    · -- zeros stand between the point and the digits
      rw [if_neg hfirst]
      refine ⟨['0'], List.replicate ((-leading d).toNat - 1) '0' ++ Nat.toDigits 10 d.coefficient,
        ?_, by simp, fun c hc => ?_, ?_, ?_⟩
      · rw [pointed, if_neg]
        · rfl
        · simp
      · rcases List.mem_append.1 hc with hc | hc
        · exact hzero (n := 1) c hc
        · exact (List.mem_append.1 hc).elim (hzero c) (hdigit c)
      · rw [List.length_append, List.length_replicate]
        unfold leading at hfirst ⊢
        omega
      · rw [digitsValue_append, digitsValue_append, digitsValue_zeros, digitsValue_toDigits]
        simp [digitsValue]

/-- Digits in positional notation are read back. -/
theorem ofPlainText?_writePositional (negative : Bool) {d : DecimalDigits}
    (hcoefficient : d.coefficient < powerOfTwo 96) (hplaces : -28 ≤ d.exponent)
    (hfirst : leading d < 16) :
    ∃ read, Decimal.ofPlainText? (signChars negative ++ json.writePositional d) = some read ∧
      read.value = signed negative d.value := by
  obtain ⟨whole, fraction, heq, hwhole, hdigits, hlength, hvalue⟩ := exists_writePositional_eq d
  rw [heq]
  by_cases hsign : 0 ≤ d.exponent
  · rw [if_pos hsign] at hlength hvalue
    have hbound : d.coefficient * 10 ^ (d.exponent.toNat + 1) < powerOfTwo 96 := by
      calc d.coefficient * 10 ^ (d.exponent.toNat + 1)
          < 10 ^ (Nat.toDigits 10 d.coefficient).length * 10 ^ (d.exponent.toNat + 1) :=
            Nat.mul_lt_mul_of_pos_right (lt_pow_length_toDigits _) (by positivity)
        _ = 10 ^ ((Nat.toDigits 10 d.coefficient).length + (d.exponent.toNat + 1)) :=
            (pow_add ..).symm
        _ ≤ 10 ^ 17 := Nat.pow_le_pow_right (by decide) (by unfold leading at hfirst; omega)
        _ ≤ powerOfTwo 96 := by decide
    rw [← hvalue] at hbound
    rw [Decimal.ofPlainText?_written negative hwhole hdigits hbound (by rw [hlength]; decide)]
    obtain ⟨read, hread, hmade⟩ := Decimal.make?_of_bounds negative hbound
      (by rw [hlength]; decide : fraction.length ≤ Decimal.maxScale)
    refine ⟨read, hread, ?_⟩
    rw [hmade, hvalue, hlength, DecimalDigits.value]
    obtain ⟨exponent, hexponent⟩ := Int.eq_ofNat_of_zero_le hsign
    rw [hexponent, Int.toNat_natCast, Nat.cast_mul, Nat.cast_pow, zpow_natCast, pow_succ]
    norm_num
    ring_nf
  · rw [if_neg hsign] at hlength hvalue
    rw [← hvalue] at hcoefficient
    have hfew : fraction.length ≤ Decimal.maxScale := by
      rw [hlength, Decimal.maxScale]
      omega
    rw [Decimal.ofPlainText?_written negative hwhole hdigits hcoefficient hfew]
    obtain ⟨read, hread, hmade⟩ := Decimal.make?_of_bounds negative hcoefficient hfew
    refine ⟨read, hread, ?_⟩
    have hexponent : (-(fraction.length : ℤ)) = d.exponent := by omega
    rw [hmade, hvalue, hexponent, DecimalDigits.value]

/-- Digits and places in scientific notation. -/
theorem writeScientific_eq (d : DecimalDigits) :
    writeScientific d = (Nat.toDigits 10 d.coefficient).take 1 ++
      pointed ((Nat.toDigits 10 d.coefficient).drop 1) ++ 'e' ::
        ((if leading d < 0 then '-' else '+') :: Nat.toDigits 10 (leading d).natAbs) := rfl

end NumberLayout

namespace Decimal

/-- Neither a sign nor digits nor a point is the letter of a power of ten. -/
theorem ne_letter_of_mem_written {negative : Bool} {whole fraction : List Char}
    (hdigits : ∀ c ∈ whole ++ fraction, c.isDigit = true) {c : Char}
    (hc : c ∈ signChars negative ++ (whole ++ pointed fraction)) : c ≠ 'e' ∧ c ≠ 'E' := by
  have hdigit : c.isDigit = true → c ≠ 'e' ∧ c ≠ 'E' := fun hdigit =>
    ⟨fun he => absurd hdigit (by rw [he]; decide), fun he => absurd hdigit (by rw [he]; decide)⟩
  have hsign : c ∈ signChars negative → c = '-' := by
    cases negative <;> simp [signChars]
  have hpoint : c ∈ pointed fraction → c = '.' ∨ c ∈ fraction := by
    cases fraction <;> simp [pointed]
  rcases List.mem_append.1 hc with hc | hc
  · rw [hsign hc]
    decide
  · rcases List.mem_append.1 hc with hc | hc
    · exact hdigit (hdigits c (List.mem_append_left _ hc))
    · rcases hpoint hc with rfl | hc
      · decide
      · exact hdigit (hdigits c (List.mem_append_right _ hc))

/-- A text with a power of ten is read by shifting the number before it. -/
theorem ofText?_power {cs power : List Char} (hletter : ∀ c ∈ cs, c ≠ 'e' ∧ c ≠ 'E')
    (hplain : ofPlainText? (cs ++ 'e' :: power) = none) :
    ofText? (String.ofList (cs ++ 'e' :: power)) =
      (ofPlainText? cs).bind fun base => (readPower? power).bind base.shift? := by
  have hall : ∀ c ∈ cs, decide (c ≠ 'e' ∧ c ≠ 'E') = true := fun c hc =>
    decide_eq_true (hletter c hc)
  have hdrop : (cs ++ 'e' :: power).dropWhile (fun c => decide (c ≠ 'e' ∧ c ≠ 'E')) =
      'e' :: power := List.dropWhile_append_of_pos hall
  have htake : (cs ++ 'e' :: power).takeWhile (fun c => decide (c ≠ 'e' ∧ c ≠ 'E')) = cs :=
    (List.takeWhile_append_of_pos hall).trans (List.append_nil cs)
  rw [ofText?, String.toList_ofList]
  simp only [hplain, hdrop, htake]
  rfl

end Decimal

namespace NumberLayout

/-- Digits in scientific notation are read by shifting the number with one digit before its
point. -/
theorem ofText?_writeScientific (negative : Bool) {d : DecimalDigits}
    (hcoefficient : d.coefficient < 10 ^ 18) :
    ∃ base : Decimal, base.magnitude * 10 ^ leading d = d.value ∧
      base.negative = (negative && d.coefficient != 0) ∧ base.coefficient = d.coefficient ∧
      (base.scale : Int) = leading d - d.exponent ∧
      Decimal.ofText? (String.ofList (signChars negative ++ writeScientific d)) =
        base.shift? (leading d) := by
  have hlength : (Nat.toDigits 10 d.coefficient).length ≤ 18 :=
    (Nat.length_toDigits_le_iff (by decide) (by decide)).2 hcoefficient
  have hpositive : 0 < (Nat.toDigits 10 d.coefficient).length := Nat.length_toDigits_pos
  have hwhole : (Nat.toDigits 10 d.coefficient).take 1 ≠ [] := by simp
  have hvalue : digitsValue ((Nat.toDigits 10 d.coefficient).take 1 ++
      (Nat.toDigits 10 d.coefficient).drop 1) = d.coefficient := by
    rw [List.take_append_drop, digitsValue_toDigits]
  have hdigits : ∀ c ∈ (Nat.toDigits 10 d.coefficient).take 1 ++
      (Nat.toDigits 10 d.coefficient).drop 1, c.isDigit = true := fun c hc => by
    rw [List.take_append_drop] at hc
    exact isDigit_of_mem_toDigits hc
  have hbound : d.coefficient < powerOfTwo 96 := Nat.lt_trans hcoefficient (by decide)
  have hplaces : ((Nat.toDigits 10 d.coefficient).drop 1).length < Decimal.maxScale := by
    rw [List.length_drop, Decimal.maxScale]
    omega
  have hscale : ((Nat.toDigits 10 d.coefficient).drop 1).length = leading d - d.exponent := by
    rw [List.length_drop]
    unfold leading
    omega
  have hfits : digitsValue ((Nat.toDigits 10 d.coefficient).take 1 ++
      (Nat.toDigits 10 d.coefficient).drop 1) < powerOfTwo 96 := by
    rw [hvalue]
    exact hbound
  have hread := Decimal.ofPlainText?_written negative hwhole hdigits hfits hplaces.le
  rw [hvalue, Decimal.make?, dif_pos ⟨hbound, hplaces.le⟩] at hread
  refine ⟨⟨negative && d.coefficient != 0, d.coefficient,
    ((Nat.toDigits 10 d.coefficient).drop 1).length, hbound, hplaces.le⟩, ?_, rfl, rfl, hscale, ?_⟩
  · rw [Decimal.magnitude, DecimalDigits.value, mul_assoc, ← zpow_add₀ (by norm_num)]
    dsimp only
    rw [hscale, neg_sub, sub_add_cancel]
  · rw [writeScientific_eq, ← List.append_assoc, Decimal.ofText?_power, hread,
      Decimal.readPower?_written]
    · rfl
    · exact fun c hc => Decimal.ne_letter_of_mem_written hdigits hc
    · rw [List.append_assoc]
      exact Decimal.ofPlainText?_power negative hwhole hdigits hfits hplaces _

/-- The power of ten of the first digit. -/
theorem le_leading {d : DecimalDigits} {place : Int} (h : (10 : ℚ) ^ place ≤ d.value) :
    place ≤ leading d := by
  have hdigits : (d.coefficient : ℚ) < 10 ^ (Nat.toDigits 10 d.coefficient).length := by
    exact_mod_cast lt_pow_length_toDigits d.coefficient
  have hless : (10 : ℚ) ^ place < 10 ^ (leading d + 1) := by
    have hsum : leading d + 1 = ((Nat.toDigits 10 d.coefficient).length : ℤ) + d.exponent := by
      unfold leading
      omega
    rw [hsum, zpow_add₀ (by norm_num), zpow_natCast]
    exact h.trans_lt (mul_lt_mul_of_pos_right hdigits (by positivity))
  have horder := (zpow_lt_zpow_iff_right₀ (by norm_num)).1 hless
  omega

/-- Digits in the JSON layout that fit 96 bits are read back, rounded to 28 places. -/
theorem ofText?_writeDigits (negative : Bool) {d : DecimalDigits} (hpositive : 0 < d.coefficient)
    (hcoefficient : d.coefficient < 10 ^ 18) (hfirst : -28 ≤ leading d)
    (hbound : d.coefficient * 10 ^ d.exponent.toNat < powerOfTwo 96) :
    ∃ read, Decimal.ofText? (String.ofList (signChars negative ++ json.writeDigits d)) =
        some read ∧ read.value = signed negative (Decimal.placed d.value) := by
  have hlength : (Nat.toDigits 10 d.coefficient).length ≤ 18 :=
    (Nat.length_toDigits_le_iff (by decide) (by decide)).2 hcoefficient
  have hsome : 0 < (Nat.toDigits 10 d.coefficient).length := Nat.length_toDigits_pos
  by_cases hnear : d.coefficient = 0 ∨ (-5 ≤ leading d ∧ leading d < 16)
  · have hwrite : json.writeDigits d = json.writePositional d := if_pos hnear
    obtain ⟨hlow, hhigh⟩ := hnear.resolve_left hpositive.ne'
    have hplaces : -28 ≤ d.exponent := by
      unfold leading at hlow
      omega
    obtain ⟨read, hread, hvalue⟩ := ofPlainText?_writePositional negative
      (Nat.lt_trans hcoefficient (by decide)) hplaces hhigh
    refine ⟨read, ?_, ?_⟩
    · rw [hwrite, Decimal.ofText?, String.toList_ofList]
      simp only [hread]
    · rw [hvalue, DecimalDigits.value, Decimal.placed_eq_self _ hplaces]
  · have hwrite : json.writeDigits d = writeScientific d := if_neg hnear
    obtain ⟨base, hmagnitude, hnegative, hdigits, hscale, hread⟩ :=
      ofText?_writeScientific negative hcoefficient
    have hsum : leading d - base.scale = d.exponent := by omega
    have hrange : (leading d).natAbs ≤ Decimal.maxScale := by
      have hlow : 10 ^ ((Nat.toDigits 10 d.coefficient).length - 1) * 10 ^ d.exponent.toNat <
          10 ^ 29 :=
        Nat.lt_of_le_of_lt (Nat.mul_le_mul_right _ (pow_length_toDigits_le hpositive))
          (Nat.lt_trans hbound (by decide))
      rw [← pow_add] at hlow
      have hshort := (Nat.pow_lt_pow_iff_right (by decide)).1 hlow
      unfold leading Decimal.maxScale at *
      omega
    have hsign : base.negative = negative := by
      rw [hnegative, bne_iff_ne.2 hpositive.ne', Bool.and_true]
    by_cases hplaces : -28 ≤ d.exponent
    · obtain ⟨read, hshift, hvalue⟩ := base.shift?_exact hrange (by omega)
        (by rw [hsum, hdigits]; exact hbound)
      refine ⟨read, by rw [hwrite, hread, hshift], ?_⟩
      rw [hvalue, hmagnitude, hsign, DecimalDigits.value, Decimal.placed_eq_self _ hplaces]
    · obtain ⟨read, hshift, hvalue⟩ := base.shift?_rounded hrange (by omega)
      refine ⟨read, by rw [hwrite, hread, hshift], ?_⟩
      rw [hvalue, hmagnitude, hsign]

/-- Digits in the JSON layout that do not fit 96 bits are refused. -/
theorem ofText?_writeDigits_eq_none (negative : Bool) {d : DecimalDigits}
    (hcoefficient : d.coefficient < 10 ^ 18)
    (hlarge : powerOfTwo 96 ≤ d.coefficient * 10 ^ d.exponent.toNat) :
    Decimal.ofText? (String.ofList (signChars negative ++ json.writeDigits d)) = none := by
  have hhigh : 10 ^ 28 < 10 ^ (Nat.toDigits 10 d.coefficient).length * 10 ^ d.exponent.toNat :=
    calc 10 ^ 28 < powerOfTwo 96 := by decide
      _ ≤ d.coefficient * 10 ^ d.exponent.toNat := hlarge
      _ ≤ 10 ^ (Nat.toDigits 10 d.coefficient).length * 10 ^ d.exponent.toNat :=
        Nat.mul_le_mul_right _ (lt_pow_length_toDigits _).le
  rw [← pow_add] at hhigh
  have hlong := (Nat.pow_lt_pow_iff_right (by decide)).1 hhigh
  have hlength : (Nat.toDigits 10 d.coefficient).length ≤ 18 :=
    (Nat.length_toDigits_le_iff (by decide) (by decide)).2 hcoefficient
  have hleading : 28 ≤ leading d := by
    unfold leading
    omega
  have hfar : ¬(d.coefficient = 0 ∨ (-5 ≤ leading d ∧ leading d < 16)) := by
    rintro (hzero | hnear)
    · rw [hzero, Nat.zero_mul] at hlarge
      exact absurd hlarge (by decide)
    · omega
  have hwrite : json.writeDigits d = writeScientific d := if_neg hfar
  obtain ⟨base, -, -, hdigits, hscale, hread⟩ := ofText?_writeScientific negative hcoefficient
  have hsum : leading d - base.scale = d.exponent := by omega
  rw [hwrite, hread, base.shift?_eq_none (by omega)]
  rw [hsum, hdigits]
  exact hlarge

end NumberLayout

end ApiBinding
