import ApiBinding.Number.Stepwise
import ApiBinding.Proofs.Number.ShortestDigits

/-!
# Numbers read step by step

Digits are taken as a whole number of 64 bits, which is rounded to the binary64 format and then
multiplied or divided by a power of ten of the format.  If the whole number and the power are
exact there, only the last step rounds, and what is read is the nearest number.  In general each
step is off by a part of the last bit, which still fixes the size of the number.

Main results:

- Theorem `takeDigits_spec`: the digits that are taken, and the size they have when some are left.
- Theorem `ofSteps_exact`: at most 53 bits and 22 places are read as the nearest number.
- Theorem `ofSteps_near`: the size of what is read for any digits of a decimal number.
- Theorem `exists_readBinary64_eq`: the digits and the power that a decimal number is read with.
-/

namespace ApiBinding

/-! ## Taking digits -/

/-- Digits are taken from the front.  If some are left out, then those that are taken have a
value of at least eighteen digits. -/
theorem takeDigits_spec (value : Nat) {cs : List Char} (hdigits : ∀ c ∈ cs, c.isDigit = true)
    (hvalue : value < naturalBound) :
    ∃ taken, cs = taken ++ (takeDigits value cs).2 ∧
      (takeDigits value cs).1 = value * 10 ^ taken.length + digitsValue taken ∧
      (takeDigits value cs).1 < naturalBound ∧
      ((takeDigits value cs).2 ≠ [] → 10 ^ 18 ≤ (takeDigits value cs).1) := by
  induction cs generalizing value with
  | nil => exact ⟨[], rfl, by simp [takeDigits, digitsValue], hvalue, fun h => absurd rfl h⟩
  | cons c rest ih =>
      rw [takeDigits]
      split
      · rename_i hfits
        obtain ⟨taken, hsplit, hsum, hbound, hlarge⟩ :=
          ih _ (fun d hd => hdigits d (List.mem_cons_of_mem c hd)) hfits
        have hcons := digitsValue_append [c] taken
        have hhead : digitsValue [c] = c.toNat - 0x30 := by simp [digitsValue]
        rw [List.singleton_append, hhead] at hcons
        refine ⟨c :: taken, congrArg (c :: ·) hsplit, ?_, hbound, hlarge⟩
        rw [hsum, hcons, List.length_cons, pow_succ]
        ring
      · rename_i hlarge
        refine ⟨[], rfl, by simp [digitsValue], hvalue, fun _ => ?_⟩
        have hdigit : c.toNat ≤ 0x39 := by
          have h := hdigits c List.mem_cons_self
          simp only [Char.isDigit, ge_iff_le, Bool.and_eq_true, decide_eq_true_eq] at h
          exact h.2
        rw [naturalBound_eq] at hlarge
        omega

/-- All digits are taken if they fit. -/
theorem takeDigits_of_lt {value : Nat} {cs : List Char} (hdigits : ∀ c ∈ cs, c.isDigit = true)
    (hfits : value * 10 ^ cs.length + digitsValue cs < naturalBound) :
    takeDigits value cs = (value * 10 ^ cs.length + digitsValue cs, []) := by
  induction cs generalizing value with
  | nil => simp [takeDigits, digitsValue]
  | cons c rest ih =>
      have hcons := digitsValue_append [c] rest
      have hhead : digitsValue [c] = c.toNat - 0x30 := by simp [digitsValue]
      rw [List.singleton_append, hhead] at hcons
      have hsum : value * 10 ^ (c :: rest).length + digitsValue (c :: rest) =
          (value * 10 + (c.toNat - 0x30)) * 10 ^ rest.length + digitsValue rest := by
        rw [hcons, List.length_cons, pow_succ]
        ring
      rw [hsum] at hfits ⊢
      have hnext : value * 10 + (c.toNat - 0x30) < naturalBound :=
        Nat.lt_of_le_of_lt (Nat.le_trans (Nat.le_mul_of_pos_right _ (by positivity))
          (Nat.le_add_right ..)) hfits
      rw [takeDigits, if_pos hnext, ih (fun d hd => hdigits d (List.mem_cons_of_mem c hd)) hfits]

namespace Binary64

/-! ## Powers of ten -/

/-- The factor that the format has for a power of ten. -/
def powerFactor (exponent : Int) : ℚ :=
  if exponent < 0 then (nearestPower exponent.natAbs : ℚ)⁻¹ else nearestPower exponent.natAbs

/-- Up to 22 the powers of ten are numbers of the format. -/
theorem nearestPower_exact {n : Nat} (h : n ≤ 22) : nearestPower n = 10 ^ n := by
  have hall : ∀ n < 23, nearestPower n = 10 ^ n := by decide
  exact hall n (by omega)

/-- Up to 28 the powers of ten are off by less than one part in a thousand. -/
theorem nearestPower_near {n : Nat} (h : n ≤ 28) :
    (999 / 1000 : ℚ) * 10 ^ n ≤ nearestPower n ∧ (nearestPower n : ℚ) ≤ 1001 / 1000 * 10 ^ n := by
  have hall : ∀ n < 29, 999 * 10 ^ n ≤ nearestPower n * 1000 ∧
      nearestPower n * 1000 ≤ 1001 * 10 ^ n := by decide
  obtain ⟨hlow, hhigh⟩ := hall n (by omega)
  have hlow : (999 * 10 ^ n : ℚ) ≤ nearestPower n * 1000 := by exact_mod_cast hlow
  have hhigh : (nearestPower n * 1000 : ℚ) ≤ 1001 * 10 ^ n := by exact_mod_cast hhigh
  constructor <;> linarith

/-- The exact factors. -/
theorem powerFactor_exact {exponent : Int} (h : exponent.natAbs ≤ 22) :
    powerFactor exponent = 10 ^ exponent := by
  rw [powerFactor, nearestPower_exact h]
  split
  · have hneg : exponent = -(exponent.natAbs : ℤ) := by omega
    conv_rhs => rw [hneg, zpow_neg, zpow_natCast]
    push_cast
    rfl
  · have hpos : exponent = (exponent.natAbs : ℤ) := by omega
    conv_rhs => rw [hpos, zpow_natCast]
    push_cast
    rfl

/-- All factors are near the powers of ten. -/
theorem powerFactor_near (exponent : Int) (h : exponent.natAbs ≤ 28) :
    (99 / 100 : ℚ) * 10 ^ exponent ≤ powerFactor exponent ∧
      powerFactor exponent ≤ 101 / 100 * 10 ^ exponent := by
  obtain ⟨hlow, hhigh⟩ := nearestPower_near h
  have hten : (0 : ℚ) < 10 ^ exponent.natAbs := by positivity
  rw [powerFactor]
  split
  · have hneg : (10 : ℚ) ^ exponent = (10 ^ exponent.natAbs)⁻¹ := by
      rw [← zpow_natCast, ← zpow_neg]
      congr 1
      omega
    have hpositive : (0 : ℚ) < nearestPower exponent.natAbs := by linarith
    rw [hneg]
    constructor
    · rw [← div_eq_mul_inv, div_le_iff₀ hten, ← div_eq_inv_mul, le_div_iff₀ hpositive]
      linarith
    · rw [← div_eq_mul_inv, le_div_iff₀ hten, ← div_eq_inv_mul, div_le_iff₀ hpositive]
      linarith
  · have hpos : (10 : ℚ) ^ exponent = 10 ^ exponent.natAbs := by
      rw [← zpow_natCast]
      congr 1
      omega
    rw [hpos]
    constructor <;> linarith

/-! ## Steps -/

/-- The value of a number that a positive ratio of moderate size is rounded to. -/
theorem ofRatio_near (negative : Bool) {num den : Nat} (hnum : 0 < num) (hden : 0 < den)
    (hlow : (2 : ℚ) ^ (-120 : ℤ) ≤ num / den) (hhigh : (num : ℚ) / den ≤ 2 ^ (120 : ℤ)) :
    ∃ significand exponent, ofRatio negative num den = .finite negative significand exponent ∧
      Moderate significand exponent ∧
      (DecimalDigits.Interval.of significand exponent).Contains (num / den) ∧
      (99 / 100 : ℚ) * (num / den) ≤ significand * 2 ^ exponent ∧
      (significand : ℚ) * 2 ^ exponent ≤ 101 / 100 * (num / den) := by
  obtain ⟨significand, exponent, heq, hmoderate, hcontains⟩ :=
    ofRatio_spec negative hnum hden hlow hhigh
  obtain ⟨hbelow, habove⟩ := DecimalDigits.between_of_contains hmoderate hcontains
  have hfull := (DecimalDigits.significand_bounds hmoderate).1
  have hgap := (DecimalDigits.gapBelow_bounds significand).2
  have hunit : (0 : ℚ) < 2 ^ exponent := by positivity
  have hbits := mul_le_mul_of_nonneg_right hfull hunit.le
  have hstep := mul_le_mul_of_nonneg_right hgap hunit.le
  exact ⟨significand, exponent, heq, hmoderate, hcontains, by linarith, by linarith⟩

/-- A whole number of at most 53 bits is a number of the format. -/
theorem ofRatio_exact (negative : Bool) {n : Nat} (hpositive : 0 < n) (hfits : n < 2 ^ 53) :
    ∃ significand exponent, ofRatio negative n 1 = .finite negative significand exponent ∧
      (significand : ℚ) * 2 ^ exponent = n := by
  have hone : (1 : ℚ) ≤ n := by exact_mod_cast hpositive
  have hmost : (n : ℚ) < 2 ^ 53 := by exact_mod_cast hfits
  obtain ⟨-, -, h52, h53⟩ := ratioExponent_spec hpositive Nat.one_pos
    (by rw [Nat.cast_one, div_one]; exact le_trans (by norm_num) hone)
    (by rw [Nat.cast_one, div_one]; exact hmost.le.trans (by norm_num))
  rw [Nat.cast_one, div_one] at h52 h53
  have hexponent : ratioExponent n 1 ≤ 0 := by
    by_contra habove
    have hhalf : (2 : ℚ) ^ (-ratioExponent n 1) ≤ 2 ^ (-1 : ℤ) :=
      zpow_le_zpow_right₀ (by norm_num) (by omega)
    have hless := mul_le_mul_of_nonneg_left hhalf (zero_le_one.trans hone)
    rw [zpow_neg_one] at hless
    linarith
  obtain ⟨k, hk⟩ := Int.eq_ofNat_of_zero_le (show 0 ≤ -ratioExponent n 1 by omega)
  rw [hk, zpow_natCast] at h53
  have hbits : n * 2 ^ k < 2 ^ 53 := by exact_mod_cast h53
  have hscaled : scaleRatio n 1 (ratioExponent n 1) = (n * 2 ^ k, 1) := by
    rw [scaleRatio]
    split
    · rw [hk, Int.toNat_natCast, powerOfTwo_eq]
    · have hzero : ratioExponent n 1 = 0 := by omega
      obtain rfl : k = 0 := by omega
      simp [hzero, powerOfTwo_eq]
  have hround : roundDiv (n * 2 ^ k) 1 = n * 2 ^ k := by simp [roundDiv, Nat.mod_one]
  refine ⟨n * 2 ^ k, ratioExponent n 1, ?_, ?_⟩
  · have hbelow : ¬maxExponent < ratioExponent n 1 := by
      unfold maxExponent
      omega
    rw [ofRatio, if_neg hpositive.ne']
    dsimp only
    rw [hscaled, hround, powerOfTwo_eq, if_neg hbits.ne, if_neg hbelow]
  · have hneg : ratioExponent n 1 = -(k : ℤ) := by omega
    rw [hneg, zpow_neg, zpow_natCast]
    push_cast
    field_simp

/-- The last step multiplies or divides by a power of ten, and rounds. -/
theorem ofSteps_eq (negative : Bool) {digits significand : Nat} (power : Int) {exponent : Int}
    (hpower : power.natAbs ≤ 28)
    (hdigits : ofRatio negative digits 1 = .finite negative significand exponent) :
    ∃ num den : Nat, ofSteps negative digits power = ofRatio negative num den ∧ 0 < den ∧
      (num : ℚ) / den = significand * 2 ^ exponent * powerFactor power := by
  have hratio := magnitudeRatio_div significand exponent
  have hnear := (nearestPower_near hpower).1
  have hten : (0 : ℚ) < 999 / 1000 * 10 ^ power.natAbs := by positivity
  have hpositive : 0 < nearestPower power.natAbs := by
    exact_mod_cast hten.trans_le hnear
  have hden : 0 < (magnitudeRatio significand exponent).2 := by
    rw [magnitudeRatio]
    split
    · exact powerOfTwo_pos _
    · exact Nat.one_pos
  rw [ofSteps, hdigits]
  dsimp only
  split
  · rename_i hnegative
    have hturns : (power.natAbs - 1) / greatestPower = 0 :=
      Nat.div_eq_of_lt (by unfold greatestPower; omega)
    rw [hturns, Nat.zero_mul, Nat.sub_zero]
    refine ⟨_, _, rfl, Nat.mul_pos hden hpositive, ?_⟩
    rw [powerFactor, if_pos hnegative, ← hratio, Nat.cast_mul, div_mul_eq_div_div,
      div_eq_mul_inv _ (nearestPower power.natAbs : ℚ)]
  · rename_i hnonneg
    rw [if_pos (by unfold greatestPower; omega)]
    refine ⟨_, _, rfl, hden, ?_⟩
    rw [powerFactor, if_neg hnonneg, ← hratio, Nat.cast_mul]
    ring

/-- If the digits and the power are exact, then what is read is the nearest number. -/
theorem ofSteps_exact (negative : Bool) {digits : Nat} (power : Int) (hpositive : 0 < digits)
    (hfits : digits < 2 ^ 53) (hlow : -22 ≤ power) (hhigh : power ≤ 0) :
    ∃ significand exponent, ofSteps negative digits power =
        .finite negative significand exponent ∧ Moderate significand exponent ∧
      (DecimalDigits.Interval.of significand exponent).Contains (digits * 10 ^ power) := by
  obtain ⟨whole, place, hwhole, hvalue⟩ := ofRatio_exact negative hpositive hfits
  obtain ⟨num, den, heq, hden, hratio⟩ := ofSteps_eq negative power (by omega) hwhole
  rw [hvalue, powerFactor_exact (by omega)] at hratio
  have hone : (1 : ℚ) ≤ digits := by exact_mod_cast hpositive
  have hmost : (digits : ℚ) ≤ 2 ^ 53 := by exact_mod_cast hfits.le
  have hleast : (10 : ℚ) ^ (-22 : ℤ) ≤ 10 ^ power := zpow_le_zpow_right₀ (by norm_num) hlow
  have hgreatest : (10 : ℚ) ^ power ≤ 1 := zpow_le_one_of_nonpos₀ (by norm_num) hhigh
  have hnum : 0 < num := by
    refine Nat.pos_of_ne_zero fun hzero => ?_
    rw [hzero, Nat.cast_zero, zero_div] at hratio
    have hproduct : (0 : ℚ) < digits * 10 ^ power := by positivity
    linarith
  rw [← hratio, heq]
  refine ofRatio_spec negative hnum hden ?_ ?_ <;> rw [hratio]
  · calc (2 : ℚ) ^ (-120 : ℤ) ≤ 1 * 10 ^ (-22 : ℤ) := by norm_num
      _ ≤ _ := mul_le_mul hone hleast (by positivity) (by linarith)
  · calc (digits : ℚ) * 10 ^ power ≤ 2 ^ 53 * 1 :=
          mul_le_mul hmost hgreatest (by positivity) (by norm_num)
      _ ≤ 2 ^ (120 : ℤ) := by norm_num

/-- What is read for the digits of a decimal number has their size. -/
theorem ofSteps_near (negative : Bool) {digits : Nat} {power : Int} (hpositive : 0 < digits)
    (hfits : digits < naturalBound) (hlow : -28 ≤ power) (hhigh : power ≤ 10) :
    ∃ significand exponent, ofSteps negative digits power =
        .finite negative significand exponent ∧ Moderate significand exponent ∧
      (96 / 100 : ℚ) * (digits * 10 ^ power) ≤ significand * 2 ^ exponent := by
  have hone : (1 : ℚ) ≤ digits := by exact_mod_cast hpositive
  have hmost : (digits : ℚ) ≤ 2 ^ 64 := by
    rw [naturalBound, powerOfTwo_eq] at hfits
    exact_mod_cast hfits.le
  obtain ⟨whole, place, hwhole, -, -, hfrom, hto⟩ := ofRatio_near negative hpositive Nat.one_pos
    (by rw [Nat.cast_one, div_one]; exact le_trans (by norm_num) hone)
    (by rw [Nat.cast_one, div_one]; exact hmost.trans (by norm_num))
  rw [Nat.cast_one, div_one] at hfrom hto
  obtain ⟨num, den, heq, hden, hratio⟩ := ofSteps_eq negative power (by omega) hwhole
  obtain ⟨hfactorLow, hfactorHigh⟩ := powerFactor_near power (by omega)
  have hten : (0 : ℚ) < 10 ^ power := by positivity
  have hleast : (10 : ℚ) ^ (-28 : ℤ) ≤ 10 ^ power := zpow_le_zpow_right₀ (by norm_num) hlow
  have hgreatest : (10 : ℚ) ^ power ≤ 10 ^ (10 : ℤ) := zpow_le_zpow_right₀ (by norm_num) hhigh
  -- both steps before the last one are off by one part in a hundred at most
  have hbelow : (98 / 100 : ℚ) * (digits * 10 ^ power) ≤ num / den := by
    rw [hratio]
    calc (98 / 100 : ℚ) * (digits * 10 ^ power)
        ≤ (99 / 100 * digits) * (99 / 100 * 10 ^ power) := by
          have hproduct : (0 : ℚ) < digits * 10 ^ power := by positivity
          linarith
      _ ≤ _ := mul_le_mul hfrom hfactorLow (by positivity) (le_trans (by positivity) hfrom)
  have habove : (num : ℚ) / den ≤ 2 ^ (120 : ℤ) := by
    rw [hratio]
    calc (whole : ℚ) * 2 ^ place * powerFactor power
        ≤ (101 / 100 * 2 ^ 64) * (101 / 100 * 10 ^ (10 : ℤ)) :=
          mul_le_mul (by linarith) (by linarith)
            (le_trans (by positivity) hfactorLow) (by norm_num)
      _ ≤ 2 ^ (120 : ℤ) := by norm_num
  have hsmall : (2 : ℚ) ^ (-120 : ℤ) ≤ num / den := by
    refine le_trans ?_ hbelow
    calc (2 : ℚ) ^ (-120 : ℤ) ≤ 98 / 100 * (1 * 10 ^ (-28 : ℤ)) := by norm_num
      _ ≤ _ := mul_le_mul_of_nonneg_left
          (mul_le_mul hone hleast (by positivity) (by linarith)) (by norm_num)
  have hnum : 0 < num := by
    refine Nat.pos_of_ne_zero fun hzero => ?_
    rw [hzero, Nat.cast_zero, zero_div] at hsmall
    exact absurd hsmall (by norm_num)
  obtain ⟨significand, exponent, hrounded, hmoderate, -, hnear, -⟩ :=
    ofRatio_near negative hnum hden hsmall habove
  refine ⟨significand, exponent, heq.trans hrounded, hmoderate, le_trans ?_ hnear⟩
  have hproduct : (0 : ℚ) < digits * 10 ^ power := by positivity
  linarith

/-- The shortest digits of what is read for a decimal number have a place that it can have. -/
theorem exists_ofSteps_eq (negative : Bool) (tie : Tie) {digits : Nat} {power : Int}
    (hpositive : 0 < digits) (hfits : digits < naturalBound) (hlow : -28 ≤ power)
    (hhigh : power ≤ 10) :
    ∃ significand exponent, ofSteps negative digits power =
        .finite negative significand exponent ∧ Moderate significand exponent ∧
      (10 : ℚ) ^ (-28 : ℤ) ≤ (DecimalDigits.shortest tie significand exponent).value := by
  by_cases hleast : digits = 1 ∧ power = -28
  · -- the least number is read as the one above it
    obtain ⟨rfl, rfl⟩ := hleast
    have hread : ofSteps negative 1 (-28) = .finite negative 8920298079412250 (-146) := by
      cases negative <;> decide
    have hshortest : DecimalDigits.shortest tie 8920298079412250 (-146) =
        ⟨10000000000000001, -44⟩ := by
      cases tie <;> decide
    refine ⟨_, _, hread, ⟨by decide, by decide, by decide, by decide⟩, ?_⟩
    rw [hshortest, DecimalDigits.value]
    norm_num
  · obtain ⟨significand, exponent, heq, hmoderate, hnear⟩ :=
      ofSteps_near negative hpositive hfits hlow hhigh
    refine ⟨significand, exponent, heq, hmoderate, ?_⟩
    have hbelow := (DecimalDigits.between_of_contains hmoderate
      (DecimalDigits.shortest_spec tie hmoderate).1).1
    have hgap := (DecimalDigits.gapBelow_bounds significand).2
    have hfull := (DecimalDigits.significand_bounds hmoderate).1
    have hunit : (0 : ℚ) < 2 ^ exponent := by positivity
    have hstep := mul_le_mul_of_nonneg_right hgap hunit.le
    have hbits := mul_le_mul_of_nonneg_right hfull hunit.le
    have htwice : (2 : ℚ) * 10 ^ (-28 : ℤ) ≤ digits * 10 ^ power := by
      rcases Nat.lt_or_ge 1 digits with hmore | hone
      · have hdigits : (2 : ℚ) ≤ digits := by exact_mod_cast hmore
        exact mul_le_mul hdigits (zpow_le_zpow_right₀ (by norm_num) hlow) (by positivity)
          (by positivity)
      · obtain rfl : digits = 1 := by omega
        have hpower : (10 : ℚ) ^ (-27 : ℤ) ≤ 10 ^ power :=
          zpow_le_zpow_right₀ (by norm_num) (by omega)
        rw [Nat.cast_one, one_mul]
        exact le_trans (by norm_num) hpower
    linarith

end Binary64

namespace WrittenNumber

variable {whole fraction : List Char}

/-- Digits and places that fit 64 bits are all taken. -/
theorem readBinary64_of_lt (negative : Bool)
    (hdigits : ∀ c ∈ whole ++ fraction, c.isDigit = true)
    (hfits : digitsValue (whole ++ fraction) < naturalBound) :
    readBinary64 ⟨negative, whole, fraction, 0⟩ =
      Binary64.ofSteps negative (digitsValue (whole ++ fraction)) (-(fraction.length : Int)) := by
  rw [digitsValue_append] at hfits ⊢
  have hwhole : 0 * 10 ^ whole.length + digitsValue whole < naturalBound := by
    rw [Nat.zero_mul, Nat.zero_add]
    exact Nat.lt_of_le_of_lt (Nat.le_trans (Nat.le_mul_of_pos_right _ (by positivity))
      (Nat.le_add_right ..)) hfits
  rw [readBinary64]
  simp only [takeDigits_of_lt (fun c hc => hdigits c (List.mem_append_left _ hc)) hwhole,
    Nat.zero_mul, Nat.zero_add,
    takeDigits_of_lt (fun c hc => hdigits c (List.mem_append_right _ hc)) hfits]
  simp

/-- Of the digits of a decimal number some are taken, with a power of ten of moderate size. -/
theorem exists_readBinary64_eq (negative : Bool)
    (hdigits : ∀ c ∈ whole ++ fraction, c.isDigit = true)
    (hpositive : 0 < digitsValue (whole ++ fraction))
    (hbound : digitsValue (whole ++ fraction) < powerOfTwo 96) (hplaces : fraction.length ≤ 28) :
    ∃ digits power, readBinary64 ⟨negative, whole, fraction, 0⟩ =
        Binary64.ofSteps negative digits power ∧
      0 < digits ∧ digits < naturalBound ∧ -28 ≤ power ∧ power ≤ 10 := by
  obtain ⟨taken, hwhole, hvalue, hfits, hlarge⟩ := takeDigits_spec 0
    (fun c hc => hdigits c (List.mem_append_left _ hc)) (by decide)
  obtain ⟨places, hfraction, hsum, hless, hmany⟩ := takeDigits_spec _
    (fun c hc => hdigits c (List.mem_append_right _ hc)) hfits
  have hsplit := digitsValue_append whole fraction
  have hmost : (takeDigits 0 whole).2.length ≤ 10 := by
    by_contra hlong
    have hsize := hlarge fun hnone => by simp [hnone] at hlong
    have hpower : 10 ^ 11 ≤ 10 ^ (takeDigits 0 whole).2.length :=
      Nat.pow_le_pow_right (by decide) (by omega)
    have hreach : 10 ^ 18 * 10 ^ 11 ≤ digitsValue whole := by
      calc 10 ^ 18 * 10 ^ 11
          ≤ digitsValue taken * 10 ^ (takeDigits 0 whole).2.length := by
            rw [hvalue, Nat.zero_mul, Nat.zero_add] at hsize
            exact Nat.mul_le_mul hsize hpower
        _ ≤ digitsValue whole := by
            conv_rhs => rw [hwhole, digitsValue_append]
            exact Nat.le_add_right ..
    have hwider : digitsValue whole ≤ digitsValue whole * 10 ^ fraction.length :=
      Nat.le_mul_of_pos_right _ (by positivity)
    have hlimit : powerOfTwo 96 ≤ 10 ^ 18 * 10 ^ 11 := by decide
    omega
  refine ⟨_, _, rfl, Nat.pos_of_ne_zero fun hzero => ?_, hless, by dsimp only; omega,
    by dsimp only; omega⟩
  dsimp only at hzero
  -- if all digits are taken, then their value is that of the number
  have hall : (takeDigits (takeDigits 0 whole).1 fraction).2 = [] := by
    by_contra hrest
    have hsize := hmany hrest
    omega
  have hstart : (takeDigits 0 whole).1 = 0 := by
    have hgrown : (takeDigits 0 whole).1 ≤ (takeDigits 0 whole).1 * 10 ^ places.length :=
      Nat.le_mul_of_pos_right _ (by positivity)
    omega
  have hnone : (takeDigits 0 whole).2 = [] := by
    by_contra hrest
    have hsize := hlarge hrest
    omega
  rw [hnone, List.append_nil] at hwhole
  rw [hall, List.append_nil] at hfraction
  rw [← hwhole, hstart, Nat.zero_mul, Nat.zero_add] at hvalue
  rw [← hfraction, hzero, hstart, Nat.zero_mul, Nat.zero_add] at hsum
  rw [hsplit, ← hvalue, ← hsum] at hpositive
  exact absurd hpositive (by simp)

end WrittenNumber

end ApiBinding
