import ApiBinding.Number.Shortest
import ApiBinding.Proofs.Number.Digits
import Mathlib.Algebra.Order.Field.Power
import Mathlib.Algebra.Order.Field.Rat
import Mathlib.Tactic.FieldSimp
import Mathlib.Tactic.Linarith
import Mathlib.Tactic.NormNum
import Mathlib.Tactic.Positivity

/-!
# Rounding to the binary64 format

The interval of a number of the format holds the numbers that are rounded to it.  A ratio of
moderate size is rounded to a number with a significand of 53 bits, and lies in its interval.

Main results:

- Theorem `roundDiv_spec`: a rounded quotient is off by at most a half, and by less if it is odd.
- Theorem `ratioExponent_spec`: the exponent at which the significand has 53 bits.
- Theorem `contains_of_iff`: the ends of the interval of a number.
- Theorem `ofRatio_spec`: a ratio lies in the interval of the number it is rounded to.
- Theorem `ofDecimal_spec`: a decimal number lies in the interval of the nearest number.
-/

namespace ApiBinding

namespace DecimalDigits

/-- Whether a number lies in an interval. -/
def Interval.Contains (interval : Interval) (r : ℚ) : Prop :=
  if interval.closed then
    (interval.lower : ℚ) / interval.denominator ≤ r ∧ r ≤ interval.upper / interval.denominator
  else
    (interval.lower : ℚ) / interval.denominator < r ∧ r < interval.upper / interval.denominator

end DecimalDigits

namespace Binary64

/-! ## Ratios -/

/-- A magnitude as a ratio. -/
theorem magnitudeRatio_div (significand : Nat) (exponent : Int) :
    ((magnitudeRatio significand exponent).1 : ℚ) / (magnitudeRatio significand exponent).2 =
      significand * 2 ^ exponent := by
  rw [magnitudeRatio]
  split
  · rename_i hnegative
    obtain ⟨n, hn⟩ := Int.eq_ofNat_of_zero_le (show 0 ≤ -exponent by omega)
    rw [hn, Int.toNat_natCast, powerOfTwo_eq, Nat.cast_pow, ← neg_neg exponent, hn, zpow_neg,
      zpow_natCast]
    rfl
  · rename_i hpositive
    obtain ⟨n, hn⟩ := Int.eq_ofNat_of_zero_le (not_lt.1 hpositive)
    rw [hn, Int.toNat_natCast, powerOfTwo_eq, zpow_natCast]
    push_cast
    rw [div_one]

/-- A ratio divided by a power of two. -/
theorem scaleRatio_div (num den : Nat) (exponent : Int) :
    ((scaleRatio num den exponent).1 : ℚ) / (scaleRatio num den exponent).2 =
      num / den * 2 ^ (-exponent) := by
  rw [scaleRatio]
  split
  · rename_i hnegative
    obtain ⟨n, hn⟩ := Int.eq_ofNat_of_zero_le (show 0 ≤ -exponent by omega)
    rw [hn, Int.toNat_natCast, powerOfTwo_eq, zpow_natCast]
    push_cast
    ring
  · rename_i hpositive
    obtain ⟨n, hn⟩ := Int.eq_ofNat_of_zero_le (not_lt.1 hpositive)
    rw [hn, Int.toNat_natCast, powerOfTwo_eq, zpow_neg, zpow_natCast]
    push_cast
    rw [div_mul_eq_div_div, div_eq_mul_inv]

/-- The denominator of a scaled ratio is positive. -/
theorem scaleRatio_pos (num : Nat) {den : Nat} (hden : 0 < den) (exponent : Int) :
    0 < (scaleRatio num den exponent).2 := by
  rw [scaleRatio]
  split
  · exact hden
  · exact Nat.mul_pos hden (powerOfTwo_pos _)

/-- Twice a rounded quotient is off by at most the divisor, and by less if it is odd. -/
theorem roundDiv_mul (num : Nat) {den : Nat} (hden : 0 < den) :
    (2 * (roundDiv num den * den) ≤ 2 * num + den ∧ 2 * num ≤ 2 * (roundDiv num den * den) + den) ∧
      (roundDiv num den % 2 = 1 →
        2 * (roundDiv num den * den) < 2 * num + den ∧
          2 * num < 2 * (roundDiv num den * den) + den) := by
  have hdivision := Nat.div_add_mod' num den
  have hnext : (num / den + 1) * den = num / den * den + den := Nat.succ_mul ..
  have hrest := Nat.mod_lt num hden
  rw [roundDiv]
  split
  · rw [hnext]
    omega
  · omega

/-- A rounded quotient is off by at most a half, and by less if it is odd. -/
theorem roundDiv_spec (num : Nat) {den : Nat} (hden : 0 < den) :
    ((roundDiv num den : ℚ) - 1 / 2 ≤ num / den ∧ (num : ℚ) / den ≤ roundDiv num den + 1 / 2) ∧
      (roundDiv num den % 2 = 1 →
        (roundDiv num den : ℚ) - 1 / 2 < num / den ∧
          (num : ℚ) / den < roundDiv num den + 1 / 2) := by
  obtain ⟨⟨hlow, hhigh⟩, hstrict⟩ := roundDiv_mul num hden
  have hpositive : (0 : ℚ) < den := Nat.cast_pos.2 hden
  rw [le_div_iff₀ hpositive, div_le_iff₀ hpositive, lt_div_iff₀ hpositive, div_lt_iff₀ hpositive]
  refine ⟨⟨?_, ?_⟩, fun hodd => ?_⟩
  · have hcast : (2 * (roundDiv num den * den) : ℚ) ≤ 2 * num + den := by exact_mod_cast hlow
    linarith
  · have hcast : (2 * num : ℚ) ≤ 2 * (roundDiv num den * den) + den := by exact_mod_cast hhigh
    linarith
  · obtain ⟨hless, hmore⟩ := hstrict hodd
    have hlow : (2 * (roundDiv num den * den) : ℚ) < 2 * num + den := by exact_mod_cast hless
    have hhigh : (2 * num : ℚ) < 2 * (roundDiv num den * den) + den := by exact_mod_cast hmore
    constructor <;> linarith

/-- A positive number lies between two powers of two. -/
theorem log2_bounds {n : Nat} (h : 0 < n) :
    (2 : ℚ) ^ (n.log2 : ℤ) ≤ n ∧ (n : ℚ) < 2 ^ ((n.log2 : ℤ) + 1) := by
  have hlow : 2 ^ n.log2 ≤ n := Nat.log2_self_le h.ne'
  have hhigh : n < 2 ^ (n.log2 + 1) := Nat.lt_log2_self
  constructor
  · rw [zpow_natCast]
    exact_mod_cast hlow
  · exact_mod_cast hhigh

/-- A ratio lies between the powers of two next to the difference of the logarithms. -/
theorem log2_sub_bounds {num den : Nat} (hnum : 0 < num) (hden : 0 < den) :
    (2 : ℚ) ^ ((num.log2 : ℤ) - den.log2 - 1) < num / den ∧
      (num : ℚ) / den < 2 ^ ((num.log2 : ℤ) - den.log2 + 1) := by
  obtain ⟨hnumLow, hnumHigh⟩ := log2_bounds hnum
  obtain ⟨hdenLow, hdenHigh⟩ := log2_bounds hden
  have hpositive : (0 : ℚ) < den := Nat.cast_pos.2 hden
  rw [lt_div_iff₀ hpositive, div_lt_iff₀ hpositive]
  constructor
  · calc (2 : ℚ) ^ ((num.log2 : ℤ) - den.log2 - 1) * den
        < 2 ^ ((num.log2 : ℤ) - den.log2 - 1) * 2 ^ ((den.log2 : ℤ) + 1) :=
          mul_lt_mul_of_pos_left hdenHigh (by positivity)
      _ = 2 ^ (num.log2 : ℤ) := by
          rw [← zpow_add₀ (by norm_num)]
          congr 1
          omega
      _ ≤ num := hnumLow
  · calc (num : ℚ) < 2 ^ ((num.log2 : ℤ) + 1) := hnumHigh
      _ = 2 ^ ((num.log2 : ℤ) - den.log2 + 1) * 2 ^ (den.log2 : ℤ) := by
          rw [← zpow_add₀ (by norm_num)]
          congr 1
          omega
      _ ≤ 2 ^ ((num.log2 : ℤ) - den.log2 + 1) * den :=
          mul_le_mul_of_nonneg_left hdenLow (by positivity)

/-- The whole part of a ratio reaches a number exactly if the ratio does. -/
theorem le_div_iff_le_ratio (bound num : Nat) {den : Nat} (hden : 0 < den) :
    bound ≤ num / den ↔ (bound : ℚ) ≤ num / den := by
  rw [Nat.le_div_iff_mul_le hden, le_div_iff₀ (Nat.cast_pos.2 hden)]
  exact_mod_cast Iff.rfl

/-- Before it is kept from falling below the least one, the exponent is that at which the
significand has 53 bits. -/
theorem exists_ratioExponent_eq {num den : Nat} (hnum : 0 < num) (hden : 0 < den) :
    ∃ exponent : Int, ratioExponent num den = max exponent minExponent ∧
      (2 : ℚ) ^ 52 ≤ num / den * 2 ^ (-exponent) ∧ (num : ℚ) / den * 2 ^ (-exponent) < 2 ^ 53 := by
  obtain ⟨hlow, hhigh⟩ := log2_sub_bounds hnum hden
  -- the guess from the logarithms is right or one too high
  refine ⟨_, rfl, ?_⟩
  set guess : Int := (Nat.log2 num : Int) - (Nat.log2 den : Int) - 52 with hguess
  have hscaled := scaleRatio_div num den guess
  have htest := le_div_iff_le_ratio (powerOfTwo 52) (scaleRatio num den guess).1
    (scaleRatio_pos num hden guess)
  rw [hscaled, powerOfTwo_eq, Nat.cast_pow, Nat.cast_ofNat] at htest
  split
  · rename_i hreaches
    refine ⟨htest.1 hreaches, ?_⟩
    calc (num : ℚ) / den * 2 ^ (-guess)
        < 2 ^ ((num.log2 : ℤ) - den.log2 + 1) * 2 ^ (-guess) :=
          mul_lt_mul_of_pos_right hhigh (by positivity)
      _ = 2 ^ (53 : ℤ) := by
          rw [← zpow_add₀ (by norm_num)]
          congr 1
          omega
  · rename_i hless
    have hbelow := lt_of_not_ge fun h => hless (htest.2 h)
    have hstep : (2 : ℚ) ^ (-(guess - 1)) = 2 * 2 ^ (-guess) := by
      rw [neg_sub, sub_eq_add_neg, zpow_add₀ (by norm_num), zpow_one]
    rw [hstep]
    constructor
    · calc (2 : ℚ) ^ 52 = 2 * (2 ^ ((num.log2 : ℤ) - den.log2 - 1) * 2 ^ (-guess)) := by
            have hexponent : (num.log2 : ℤ) - den.log2 - 1 + -guess = 51 := by omega
            rw [← zpow_add₀ (by norm_num), hexponent]
            norm_num
        _ ≤ 2 * (num / den * 2 ^ (-guess)) :=
            mul_le_mul_of_nonneg_left
              (mul_le_mul_of_nonneg_right hlow.le (by positivity)) (by norm_num)
        _ = num / den * (2 * 2 ^ (-guess)) := by ring
    · linarith

/-- The exponent at which the significand of a ratio of moderate size has 53 bits. -/
theorem ratioExponent_spec {num den : Nat} (hnum : 0 < num) (hden : 0 < den)
    (hlow : (2 : ℚ) ^ (-120 : ℤ) ≤ num / den) (hhigh : (num : ℚ) / den ≤ 2 ^ (120 : ℤ)) :
    -180 ≤ ratioExponent num den ∧ ratioExponent num den < 75 ∧
      (2 : ℚ) ^ 52 ≤ num / den * 2 ^ (-ratioExponent num den) ∧
      (num : ℚ) / den * 2 ^ (-ratioExponent num den) < 2 ^ 53 := by
  obtain ⟨exponent, heq, h52, h53⟩ := exists_ratioExponent_eq hnum hden
  have hpositive : (0 : ℚ) < 2 ^ exponent := by positivity
  rw [zpow_neg, ← div_eq_mul_inv] at h52 h53
  have hminimum : -120 < 53 + exponent := by
    rw [div_lt_iff₀ hpositive, ← zpow_natCast, ← zpow_add₀ (by norm_num)] at h53
    exact (zpow_lt_zpow_iff_right₀ (by norm_num)).1 (hlow.trans_lt h53)
  have hmaximum : 52 + exponent ≤ 120 := by
    rw [le_div_iff₀ hpositive, ← zpow_natCast, ← zpow_add₀ (by norm_num)] at h52
    exact (zpow_le_zpow_iff_right₀ (by norm_num)).1 (h52.trans hhigh)
  have hkept : ratioExponent num den = exponent := by
    rw [heq, max_eq_left]
    unfold minExponent
    omega
  rw [hkept, zpow_neg, ← div_eq_mul_inv]
  exact ⟨by omega, by omega, h52, h53⟩

/-! ## The interval of a number -/

/-- Numbers with a significand of 53 bits, from `2 ^ -128` to below `2 ^ 128`. -/
structure Moderate (significand : Nat) (exponent : Int) : Prop where
  significand_ge : powerOfTwo 52 ≤ significand
  significand_lt : significand < powerOfTwo 53
  exponent_ge : -180 ≤ exponent
  exponent_le : exponent ≤ 75

/-- How far the interval of a number reaches below it, in units of its last bit: below a power
of two the gap is half as wide. -/
def gapBelow (significand : Nat) : ℚ :=
  if significand = powerOfTwo 52 then 1 / 4 else 1 / 2

variable {significand : Nat} {exponent : Int}

/-- The interval of a number in units of its last bit. -/
theorem interval_of_div (h : Moderate significand exponent) :
    ((DecimalDigits.Interval.of significand exponent).lower : ℚ) /
        (DecimalDigits.Interval.of significand exponent).denominator =
        (significand - gapBelow significand) * 2 ^ exponent ∧
      ((DecimalDigits.Interval.of significand exponent).value : ℚ) /
        (DecimalDigits.Interval.of significand exponent).denominator =
        significand * 2 ^ exponent ∧
      ((DecimalDigits.Interval.of significand exponent).upper : ℚ) /
        (DecimalDigits.Interval.of significand exponent).denominator =
        (significand + 1 / 2) * 2 ^ exponent := by
  have hpositive := Nat.lt_of_lt_of_le (powerOfTwo_pos 52) h.significand_ge
  have hexponent : minExponent < exponent := Int.lt_of_lt_of_le (by decide) h.exponent_ge
  have hunit := magnitudeRatio_div 1 (exponent - 2)
  have hquarter : (2 : ℚ) ^ exponent = 4 * 2 ^ (exponent - 2) := by
    rw [show (4 : ℚ) = 2 ^ (2 : ℤ) by norm_num, ← zpow_add₀ (by norm_num)]
    congr 1
    omega
  rw [Nat.cast_one, one_mul] at hunit
  simp only [DecimalDigits.Interval.of, Nat.cast_mul, mul_div_assoc, hunit, hquarter, gapBelow,
    hexponent, and_true]
  refine ⟨?_, by push_cast; ring, by push_cast; ring⟩
  split
  · rw [Nat.cast_sub (by omega)]
    push_cast
    ring
  · rw [Nat.cast_sub (by omega)]
    push_cast
    ring

/-- The ends of the interval of a number with a significand of 53 bits. -/
theorem contains_of_iff (h : Moderate significand exponent) (r : ℚ) :
    (DecimalDigits.Interval.of significand exponent).Contains r ↔
      if significand % 2 = 0 then
        (significand - gapBelow significand) * 2 ^ exponent ≤ r ∧
          r ≤ (significand + 1 / 2) * 2 ^ exponent
      else
        (significand - gapBelow significand) * 2 ^ exponent < r ∧
          r < (significand + 1 / 2) * 2 ^ exponent := by
  obtain ⟨hlower, -, hupper⟩ := interval_of_div h
  rw [DecimalDigits.Interval.Contains, hlower, hupper]
  simp only [DecimalDigits.Interval.of, beq_iff_eq]

/-- What is rounded to a significand lies in its interval, unless it falls short of 53 bits. -/
theorem contains_of_rounded (h : Moderate significand exponent) {q : ℚ} (h52 : (2 : ℚ) ^ 52 ≤ q)
    (hhalf : (significand : ℚ) - 1 / 2 ≤ q ∧ q ≤ significand + 1 / 2)
    (hodd : significand % 2 = 1 → (significand : ℚ) - 1 / 2 < q ∧ q < significand + 1 / 2) :
    (DecimalDigits.Interval.of significand exponent).Contains (q * 2 ^ exponent) := by
  have hunit : (0 : ℚ) < 2 ^ exponent := by positivity
  rw [contains_of_iff h]
  have hgap : significand % 2 = 1 → gapBelow significand = 1 / 2 := fun hodd => by
    rw [gapBelow, if_neg]
    rintro rfl
    exact absurd hodd (by decide)
  split
  · refine ⟨mul_le_mul_of_nonneg_right ?_ hunit.le, mul_le_mul_of_nonneg_right hhalf.2 hunit.le⟩
    rw [gapBelow]
    split
    · rename_i hpower
      rw [hpower, powerOfTwo_eq]
      push_cast
      linarith
    · exact hhalf.1
  · have hone : significand % 2 = 1 := by omega
    rw [hgap hone]
    exact ⟨mul_lt_mul_of_pos_right (hodd hone).1 hunit, mul_lt_mul_of_pos_right (hodd hone).2 hunit⟩

/-- What is rounded up to 54 bits lies in the interval of the power of two. -/
theorem contains_of_carried (h : Moderate (powerOfTwo 52) (exponent + 1)) {q : ℚ}
    (h53 : q < (2 : ℚ) ^ 53) (hhalf : (2 : ℚ) ^ 53 - 1 / 2 ≤ q) :
    (DecimalDigits.Interval.of (powerOfTwo 52) (exponent + 1)).Contains (q * 2 ^ exponent) := by
  have hunit : (0 : ℚ) < 2 ^ exponent := by positivity
  rw [contains_of_iff h, if_pos (by decide), gapBelow, if_pos rfl,
    zpow_add₀ (by norm_num), zpow_one, powerOfTwo_eq]
  push_cast
  constructor
  · have h := mul_le_mul_of_nonneg_right hhalf hunit.le
    linarith
  · have h := mul_le_mul_of_nonneg_right h53.le hunit.le
    linarith

/-- A ratio of moderate size lies in the interval of the number that it is
rounded to. -/
theorem ofRatio_spec (negative : Bool) {num den : Nat} (hnum : 0 < num) (hden : 0 < den)
    (hlow : (2 : ℚ) ^ (-120 : ℤ) ≤ num / den) (hhigh : (num : ℚ) / den ≤ 2 ^ (120 : ℤ)) :
    ∃ significand exponent, ofRatio negative num den = .finite negative significand exponent ∧
      Moderate significand exponent ∧
      (DecimalDigits.Interval.of significand exponent).Contains (num / den) := by
  obtain ⟨hminimum, hmaximum, h52, h53⟩ := ratioExponent_spec hnum hden hlow hhigh
  obtain ⟨hhalf, hodd⟩ := roundDiv_spec (scaleRatio num den (ratioExponent num den)).1
    (scaleRatio_pos num hden (ratioExponent num den))
  rw [scaleRatio_div] at hhalf hodd
  have hratio : (num : ℚ) / den =
      num / den * 2 ^ (-ratioExponent num den) * 2 ^ ratioExponent num den := by
    rw [mul_assoc, ← zpow_add₀ (by norm_num), neg_add_cancel, zpow_zero, mul_one]
  have hbelow : ratioExponent num den < maxExponent := Int.lt_trans hmaximum (by decide)
  rw [ofRatio, if_neg hnum.ne', hratio]
  dsimp only
  generalize roundDiv (scaleRatio num den (ratioExponent num den)).1
    (scaleRatio num den (ratioExponent num den)).2 = significand at hhalf hodd
  split
  · rename_i hcarried
    have hmoderate : Moderate (powerOfTwo 52) (ratioExponent num den + 1) :=
      ⟨Nat.le_refl _, by decide, by omega, by omega⟩
    rw [if_neg (not_le.2 hbelow)]
    refine ⟨_, _, rfl, hmoderate, contains_of_carried hmoderate h53 ?_⟩
    rw [hcarried, powerOfTwo_eq] at hhalf
    exact_mod_cast hhalf.1
  · rename_i hkept
    rw [if_neg (not_lt.2 hbelow.le)]
    have hfull : powerOfTwo 52 ≤ significand := by
      have h : (2 : ℚ) ^ 52 < significand + 1 := by linarith [hhalf.2]
      rw [powerOfTwo_eq]
      exact Nat.lt_succ_iff.1 (by exact_mod_cast h)
    have hfits : significand ≤ powerOfTwo 53 := by
      have h : (significand : ℚ) < 2 ^ 53 + 1 := by linarith [hhalf.1]
      rw [powerOfTwo_eq]
      exact Nat.lt_succ_iff.1 (by exact_mod_cast h)
    have hmoderate : Moderate significand (ratioExponent num den) :=
      ⟨hfull, lt_of_le_of_ne hfits hkept, hminimum, hmaximum.le⟩
    exact ⟨_, _, rfl, hmoderate, contains_of_rounded hmoderate h52 hhalf hodd⟩

/-- A decimal number lies in the interval of the number of the format that is nearest to it. -/
theorem ofDecimal_spec (negative : Bool) {coefficient scale : Nat} (hpositive : 0 < coefficient)
    (hcoefficient : coefficient < powerOfTwo 96) (hscale : scale ≤ 28) :
    ∃ significand exponent, ofDecimal negative coefficient (-(scale : Int)) =
        .finite negative significand exponent ∧ Moderate significand exponent ∧
      (DecimalDigits.Interval.of significand exponent).Contains
        (coefficient * 10 ^ (-(scale : ℤ))) := by
  have hlength : decimalLength coefficient ≤ 29 :=
    (Nat.length_toDigits_le_iff (by decide) (by decide)).2
      (Nat.lt_trans hcoefficient (by decide))
  have hratio : ofDecimal negative coefficient (-(scale : Int)) =
      ofRatio negative coefficient (powerOfTen scale) := by
    rw [ofDecimal, if_neg hpositive.ne']
    dsimp only
    rw [if_neg (by omega), if_neg (by omega)]
    split
    · rw [neg_neg, Int.toNat_natCast]
    · rename_i hzero
      obtain rfl : scale = 0 := by omega
      simp [powerOfTen_eq]
  have hvalue : (coefficient : ℚ) / (powerOfTen scale : Nat) =
      coefficient * 10 ^ (-(scale : ℤ)) := by
    rw [powerOfTen_eq, zpow_neg, zpow_natCast, div_eq_mul_inv]
    push_cast
    rfl
  have hone : (1 : ℚ) ≤ coefficient := by exact_mod_cast hpositive
  have hmost : (coefficient : ℚ) < 2 ^ 96 := by
    rw [powerOfTwo_eq] at hcoefficient
    exact_mod_cast hcoefficient
  have hlow : (10 : ℚ) ^ (-28 : ℤ) ≤ 10 ^ (-(scale : ℤ)) :=
    zpow_le_zpow_right₀ (by norm_num) (by omega)
  have hhigh : (10 : ℚ) ^ (-(scale : ℤ)) ≤ 1 :=
    zpow_le_one_of_nonpos₀ (by norm_num) (by omega)
  obtain ⟨significand, exponent, heq, hmoderate, hcontains⟩ := ofRatio_spec negative hpositive
    (powerOfTen_pos scale) (by
      rw [hvalue]
      calc (2 : ℚ) ^ (-120 : ℤ) ≤ 1 * 10 ^ (-28 : ℤ) := by norm_num
        _ ≤ _ := mul_le_mul hone hlow (by positivity) (by linarith)) (by
      rw [hvalue]
      calc (coefficient : ℚ) * 10 ^ (-(scale : ℤ)) ≤ 2 ^ 96 * 1 :=
            mul_le_mul hmost.le hhigh (by positivity) (by norm_num)
        _ ≤ 2 ^ (120 : ℤ) := by norm_num)
  rw [hvalue] at hcontains
  exact ⟨significand, exponent, hratio.trans heq, hmoderate, hcontains⟩

end Binary64

end ApiBinding
