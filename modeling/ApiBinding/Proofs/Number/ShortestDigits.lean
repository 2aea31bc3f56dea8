import ApiBinding.Proofs.Number.DecimalText
import ApiBinding.Proofs.Number.Rounding

/-!
# Shortest digits

The search for the shortest digits of a number goes through decimal grids, from the one of its
first digit to finer ones, and stops at the first grid that has a point in the interval of the
number.  At most seventeen digits are needed, the digits found are never finer than those of
any other number in the interval, and numbers of at most fifteen digits are found themselves.

Main results:

- Theorem `leadingExponent_spec`: the power of ten of the first digit.
- Theorem `search_spec`: the search stops at a grid with a point in the interval.
- Theorem `shortest_spec`: the shortest digits lie in the interval and are at most seventeen.
- Theorem `le_exponent_shortest`: they are never finer than another number in the interval.
- Theorem `shortest_value_eq`: a number of at most fifteen digits in the interval is found.
-/

namespace ApiBinding

namespace DecimalDigits

/-! ## Grids -/

/-- The denominator of a power of ten as a ratio is positive, and so is its numerator. -/
theorem tenRatio_pos (exponent : Int) :
    0 < (tenRatio exponent).1 ∧ 0 < (tenRatio exponent).2 := by
  rw [tenRatio]
  split
  · exact ⟨Nat.one_pos, powerOfTen_pos _⟩
  · exact ⟨powerOfTen_pos _, Nat.one_pos⟩

/-- A power of ten as a ratio. -/
theorem tenRatio_div (exponent : Int) :
    ((tenRatio exponent).1 : ℚ) / (tenRatio exponent).2 = 10 ^ exponent := by
  rw [tenRatio]
  split
  · rename_i hnegative
    obtain ⟨n, hn⟩ := Int.eq_ofNat_of_zero_le (show 0 ≤ -exponent by omega)
    rw [hn, Int.toNat_natCast, powerOfTen_eq, Nat.cast_pow, ← neg_neg exponent, hn, zpow_neg,
      zpow_natCast, Nat.cast_one, one_div]
    rfl
  · rename_i hpositive
    obtain ⟨n, hn⟩ := Int.eq_ofNat_of_zero_le (not_lt.1 hpositive)
    rw [hn, Int.toNat_natCast, powerOfTen_eq, zpow_natCast]
    push_cast
    rw [div_one]

/-- A power of ten against a ratio, cross-multiplied. -/
theorem tenRatio_mul_le_iff {num den : Nat} (hden : 0 < den) (exponent : Int) :
    (tenRatio exponent).1 * den ≤ num * (tenRatio exponent).2 ↔
      (10 : ℚ) ^ exponent ≤ num / den := by
  rw [← tenRatio_div, div_le_div_iff₀ (Nat.cast_pos.2 (tenRatio_pos exponent).2)
    (Nat.cast_pos.2 hden)]
  exact_mod_cast Iff.rfl

/-! ## The first digit -/

/-- Climbing ends at a power of ten that is still at most the ratio, and if there was fuel left
the next one is greater. -/
theorem climb_spec {num den : Nat} (hden : 0 < den) (fuel : Nat) {exponent : Int}
    (h : (10 : ℚ) ^ exponent ≤ num / den) :
    (10 : ℚ) ^ climb num den fuel exponent ≤ num / den ∧
      ((num : ℚ) / den < 10 ^ (exponent + fuel) →
        (num : ℚ) / den < 10 ^ (climb num den fuel exponent + 1)) := by
  induction fuel generalizing exponent with
  | zero =>
      refine ⟨h, fun hless => absurd h (not_le.2 ?_)⟩
      simpa using hless
  | succ fuel ih =>
      rw [climb]
      split
      · rename_i hnext
        obtain ⟨hlow, hhigh⟩ := ih ((tenRatio_mul_le_iff hden _).1 hnext)
        refine ⟨hlow, fun hless => hhigh ?_⟩
        rwa [add_assoc, add_comm 1 (fuel : ℤ), ← Nat.cast_succ]
      · rename_i hnext
        exact ⟨h, fun _ => not_le.1 fun hle => hnext ((tenRatio_mul_le_iff hden _).2 hle)⟩

/-- The first guess of the leading exponent, from the logarithm to base two. -/
def guessExponent (bits : Int) : Int :=
  Int.fdiv (bits * 30103) 100000 - 2

/-- Ten is less than `2 ^ (10 / 3)`, since a thousand is less than `2 ^ 10`. -/
theorem ten_pow_le_two_pow {n m : Nat} (h : 10 * n ≤ 3 * m) : (10 : ℚ) ^ n ≤ 2 ^ m := by
  refine le_of_pow_le_pow_left₀ (n := 10) (by norm_num) (by positivity) ?_
  calc ((10 : ℚ) ^ n) ^ 10 = 10 ^ (10 * n) := by rw [← pow_mul, mul_comm]
    _ ≤ 10 ^ (3 * m) := pow_le_pow_right₀ (by norm_num) h
    _ = (10 ^ 3) ^ m := pow_mul ..
    _ ≤ (2 ^ 10) ^ m := pow_le_pow_left₀ (by norm_num) (by norm_num) m
    _ = (2 ^ m) ^ 10 := by rw [← pow_mul, ← pow_mul, mul_comm]

/-- Ten is more than `2 ^ (13 / 4)`, since ten thousand is more than `2 ^ 13`. -/
theorem two_pow_le_ten_pow {n m : Nat} (h : 4 * m ≤ 13 * n) : (2 : ℚ) ^ m ≤ 10 ^ n := by
  refine le_of_pow_le_pow_left₀ (n := 13) (by norm_num) (by positivity) ?_
  calc ((2 : ℚ) ^ m) ^ 13 = (2 ^ 13) ^ m := by rw [← pow_mul, ← pow_mul, mul_comm]
    _ ≤ (10 ^ 4) ^ m := pow_le_pow_left₀ (by norm_num) (by norm_num) m
    _ = 10 ^ (4 * m) := (pow_mul ..).symm
    _ ≤ 10 ^ (13 * n) := pow_le_pow_right₀ (by norm_num) h
    _ = (10 ^ n) ^ 13 := by rw [← pow_mul, mul_comm]

/-- A power of ten is at most a power of two. -/
theorem ten_zpow_le_two_zpow {n m : Int} (hpositive : 0 ≤ m → 10 * n ≤ 3 * m)
    (hnegative : m < 0 → 13 * n ≤ 4 * m) : (10 : ℚ) ^ n ≤ 2 ^ m := by
  rcases lt_or_ge m 0 with hm | hm
  · obtain ⟨a, ha⟩ := Int.eq_ofNat_of_zero_le (show 0 ≤ -m by omega)
    obtain ⟨b, hb⟩ := Int.eq_ofNat_of_zero_le (show 0 ≤ -n by omega)
    rw [← neg_neg n, ← neg_neg m, ha, hb, zpow_neg, zpow_neg, zpow_natCast, zpow_natCast]
    exact inv_anti₀ (by positivity) (two_pow_le_ten_pow (by omega))
  · obtain ⟨a, rfl⟩ := Int.eq_ofNat_of_zero_le hm
    calc (10 : ℚ) ^ n ≤ 10 ^ (n.toNat : ℤ) := zpow_le_zpow_right₀ (by norm_num) (by omega)
      _ ≤ 2 ^ (a : ℤ) := by
          rw [zpow_natCast, zpow_natCast]
          exact ten_pow_le_two_pow (by omega)

/-- A power of two is at most a power of ten. -/
theorem two_zpow_le_ten_zpow {n m : Int} (hpositive : 0 ≤ m → 4 * m ≤ 13 * n)
    (hnegative : m < 0 → 3 * m ≤ 10 * n) : (2 : ℚ) ^ m ≤ 10 ^ n := by
  have h := ten_zpow_le_two_zpow (n := -n) (m := -m) (by omega) (by omega)
  rw [zpow_neg, zpow_neg] at h
  exact (inv_le_inv₀ (by positivity) (by positivity)).1 h

/-- For ratios of moderate size the guess is not too high, and at most five too low. -/
theorem guessExponent_spec (bits : Int) (hlow : -129 ≤ bits) (hhigh : bits ≤ 129) :
    (10 : ℚ) ^ guessExponent bits ≤ 2 ^ (bits - 1) ∧
      (2 : ℚ) ^ (bits + 1) ≤ 10 ^ (guessExponent bits + 5) := by
  have hguess : bits * 30103 - 100000 < (guessExponent bits + 2) * 100000 ∧
      (guessExponent bits + 2) * 100000 ≤ bits * 30103 := by
    rw [guessExponent, Int.fdiv_eq_ediv_of_nonneg _ (by norm_num)]
    omega
  exact ⟨ten_zpow_le_two_zpow (by omega) (by omega), two_zpow_le_ten_zpow (by omega) (by omega)⟩

/-- The power of ten of the first digit. -/
theorem leadingExponent_spec {num den : Nat} (hnum : 0 < num) (hden : 0 < den)
    (hlow : (2 : ℚ) ^ (-128 : ℤ) ≤ num / den) (hhigh : (num : ℚ) / den ≤ 2 ^ (128 : ℤ)) :
    (10 : ℚ) ^ leadingExponent num den ≤ num / den ∧
      (num : ℚ) / den < 10 ^ (leadingExponent num den + 1) := by
  obtain ⟨hbelow, habove⟩ := Binary64.log2_sub_bounds hnum hden
  set bits : Int := (Nat.log2 num : Int) - (Nat.log2 den : Int) with hbits
  have hfloor : -128 < bits + 1 :=
    (zpow_lt_zpow_iff_right₀ (by norm_num)).1 (hlow.trans_lt habove)
  have hceiling : bits - 1 < 128 :=
    (zpow_lt_zpow_iff_right₀ (by norm_num)).1 (hbelow.trans_le hhigh)
  obtain ⟨hguess, hfuel⟩ := guessExponent_spec bits (by omega) (by omega)
  obtain ⟨hclimbed, hstopped⟩ := climb_spec hden 5 (hguess.trans hbelow.le)
  exact ⟨hclimbed, hstopped (habove.trans_le hfuel)⟩

/-! ## Points in an interval -/

/-- A rounded quotient is one of the two next to the ratio. -/
theorem roundDiv_eq_or_eq (tie : Tie) (num : Nat) {den : Nat} (hden : 0 < den) :
    tie.roundDiv num den = num / den ∨ tie.roundDiv num den = num / den + 1 := by
  cases tie with
  | toEven =>
      rw [Tie.roundDiv, Binary64.roundDiv]
      split
      · exact .inr rfl
      · exact .inl rfl
  | awayFromZero =>
      have hdivision := Nat.div_add_mod' num den
      have hrest := Nat.mod_lt num hden
      have hlow : num / den ≤ (2 * num + den) / (2 * den) := by
        rw [Nat.le_div_iff_mul_le (by omega), Nat.mul_left_comm]
        omega
      have hhigh : (2 * num + den) / (2 * den) < num / den + 2 := by
        rw [Nat.div_lt_iff_lt_mul (by omega), Nat.mul_left_comm, Nat.add_mul]
        omega
      rw [Tie.roundDiv]
      omega

namespace Interval

variable {interval : Interval}

/-- What lies between two members of an interval belongs to it. -/
theorem Contains.of_between {r s t : ℚ} (hr : interval.Contains r) (ht : interval.Contains t)
    (hrs : r ≤ s) (hst : s ≤ t) : interval.Contains s := by
  unfold Contains at *
  split at hr
  · rename_i hclosed
    rw [if_pos hclosed] at ht ⊢
    exact ⟨hr.1.trans hrs, hst.trans ht.2⟩
  · rename_i hopen
    rw [if_neg hopen] at ht ⊢
    exact ⟨hr.1.trans_le hrs, hst.trans_lt ht.2⟩

/-- The test of a point of a grid. -/
theorem holds_iff (hden : 0 < interval.denominator) (coefficient : Nat) (exponent : Int) :
    interval.holds coefficient exponent = true ↔
      interval.Contains (coefficient * 10 ^ exponent) := by
  have hpositive : (0 : ℚ) < interval.denominator := Nat.cast_pos.2 hden
  have hten : (0 : ℚ) < (tenRatio exponent).2 := Nat.cast_pos.2 (tenRatio_pos exponent).2
  have hpoint : (coefficient : ℚ) * 10 ^ exponent =
      (coefficient * (tenRatio exponent).1 : Nat) / (tenRatio exponent).2 := by
    rw [← tenRatio_div, Nat.cast_mul, mul_div_assoc]
  rw [holds, Contains, hpoint, div_le_div_iff₀ hpositive hten, div_le_div_iff₀ hten hpositive,
    div_lt_div_iff₀ hpositive hten, div_lt_div_iff₀ hten hpositive]
  split
  · simp only [Bool.and_eq_true, decide_eq_true_eq]
    exact_mod_cast Iff.rfl
  · simp only [Bool.and_eq_true, decide_eq_true_eq]
    exact_mod_cast Iff.rfl

/-- The value of an interval as a ratio. -/
def center (interval : Interval) : ℚ :=
  interval.value / interval.denominator

/-- The point of a grid next below the value. -/
def below (interval : Interval) (exponent : Int) : Nat :=
  interval.value * (tenRatio exponent).2 / (interval.denominator * (tenRatio exponent).1)

/-- The value lies between two neighbours on a grid. -/
theorem below_spec (hden : 0 < interval.denominator) (exponent : Int) :
    (interval.below exponent : ℚ) * 10 ^ exponent ≤ interval.center ∧
      interval.center < (interval.below exponent + 1 : Nat) * 10 ^ exponent := by
  have hten : (0 : ℚ) < 10 ^ exponent := by positivity
  have hpositive : 0 < interval.denominator * (tenRatio exponent).1 :=
    Nat.mul_pos hden (tenRatio_pos exponent).1
  have hratio : ((interval.value * (tenRatio exponent).2 : Nat) : ℚ) /
      (interval.denominator * (tenRatio exponent).1 : Nat) = interval.center / 10 ^ exponent := by
    rw [← tenRatio_div, center, Nat.cast_mul, Nat.cast_mul, div_div_div_eq]
  rw [← le_div_iff₀ hten, ← div_lt_iff₀ hten, ← hratio,
    ← Binary64.le_div_iff_le_ratio _ _ hpositive, ← not_le,
    ← Binary64.le_div_iff_le_ratio _ _ hpositive]
  exact ⟨Nat.le_refl _, Nat.not_succ_le_self _⟩

/-- What is found on a grid, by the neighbours of the value that lie in the interval. -/
theorem onGrid?_eq (tie : Tie) (exponent : Int) :
    interval.onGrid? tie exponent =
      match interval.holds (interval.below exponent) exponent,
        interval.holds (interval.below exponent + 1) exponent with
      | true, true => some (tie.roundDiv (interval.value * (tenRatio exponent).2)
          (interval.denominator * (tenRatio exponent).1))
      | true, false => some (interval.below exponent)
      | false, true => some (interval.below exponent + 1)
      | false, false => none := rfl

/-- A point that is found on a grid lies in the interval, at most a step above the value. -/
theorem onGrid?_spec (hden : 0 < interval.denominator) {tie : Tie} {exponent : Int}
    {coefficient : Nat} (h : interval.onGrid? tie exponent = some coefficient) :
    interval.Contains (coefficient * 10 ^ exponent) ∧
      ((coefficient : ℚ) - 1) * 10 ^ exponent ≤ interval.center := by
  have hstep : coefficient ≤ interval.below exponent + 1 →
      ((coefficient : ℚ) - 1) * 10 ^ exponent ≤ interval.center := fun hle => by
    refine le_trans (mul_le_mul_of_nonneg_right ?_ (by positivity)) (below_spec hden exponent).1
    rw [sub_le_iff_le_add]
    exact_mod_cast hle
  have hrounded := roundDiv_eq_or_eq tie (interval.value * (tenRatio exponent).2)
    (Nat.mul_pos hden (tenRatio_pos exponent).1)
  have hholds := fun coefficient => holds_iff hden coefficient exponent
  rw [onGrid?_eq] at h
  change _ = interval.below exponent ∨ _ = interval.below exponent + 1 at hrounded
  split at h
  · rename_i hlow hhigh
    obtain rfl := Option.some.inj h
    rcases hrounded with heq | heq <;> rw [heq] at hstep ⊢
    · exact ⟨(hholds _).1 hlow, hstep (Nat.le_succ _)⟩
    · exact ⟨(hholds _).1 hhigh, hstep (Nat.le_refl _)⟩
  · rename_i hlow _
    obtain rfl := Option.some.inj h
    exact ⟨(hholds _).1 hlow, hstep (Nat.le_succ _)⟩
  · rename_i _ hhigh
    obtain rfl := Option.some.inj h
    exact ⟨(hholds _).1 hhigh, hstep (Nat.le_refl _)⟩
  · cases h

/-- A grid with a point in the interval is not left without one. -/
theorem exists_onGrid?_eq_some (hden : 0 < interval.denominator)
    (hcenter : interval.Contains interval.center) (tie : Tie) {exponent : Int} {coefficient : Nat}
    (h : interval.Contains (coefficient * 10 ^ exponent)) :
    ∃ found, interval.onGrid? tie exponent = some found := by
  obtain ⟨hlow, hhigh⟩ := below_spec hden exponent
  have hmonotone : ∀ {n m : Nat}, n ≤ m → (n : ℚ) * 10 ^ exponent ≤ m * 10 ^ exponent :=
    fun hle => mul_le_mul_of_nonneg_right (Nat.cast_le.2 hle) (by positivity)
  -- one of the neighbours lies between the value and the point
  have hneighbour : interval.holds (interval.below exponent) exponent = true ∨
      interval.holds (interval.below exponent + 1) exponent = true := by
    rcases Nat.lt_or_ge (interval.below exponent) coefficient with habove | hbelow
    · exact .inr ((holds_iff hden _ _).2 (hcenter.of_between h hhigh.le (hmonotone habove)))
    · exact .inl ((holds_iff hden _ _).2 (h.of_between hcenter (hmonotone hbelow) hlow))
  rw [onGrid?_eq]
  rcases hneighbour with hholds | hholds <;> rw [hholds] <;> split <;> simp_all

end Interval

/-! ## The search -/

/-- Removing trailing zeros keeps the value, and leaves a last digit that is not zero. -/
theorem strip_spec {fuel : Nat} (coefficient : Nat) (hpositive : 0 < coefficient)
    (hfuel : coefficient < 10 ^ fuel) (exponent : Int) :
    (strip fuel coefficient exponent).value = coefficient * 10 ^ exponent ∧
      (strip fuel coefficient exponent).coefficient % 10 ≠ 0 ∧
      (strip fuel coefficient exponent).coefficient ≤ coefficient ∧
      exponent ≤ (strip fuel coefficient exponent).exponent := by
  induction fuel generalizing coefficient exponent with
  | zero => omega
  | succ fuel ih =>
      rw [strip]
      split
      · rename_i hzero
        have htenth : coefficient = coefficient / 10 * 10 := by omega
        obtain ⟨hvalue, hlast, hle, hexponent⟩ := ih (coefficient / 10) (by omega)
          (by rw [pow_succ] at hfuel; omega) (exponent + 1)
        refine ⟨?_, hlast, by omega, by omega⟩
        rw [hvalue, zpow_add₀ (by norm_num), zpow_one, mul_comm ((10 : ℚ) ^ exponent), ← mul_assoc]
        congr 1
        exact_mod_cast htenth.symm
      · rename_i hlast
        exact ⟨rfl, fun hzero => hlast ⟨hpositive.ne', hzero⟩, Nat.le_refl _, Int.le_refl _⟩

/-- A multiple of a power of ten on the grid of a smaller one. -/
theorem mul_pow_eq (n : Nat) {grid exponent : Int} (h : grid ≤ exponent) :
    (n : ℚ) * 10 ^ exponent = (n * 10 ^ (exponent - grid).toNat : Nat) * 10 ^ grid := by
  have hsum : exponent = ((exponent - grid).toNat : ℤ) + grid := by omega
  conv_lhs => rw [hsum]
  rw [zpow_add₀ (by norm_num), zpow_natCast]
  push_cast
  ring

/-- Digits that do not end in zero are on the finest grid that their value is on. -/
theorem le_exponent_of_value_eq {d : DecimalDigits} (hlast : d.coefficient % 10 ≠ 0) {n : Nat}
    {exponent : Int} (h : d.value = n * 10 ^ exponent) : exponent ≤ d.exponent := by
  by_contra hless
  have hfiner : d.exponent ≤ exponent := by omega
  rw [mul_pow_eq n hfiner, value] at h
  have hcoefficient : d.coefficient = n * 10 ^ (exponent - d.exponent).toNat := by
    exact_mod_cast mul_right_cancel₀ (by positivity) h
  obtain ⟨k, hk⟩ := Nat.exists_eq_add_of_lt (show 0 < (exponent - d.exponent).toNat by omega)
  rw [hcoefficient, hk, pow_succ, ← mul_assoc] at hlast
  omega

/-- The search stops at a grid with a point in the interval, at the latest at a given one. -/
theorem search_spec {interval : Interval} (hden : 0 < interval.denominator)
    (hcenter : interval.Contains interval.center) (tie : Tie) {fuel coefficient : Nat}
    (start : Int) {exponent : Int} (h : interval.Contains (coefficient * 10 ^ exponent))
    (hstart : exponent ≤ start) (hfuel : start - exponent < fuel) :
    ∃ found grid, search interval tie fuel start = strip 20 found grid ∧ exponent ≤ grid ∧
      grid ≤ start ∧ interval.Contains (found * 10 ^ grid) ∧
      ((found : ℚ) - 1) * 10 ^ grid ≤ interval.center := by
  induction fuel generalizing start with
  | zero => omega
  | succ fuel ih =>
      rw [search]
      split
      · rename_i found hfound
        obtain ⟨hcontains, hstep⟩ := Interval.onGrid?_spec hden hfound
        exact ⟨found, start, rfl, hstart, Int.le_refl _, hcontains, hstep⟩
      · rename_i hnone
        have hfiner : exponent ≠ start := by
          rintro rfl
          obtain ⟨found, hfound⟩ := Interval.exists_onGrid?_eq_some hden hcenter tie h
          rw [hfound] at hnone
          cases hnone
        obtain ⟨found, grid, heq, hlow, hhigh, hfound⟩ := ih (start - 1) (by omega)
          (by omega)
        exact ⟨found, grid, heq, hlow, by omega, hfound⟩

/-! ## Intervals of numbers of the format -/

section Moderate

open Binary64 (Moderate gapBelow contains_of_iff interval_of_div)

variable {significand : Nat} {exponent : Int}

/-- The denominator of an interval is positive. -/
theorem denominator_of_pos (significand : Nat) (exponent : Int) :
    0 < (Interval.of significand exponent).denominator := by
  rw [Interval.of, Binary64.magnitudeRatio]
  dsimp only
  split
  · exact powerOfTwo_pos _
  · exact Nat.one_pos

/-- The gap below a number is a half or a quarter of its last bit. -/
theorem gapBelow_bounds (significand : Nat) :
    0 < gapBelow significand ∧ gapBelow significand ≤ 1 / 2 := by
  rw [gapBelow]
  split <;> norm_num

/-- A significand of 53 bits, as a rational number. -/
theorem significand_bounds (h : Moderate significand exponent) :
    (2 : ℚ) ^ 52 ≤ significand ∧ (significand : ℚ) < 2 ^ 53 := by
  have hlow := h.significand_ge
  have hhigh := h.significand_lt
  rw [powerOfTwo_eq] at hlow hhigh
  exact ⟨by exact_mod_cast hlow, by exact_mod_cast hhigh⟩

/-- What lies strictly between the ends belongs to the interval. -/
theorem contains_of_lt (h : Moderate significand exponent) {r : ℚ}
    (hlow : (significand - gapBelow significand) * 2 ^ exponent < r)
    (hhigh : r < (significand + 1 / 2) * 2 ^ exponent) :
    (Interval.of significand exponent).Contains r := by
  rw [contains_of_iff h]
  split
  · exact ⟨hlow.le, hhigh.le⟩
  · exact ⟨hlow, hhigh⟩

/-- What belongs to the interval lies between the ends. -/
theorem between_of_contains (h : Moderate significand exponent) {r : ℚ}
    (hr : (Interval.of significand exponent).Contains r) :
    (significand - gapBelow significand) * 2 ^ exponent ≤ r ∧
      r ≤ (significand + 1 / 2) * 2 ^ exponent := by
  rw [contains_of_iff h] at hr
  split at hr
  · exact hr
  · exact ⟨hr.1.le, hr.2.le⟩

/-- The value of a number lies in its interval. -/
theorem contains_center (h : Moderate significand exponent) :
    (Interval.of significand exponent).Contains (Interval.of significand exponent).center := by
  have hunit : (0 : ℚ) < 2 ^ exponent := by positivity
  have hgap := (gapBelow_bounds significand).1
  rw [Interval.center, (interval_of_div h).2.1]
  exact contains_of_lt h (mul_lt_mul_of_pos_right (by linarith) hunit)
    (mul_lt_mul_of_pos_right (by linarith) hunit)

/-- What belongs to the interval is at least the last bit times a power of two. -/
theorem le_of_contains (h : Moderate significand exponent) {r : ℚ}
    (hr : (Interval.of significand exponent).Contains r) : (2 : ℚ) ^ 51 * 2 ^ exponent ≤ r := by
  obtain ⟨hlow, -⟩ := significand_bounds h
  have hgap := (gapBelow_bounds significand).2
  exact (mul_le_mul_of_nonneg_right (by linarith) (by positivity)).trans
    (between_of_contains h hr).1

/-- On a grid wider than the last bit there is at most one point in the interval. -/
theorem eq_of_contains (h : Moderate significand exponent) {grid : Int} {n m : Nat}
    (hwide : (2 : ℚ) ^ exponent < 10 ^ grid)
    (hn : (Interval.of significand exponent).Contains (n * 10 ^ grid))
    (hm : (Interval.of significand exponent).Contains (m * 10 ^ grid)) : n = m := by
  have hunit : (0 : ℚ) < 2 ^ exponent := by positivity
  have hgap := mul_le_mul_of_nonneg_right (gapBelow_bounds significand).2 hunit.le
  have hless : ∀ {n m : Nat}, (Interval.of significand exponent).Contains (n * 10 ^ grid) →
      (Interval.of significand exponent).Contains (m * 10 ^ grid) → ¬n < m := by
    intro n m hn hm hlt
    have hstep : ((n : ℚ) + 1) * 10 ^ grid ≤ m * 10 ^ grid :=
      mul_le_mul_of_nonneg_right (by exact_mod_cast hlt) (by positivity)
    linarith [(between_of_contains h hn).1, (between_of_contains h hm).2]
  have hle := hless hn hm
  have hge := hless hm hn
  omega

/-- Seventeen digits are enough: their grid has a point in the interval. -/
theorem exists_contains_seventeen (h : Moderate significand exponent) {first : Int}
    (hfirst : (10 : ℚ) ^ first ≤ (Interval.of significand exponent).center) :
    ∃ n : Nat, (Interval.of significand exponent).Contains (n * 10 ^ (first - 16)) := by
  have hunit : (0 : ℚ) < 2 ^ exponent := by positivity
  have hspec := Interval.below_spec (denominator_of_pos significand exponent) (first - 16)
  obtain ⟨hlow, hhigh⟩ := hspec
  have hgap := (gapBelow_bounds significand).1
  have hbits := mul_lt_mul_of_pos_right (significand_bounds h).2 hunit
  have hgrid : (10 : ℚ) ^ (first - 16) ≤
      (Interval.of significand exponent).center / 10 ^ 16 := by
    rw [zpow_sub₀ (by norm_num), zpow_ofNat]
    exact div_le_div_of_nonneg_right hfirst (by norm_num)
  rw [Interval.center, (interval_of_div h).2.1] at hlow hhigh hgrid
  generalize hbelow : (Interval.of significand exponent).below (first - 16) = below at hlow hhigh
  by_cases hnear : (significand - gapBelow significand) * 2 ^ exponent <
      below * 10 ^ (first - 16)
  · exact ⟨below, contains_of_lt h hnear
      (hlow.trans_lt (mul_lt_mul_of_pos_right (by linarith) hunit))⟩
  · -- the step is shorter than the gaps on both sides together
    refine ⟨below + 1, contains_of_lt h
      (lt_trans (mul_lt_mul_of_pos_right (by linarith) hunit) hhigh) ?_⟩
    push_cast
    have hshort : (10 : ℚ) ^ (first - 16) < (1 / 2 + gapBelow significand) * 2 ^ exponent := by
      rw [gapBelow]
      split
      · rename_i hpower
        rw [hpower, powerOfTwo_eq] at hgrid
        push_cast at hgrid
        linarith
      · linarith
    linarith

/-- The power of ten of the first digit of a number. -/
def first (significand : Nat) (exponent : Int) : Int :=
  leadingExponent (Interval.of significand exponent).value
    (Interval.of significand exponent).denominator

/-- The first digit of a number. -/
theorem first_spec (h : Moderate significand exponent) :
    (10 : ℚ) ^ first significand exponent ≤ (Interval.of significand exponent).center ∧
      (Interval.of significand exponent).center < 10 ^ (first significand exponent + 1) := by
  obtain ⟨hlow, hhigh⟩ := significand_bounds h
  have hunit : (0 : ℚ) < 2 ^ exponent := by positivity
  have hcenter := (interval_of_div h).2.1
  have hden := denominator_of_pos significand exponent
  have hnum : 0 < (Interval.of significand exponent).value := by
    refine Nat.pos_of_ne_zero fun hzero => ?_
    rw [hzero, Nat.cast_zero, zero_div] at hcenter
    have hpositive : (0 : ℚ) < significand * 2 ^ exponent := mul_pos (by linarith) hunit
    linarith
  refine leadingExponent_spec hnum hden ?_ ?_ <;> rw [hcenter]
  · calc (2 : ℚ) ^ (-128 : ℤ) ≤ 2 ^ 52 * 2 ^ (-180 : ℤ) := by norm_num
      _ ≤ significand * 2 ^ exponent := mul_le_mul hlow
          (zpow_le_zpow_right₀ (by norm_num) h.exponent_ge) (by positivity) (by linarith)
  · calc (significand : ℚ) * 2 ^ exponent ≤ 2 ^ 53 * 2 ^ (75 : ℤ) :=
          mul_le_mul hhigh.le (zpow_le_zpow_right₀ (by norm_num) h.exponent_le) hunit.le
            (by norm_num)
      _ ≤ 2 ^ (128 : ℤ) := by norm_num

/-- The grid of the first digit is wider than the last bit. -/
theorem bit_lt_first (h : Moderate significand exponent) :
    (2 : ℚ) ^ exponent < 10 ^ first significand exponent := by
  have hunit : (0 : ℚ) < 2 ^ exponent := by positivity
  have hhigh := (first_spec h).2
  have hbits := mul_le_mul_of_nonneg_right (significand_bounds h).1 hunit.le
  rw [Interval.center, (interval_of_div h).2.1, zpow_add₀ (by norm_num), zpow_one] at hhigh
  linarith

/-- A number in the interval leads to a grid within seventeen digits that is no finer, unless it
is the grid of the first digit. -/
theorem exists_grid (h : Moderate significand exponent) {n : Nat} {place : Int}
    (hn : (Interval.of significand exponent).Contains (n * 10 ^ place)) :
    ∃ (k : Nat) (grid : Int), (Interval.of significand exponent).Contains (k * 10 ^ grid) ∧
      grid ≤ first significand exponent ∧ first significand exponent - grid < 17 ∧
      (place ≤ grid ∨ grid = first significand exponent) := by
  by_cases hcoarse : first significand exponent ≤ place
  · rw [mul_pow_eq n hcoarse] at hn
    exact ⟨_, _, hn, by omega, by omega, .inr rfl⟩
  · by_cases hfew : first significand exponent - place < 17
    · exact ⟨n, place, hn, by omega, hfew, .inl (Int.le_refl _)⟩
    · obtain ⟨k, hk⟩ := exists_contains_seventeen h (first_spec h).1
      exact ⟨k, _, hk, by omega, by omega, .inl (by omega)⟩

/-- The shortest digits are those of a point in the interval, with trailing zeros removed. -/
theorem exists_shortest_eq (tie : Tie) (h : Moderate significand exponent) {n : Nat} {place : Int}
    (hn : (Interval.of significand exponent).Contains (n * 10 ^ place)) :
    ∃ (k : Nat) (grid : Int), shortest tie significand exponent = strip 20 k grid ∧
      (Interval.of significand exponent).Contains (k * 10 ^ grid) ∧ 0 < k ∧ k ≤ 10 ^ 17 ∧
      (place ≤ grid ∨ grid = first significand exponent) := by
  obtain ⟨m, start, hm, hhigh, hlow, hplace⟩ := exists_grid h hn
  obtain ⟨k, grid, heq, hfine, hcoarse, hk, hstep⟩ := search_spec
    (denominator_of_pos significand exponent) (contains_center h) tie _ hm hhigh hlow
  have hnonzero : significand ≠ 0 :=
    (Nat.lt_of_lt_of_le (powerOfTwo_pos 52) h.significand_ge).ne'
  refine ⟨k, grid, (if_neg hnonzero).trans heq, hk, Nat.pos_of_ne_zero fun hzero => ?_, ?_,
    by omega⟩
  · have hleast := le_of_contains h hk
    rw [hzero, Nat.cast_zero, zero_mul] at hleast
    exact absurd hleast (not_le.2 (by positivity))
  · have hbound : ((k : ℚ) - 1) * 10 ^ grid < 10 ^ 17 * 10 ^ grid := by
      refine (hstep.trans_lt (first_spec h).2).trans_le ?_
      rw [← zpow_natCast, ← zpow_add₀ (by norm_num)]
      exact zpow_le_zpow_right₀ (by norm_num) (by omega)
    have hless : (k : ℚ) < 10 ^ 17 + 1 := by
      linarith [lt_of_mul_lt_mul_right hbound (by positivity)]
    exact Nat.lt_succ_iff.1 (by exact_mod_cast hless)

/-- The shortest digits lie in the interval, do not end in zero, and are at most seventeen. -/
theorem shortest_spec (tie : Tie) (h : Moderate significand exponent) :
    (Interval.of significand exponent).Contains (shortest tie significand exponent).value ∧
      (shortest tie significand exponent).coefficient % 10 ≠ 0 ∧
      (shortest tie significand exponent).coefficient < 10 ^ 17 := by
  obtain ⟨n, hn⟩ := exists_contains_seventeen h (first_spec h).1
  obtain ⟨k, grid, heq, hk, hpositive, hle, -⟩ := exists_shortest_eq tie h hn
  obtain ⟨hvalue, hlast, hfew, -⟩ := strip_spec k hpositive
    (Nat.lt_of_le_of_lt hle (by decide) : k < 10 ^ 20) grid
  rw [heq, hvalue]
  exact ⟨hk, hlast, by omega⟩

/-- The shortest digits are never finer than another number in the interval. -/
theorem le_exponent_shortest (tie : Tie) (h : Moderate significand exponent) {n : Nat}
    {place : Int} (hn : (Interval.of significand exponent).Contains (n * 10 ^ place)) :
    place ≤ (shortest tie significand exponent).exponent := by
  obtain ⟨k, grid, heq, hk, hpositive, hle, hplace⟩ := exists_shortest_eq tie h hn
  obtain ⟨hvalue, hlast, -, hgrid⟩ := strip_spec k hpositive
    (Nat.lt_of_le_of_lt hle (by decide) : k < 10 ^ 20) grid
  rw [heq]
  by_cases hcoarse : place ≤ grid
  · exact hcoarse.trans hgrid
  · -- on the grid of the first digit the interval has no other point
    obtain rfl := hplace.resolve_left hcoarse
    have hfiner : first significand exponent ≤ place := by omega
    rw [mul_pow_eq n hfiner] at hn
    have hsame := eq_of_contains h (bit_lt_first h) hk hn
    refine le_exponent_of_value_eq hlast (n := n) ?_
    rw [hvalue, hsame, ← mul_pow_eq n hfiner]

/-- A number of at most fifteen digits in the interval is found. -/
theorem shortest_value_eq (tie : Tie) (h : Moderate significand exponent) {n : Nat} {place : Int}
    (hfew : n < 10 ^ 15)
    (hn : (Interval.of significand exponent).Contains (n * 10 ^ place)) :
    (shortest tie significand exponent).value = n * 10 ^ place := by
  have hcontains := (shortest_spec tie h).1
  have hplace := le_exponent_shortest tie h hn
  have hwide : (2 : ℚ) ^ exponent < 10 ^ place := by
    have hleast := le_of_contains h hn
    have hmost : (n : ℚ) * 10 ^ place < 10 ^ 15 * 10 ^ place :=
      mul_lt_mul_of_pos_right (by exact_mod_cast hfew) (by positivity)
    have hunit : (0 : ℚ) < 2 ^ exponent := by positivity
    linarith
  rw [value, mul_pow_eq _ hplace] at hcontains ⊢
  rw [eq_of_contains h hwide hcontains hn]

end Moderate

end DecimalDigits

end ApiBinding
