import ApiBinding.Proofs.Json.WrittenNumbers
import ApiBinding.Proofs.Number.JsonLayout
import ApiBinding.Proofs.Number.Stepwise
import ApiBinding.Value.Conversion

/-!
# Decimal numbers in bodies

A decimal number goes into a body as a JSON number, and a number of a reply becomes a decimal
number again.  In between it is a whole number of 64 bits or a number of the binary64 format.
A whole number that fits 64 bits comes back as it was.  Any other is sent with the shortest
digits of the number of the format that its own digits are read as, step by step, and comes
back exactly if the digits that are sent have its value when rounded to 28 places.  So fifteen
digits come back if there are at most 22 places, sixteen may be changed, and more than
seventeen never come back.

Main results:

- Theorems `decimalJson_whole`, `decimalJson_binary`: the JSON number of a decimal number.
- Theorems `numberAs_whole`, `numberAs_binary`: the decimal number of a JSON number.
- Theorem `comesBack_iff_sentDigits`: which decimal numbers come back.
-/

namespace ApiBinding

namespace Decimal

/-! ## Normalized numbers -/

/-- Dropping trailing zeros after the point keeps the value; a last place that is kept is not
zero. -/
theorem stripZeros_spec (coefficient scale : Nat) :
    ((stripZeros coefficient scale).1 : ℚ) * 10 ^ (-((stripZeros coefficient scale).2 : ℤ)) =
        coefficient * 10 ^ (-(scale : ℤ)) ∧
      ((stripZeros coefficient scale).2 ≠ 0 → (stripZeros coefficient scale).1 % 10 ≠ 0) := by
  induction scale generalizing coefficient with
  | zero => exact ⟨rfl, fun h => absurd rfl h⟩
  | succ scale ih =>
      rw [stripZeros]
      split
      · rename_i hzero
        obtain ⟨hvalue, hlast⟩ := ih (coefficient / 10)
        refine ⟨?_, hlast⟩
        have htenth : (coefficient : ℚ) = (coefficient / 10 : Nat) * 10 := by
          exact_mod_cast (show coefficient = coefficient / 10 * 10 by omega)
        rw [hvalue, htenth, Nat.cast_succ, neg_add, zpow_add₀ (by norm_num), zpow_neg_one]
        field_simp
      · rename_i hlast
        exact ⟨rfl, fun _ => hlast⟩

/-- Normalizing keeps the magnitude. -/
theorem magnitude_normalize (d : Decimal) : d.normalize.magnitude = d.magnitude := by
  rw [normalize]
  split
  · rename_i hzero
    simp [magnitude, zero, hzero]
  · exact (stripZeros_spec d.coefficient d.scale).1

/-- Normalizing keeps the value. -/
theorem value_normalize (d : Decimal) : d.normalize.value = d.value := by
  rw [value, value, magnitude_normalize, normalize]
  split
  · rename_i hzero
    simp [magnitude, signed, hzero]
  · rfl

/-- The last place of a normalized number is not zero. -/
theorem normalize_last (d : Decimal) (h : d.normalize.scale ≠ 0) :
    d.normalize.coefficient % 10 ≠ 0 := by
  by_cases hzero : d.coefficient = 0
  · rw [normalize, if_pos hzero] at h
    exact absurd rfl h
  · rw [normalize, if_neg hzero] at h ⊢
    exact (stripZeros_spec d.coefficient d.scale).2 h

/-- Normalized zero has neither sign nor places. -/
theorem normalize_zero {d : Decimal} (h : d.normalize.coefficient = 0) : d.normalize = zero := by
  have hmagnitude := magnitude_normalize d
  rw [magnitude, h, Nat.cast_zero, zero_mul, magnitude, eq_comm, mul_eq_zero] at hmagnitude
  have hzero : d.coefficient = 0 := by
    exact_mod_cast hmagnitude.resolve_right (by positivity)
  rw [normalize, if_pos hzero]

/-! ## Decimal numbers as JSON numbers -/

/-- The digits that stand in a body for a decimal number. -/
def sentDigits (d : Decimal) : DecimalDigits :=
  match (Value.dec d).toJson with
  | .num (.whole n) => ⟨n.natAbs, 0⟩
  | .num (.binary (.finite _ significand exponent)) =>
    DecimalDigits.shortest NumberLayout.json.tie significand exponent
  | _ => ⟨0, 0⟩

/-- Whether a decimal number is a whole number that fits 64 bits, signed or not. -/
def FitsWhole (d : Decimal) : Prop :=
  ∃ n : Int, d.value = n ∧ -(integerBound : Int) ≤ n ∧ n < (naturalBound : Int)

/-- Whether a decimal number has at most so many significant digits. -/
def HasDigits (count : Nat) (d : Decimal) : Prop :=
  ∃ (n : Nat) (place : Int), n < 10 ^ count ∧ d.magnitude = n * 10 ^ place

/-- Whether a decimal number that is sent in a body and echoed in a reply is received as a
decimal number of the same value. -/
def ComesBack (d : Decimal) : Prop :=
  ∃ echo, Conversion.literal .decimal (Value.dec d).toJson = .dec echo ∧ echo.value = d.value

/-- How large a whole number of 64 bits can be: one more with a sign, the bound itself without. -/
def wholeBound (negative : Bool) : Nat :=
  if negative then integerBound + 1 else naturalBound

/-- A whole number that fits 64 bits is written as it is. -/
theorem decimalJson_whole {d : Decimal} (hscale : d.normalize.scale = 0)
    (hfits : d.normalize.coefficient < wholeBound d.normalize.negative) :
    ∃ n : Int, Value.decimalJson d = .num (.whole n) ∧ (n : ℚ) = d.value ∧
      -(integerBound : Int) ≤ n ∧ n < (naturalBound : Int) := by
  obtain ⟨whole, fraction, htext, hlength, hwhole, hfraction, hvalue⟩ :=
    exists_text_eq d.normalize
  rw [hscale] at hlength
  obtain rfl := List.eq_nil_of_length_eq_zero hlength
  rw [List.append_nil] at hvalue
  rw [← hvalue] at hfits
  have hnegative : d.normalize.negative = true → digitsValue whole ≠ 0 := fun hnegative hzero => by
    rw [hvalue] at hzero
    rw [normalize_zero hzero] at hnegative
    cases hnegative
  have hread := Json.numberOf?_whole hnegative hfits
  refine ⟨if d.normalize.negative then -(digitsValue whole : Int) else digitsValue whole,
    ?_, ?_, ?_⟩
  · rw [Value.decimalJson, htext, Json.parse?_written _ hwhole hfraction, List.isEmpty_nil, hread]
    rfl
  · rw [← value_normalize, value, magnitude, hscale, ← hvalue, signed]
    split <;> simp
  · rw [wholeBound] at hfits
    have hnatural := naturalBound_eq
    have hinteger := integerBound_eq
    split at hfits <;> rename_i hsign
    · rw [if_pos hsign]
      omega
    · rw [if_neg hsign]
      omega

/-- Any other number is written as the number of the binary64 format that its digits are read
as.  At most fifteen digits with at most 22 places are read as the nearest one. -/
theorem decimalJson_binary {d : Decimal}
    (hlarge : d.normalize.scale = 0 →
      wholeBound d.normalize.negative ≤ d.normalize.coefficient) :
    ∃ significand exponent,
      Value.decimalJson d = .num (.binary (.finite d.normalize.negative significand exponent)) ∧
      Binary64.Moderate significand exponent ∧
      (10 : ℚ) ^ (-28 : ℤ) ≤
        (DecimalDigits.shortest NumberLayout.json.tie significand exponent).value ∧
      (d.normalize.coefficient < 10 ^ 15 → d.normalize.scale ≤ 22 →
        (DecimalDigits.Interval.of significand exponent).Contains d.magnitude) := by
  have hpositive : 0 < d.normalize.coefficient := by
    refine Nat.pos_of_ne_zero fun hzero => ?_
    rw [normalize_zero hzero] at hlarge
    exact absurd (hlarge rfl) (by decide)
  obtain ⟨whole, fraction, htext, hlength, hwhole, hfraction, hvalue⟩ :=
    exists_text_eq d.normalize
  have hdigits : ∀ c ∈ whole ++ fraction, c.isDigit = true := fun c hc =>
    (List.mem_append.1 hc).elim (hwhole.digits c) (hfraction c)
  have hscale := d.normalize.scale_le
  have hbound := d.normalize.coefficient_lt
  rw [← hvalue] at hpositive hbound
  obtain ⟨digits, power, hread, hsome, hfits, hlow, hhigh⟩ :=
    WrittenNumber.exists_readBinary64_eq d.normalize.negative hdigits hpositive hbound
      (by omega)
  obtain ⟨significand, exponent, heq, hmoderate, hleast⟩ := Binary64.exists_ofSteps_eq
    d.normalize.negative NumberLayout.json.tie hsome hfits hlow hhigh
  refine ⟨significand, exponent, ?_, hmoderate, hleast, fun hfew hplaces => ?_⟩
  · have hnumber : Json.numberOf? ⟨d.normalize.negative, whole, fraction, 0⟩ fraction.isEmpty =
        some (.binary (.finite d.normalize.negative significand exponent)) := by
      rw [Json.numberOf?_binary, hread, heq]
      · rfl
      · rintro rfl
        rw [List.append_nil] at hvalue
        rw [hvalue]
        exact hlarge hlength.symm
    rw [Value.decimalJson, htext, Json.parse?_written _ hwhole hfraction, hnumber]
    rfl
  · have hexact := WrittenNumber.readBinary64_of_lt d.normalize.negative hdigits
      (by rw [hvalue]; exact Nat.lt_trans hfew (by decide))
    obtain ⟨_, _, hsteps, -, hcontains⟩ := Binary64.ofSteps_exact d.normalize.negative
      (-(fraction.length : Int)) hpositive
      (by rw [hvalue]; exact Nat.lt_trans hfew (by decide)) (by omega) (by omega)
    rw [← hexact, hread, heq] at hsteps
    obtain ⟨-, rfl, rfl⟩ := Binary64.finite.inj hsteps
    rw [hvalue, hlength] at hcontains
    rw [← magnitude_normalize]
    exact hcontains

/-! ## JSON numbers as decimal numbers -/

/-- A number of the format whose interval reaches beyond 96 bits is no decimal number. -/
theorem ofBinary64?_eq_none (negative : Bool) {significand : Nat} {exponent : Int}
    (h : Binary64.Moderate significand exponent) {r : ℚ}
    (hr : (DecimalDigits.Interval.of significand exponent).Contains r) (hlarge : (2 : ℚ) ^ 96 ≤ r) :
    ofBinary64? (.finite negative significand exponent) = none := by
  have hreach := hlarge.trans (DecimalDigits.between_of_contains h hr).2
  have hfull := (DecimalDigits.significand_bounds h).2
  have hunit : (0 : ℚ) < 2 ^ exponent := by positivity
  have hexponent : 0 ≤ exponent := by
    by_contra hnegative
    have hsmall : (2 : ℚ) ^ exponent ≤ 1 := zpow_le_one_of_nonpos₀ (by norm_num) (by omega)
    have hless : ((significand : ℚ) + 1 / 2) * 2 ^ exponent ≤ (2 ^ 53 + 1 / 2) * 1 :=
      mul_le_mul (by linarith) hsmall hunit.le (by norm_num)
    linarith
  obtain ⟨n, hn⟩ := Int.eq_ofNat_of_zero_le hexponent
  have hmost := h.exponent_le
  -- a multiple of the last bit below the bound is below it by as much
  have hbound : powerOfTwo 96 ≤ significand * 2 ^ n := by
    by_contra hless
    have hsplit : powerOfTwo 96 = 2 ^ (96 - n) * 2 ^ n := by
      rw [powerOfTwo_eq, ← pow_add, Nat.sub_add_cancel (by omega)]
    rw [hsplit, Nat.not_le, Nat.mul_lt_mul_right (by positivity)] at hless
    have hnext : (significand + 1) * 2 ^ n ≤ powerOfTwo 96 := by
      rw [hsplit]
      exact Nat.mul_le_mul_right _ hless
    have hcast : ((significand : ℚ) + 1) * 2 ^ n ≤ 2 ^ 96 := by
      rw [powerOfTwo_eq] at hnext
      exact_mod_cast hnext
    rw [hn, zpow_natCast] at hreach hunit
    linarith
  rw [ofBinary64?, if_pos hexponent, hn, Int.toNat_natCast, powerOfTwo_eq]
  exact dif_neg fun hfits => absurd hfits.1 (Nat.not_lt.2 hbound)

end Decimal

namespace Conversion

/-- A number literal follows the policy. -/
theorem literal_num (policy : NumberPolicy) (n : JsonNumber) :
    literal policy (.num n) = numberAs policy n := by
  rw [literal, ofJson]
  rfl

/-- The text of a whole number. -/
theorem toList_whole_text (n : Int) :
    (JsonNumber.whole n).text.toList =
      signChars (decide (n < 0)) ++ (Nat.toDigits 10 n.natAbs ++ pointed []) := by
  rw [JsonNumber.text, Int.toString_eq_repr, Int.repr_eq_if]
  split <;> rename_i hsign
  · have habs : n.toNat = n.natAbs := by omega
    rw [Nat.toList_repr, habs, decide_eq_false (not_lt.2 hsign)]
    exact (List.append_nil _).symm
  · have habs : (-n).toNat = n.natAbs := by omega
    rw [String.toList_append, Nat.toList_repr, habs, decide_eq_true (not_le.1 hsign)]
    exact congrArg _ (List.append_nil _).symm

/-- A whole number of 64 bits is taken over as it is. -/
theorem numberAs_whole {n : Int} (hlow : -(integerBound : Int) ≤ n)
    (hhigh : n < (naturalBound : Int)) :
    ∃ echo, numberAs .decimal (.whole n) = .dec echo ∧ echo.value = n := by
  have hbound : n.natAbs < powerOfTwo 96 := by
    have hnatural := naturalBound_eq
    have hinteger := integerBound_eq
    have hpower : powerOfTwo 96 = 79228162514264337593543950336 := rfl
    omega
  have hvalue : digitsValue (Nat.toDigits 10 n.natAbs ++ []) = n.natAbs := by
    rw [List.append_nil, digitsValue_toDigits]
  have hread : Decimal.ofPlainText? (signChars (decide (n < 0)) ++
      (Nat.toDigits 10 n.natAbs ++ pointed [])) =
      Decimal.make? (decide (n < 0)) (digitsValue (Nat.toDigits 10 n.natAbs ++ [])) 0 :=
    Decimal.ofPlainText?_written _ Nat.toDigits_ne_nil
      (fun c hc => isDigit_of_mem_toDigits (by simpa using hc)) (by rw [hvalue]; exact hbound)
      (by decide)
  obtain ⟨echo, hmade, hecho⟩ := Decimal.make?_of_bounds (decide (n < 0)) hbound
    (Nat.zero_le Decimal.maxScale)
  rw [hvalue, hmade] at hread
  have hread : Decimal.ofText? (JsonNumber.whole n).text = some echo := by
    rw [Decimal.ofText?, toList_whole_text]
    simp only [hread]
  refine ⟨echo, by rw [numberAs, hread]; rfl, ?_⟩
  have hsigned : (n : ℚ) = ((if n < 0 then -(n.natAbs : Int) else n.natAbs : Int) : ℚ) := by
    congr 1
    split <;> omega
  rw [hecho, hsigned, signed]
  by_cases hsign : n < 0 <;> simp [hsign]

/-- A number of the binary64 format is taken over as the value of its shortest digits, rounded
to 28 places, if that fits 96 bits, and else stays binary. -/
theorem numberAs_binary (negative : Bool) {significand : Nat} {exponent : Int}
    (h : Binary64.Moderate significand exponent)
    (hleast : (10 : ℚ) ^ (-28 : ℤ) ≤
      (DecimalDigits.shortest NumberLayout.json.tie significand exponent).value) :
    (∃ echo, numberAs .decimal (.binary (.finite negative significand exponent)) = .dec echo ∧
      echo.value = signed negative (Decimal.placed
        (DecimalDigits.shortest NumberLayout.json.tie significand exponent).value)) ∨
    ((2 : ℚ) ^ 96 ≤ Decimal.placed
        (DecimalDigits.shortest NumberLayout.json.tie significand exponent).value ∧
      numberAs .decimal (.binary (.finite negative significand exponent)) =
        .num (.finite negative significand exponent)) := by
  obtain ⟨hcontains, hlast, hfew⟩ := DecimalDigits.shortest_spec NumberLayout.json.tie h
  have htext : (JsonNumber.binary (.finite negative significand exponent)).text =
      String.ofList (signChars negative ++ NumberLayout.json.writeDigits
        (DecimalDigits.shortest NumberLayout.json.tie significand exponent)) := rfl
  generalize DecimalDigits.shortest NumberLayout.json.tie significand exponent = digits at *
  have hpositive : 0 < digits.coefficient := Nat.pos_of_ne_zero fun hzero => hlast (by rw [hzero])
  have hcoefficient : digits.coefficient < 10 ^ 18 := Nat.lt_trans hfew (by decide)
  by_cases hbound : digits.coefficient * 10 ^ digits.exponent.toNat < powerOfTwo 96
  · left
    obtain ⟨echo, hread, hvalue⟩ := NumberLayout.ofText?_writeDigits negative hpositive
      hcoefficient (NumberLayout.le_leading hleast) hbound
    exact ⟨echo, by rw [numberAs, htext, hread]; rfl, hvalue⟩
  · right
    have hlarge := Nat.not_lt.1 hbound
    have hwhole : 0 ≤ digits.exponent := by
      by_contra hnegative
      rw [Int.toNat_of_nonpos (by omega), pow_zero, mul_one] at hlarge
      exact absurd (Nat.lt_of_le_of_lt hlarge hcoefficient) (by decide)
    have hvalue : (2 : ℚ) ^ 96 ≤ digits.value := by
      obtain ⟨n, hn⟩ := Int.eq_ofNat_of_zero_le hwhole
      rw [hn, Int.toNat_natCast, powerOfTwo_eq] at hlarge
      rw [DecimalDigits.value, hn, zpow_natCast]
      exact_mod_cast hlarge
    have hplaced : Decimal.placed digits.value = digits.value :=
      Decimal.placed_eq_self _ (by omega)
    refine ⟨hplaced.symm ▸ hvalue, ?_⟩
    have hnone := NumberLayout.ofText?_writeDigits_eq_none negative hcoefficient hlarge
    have hbinary := Decimal.ofBinary64?_eq_none negative h hcontains hvalue
    rw [numberAs, htext, hnone, JsonNumber.toBinary64, hbinary]
    rfl

end Conversion

/-! ## What comes back -/

namespace Decimal

/-- A magnitude with a sign determines it. -/
theorem signed_inj {negative : Bool} {r s : ℚ} : signed negative r = signed negative s ↔ r = s := by
  cases negative <;> simp [signed]

/-- The absolute value of a number with a sign. -/
theorem abs_signed {negative : Bool} {r : ℚ} (h : 0 ≤ r) : |signed negative r| = r := by
  cases negative <;> simp [signed, abs_of_nonneg h]

/-- A magnitude has no sign. -/
theorem magnitude_nonneg (d : Decimal) : 0 ≤ d.magnitude := by
  rw [magnitude]
  positivity

/-- A decimal number is below the bound of 96 bits. -/
theorem magnitude_lt (d : Decimal) : d.magnitude < 2 ^ 96 := by
  have hcoefficient : (d.coefficient : ℚ) < 2 ^ 96 := by
    have h := d.coefficient_lt
    rw [powerOfTwo_eq] at h
    exact_mod_cast h
  have hplaces : (10 : ℚ) ^ (-(d.scale : ℤ)) ≤ 1 := zpow_le_one_of_nonpos₀ (by norm_num) (by omega)
  calc d.magnitude ≤ d.coefficient * 1 :=
        mul_le_mul_of_nonneg_left hplaces (Nat.cast_nonneg _)
    _ < 2 ^ 96 := by linarith

/-- A normalized number whose magnitude is whole has no places. -/
theorem normalize_scale_of_whole {d : Decimal} {n : Nat} (h : d.magnitude = n) :
    d.normalize.scale = 0 ∧ d.normalize.coefficient = n := by
  rw [← magnitude_normalize, magnitude, zpow_neg, zpow_natCast, ← div_eq_mul_inv,
    div_eq_iff (by positivity)] at h
  have hcoefficient : d.normalize.coefficient = n * 10 ^ d.normalize.scale := by exact_mod_cast h
  have hscale : d.normalize.scale = 0 := by
    by_contra hplaces
    obtain ⟨scale, heq⟩ := Nat.exists_eq_succ_of_ne_zero hplaces
    have hlast := normalize_last d hplaces
    rw [hcoefficient, heq, Nat.pow_succ, ← Nat.mul_assoc] at hlast
    omega
  exact ⟨hscale, by rw [hcoefficient, hscale, pow_zero, mul_one]⟩

/-- A whole number that fits 64 bits has neither places nor too many digits when normalized. -/
theorem FitsWhole.normalize {d : Decimal} (h : d.FitsWhole) :
    d.normalize.scale = 0 ∧ d.normalize.coefficient < wholeBound d.normalize.negative := by
  obtain ⟨n, hn, hlow, hhigh⟩ := h
  rw [← value_normalize, value, magnitude_normalize] at hn
  have hnonneg := magnitude_nonneg d
  rw [wholeBound]
  cases hnegative : d.normalize.negative with
  | true =>
      have hmagnitude : d.magnitude = ((-n : Int) : ℚ) := by
        rw [hnegative, signed, if_pos rfl] at hn
        push_cast
        linarith
      obtain ⟨k, hk⟩ := Int.eq_ofNat_of_zero_le (a := -n) (by
        rw [hmagnitude] at hnonneg
        exact_mod_cast hnonneg)
      rw [hk, Int.cast_natCast] at hmagnitude
      obtain ⟨hscale, hcoefficient⟩ := normalize_scale_of_whole hmagnitude
      exact ⟨hscale, by rw [if_pos rfl]; omega⟩
  | false =>
      rw [hnegative, signed, if_neg (by simp)] at hn
      obtain ⟨k, rfl⟩ := Int.eq_ofNat_of_zero_le (a := n) (by
        rw [hn] at hnonneg
        exact_mod_cast hnonneg)
      rw [Int.cast_natCast] at hn
      obtain ⟨hscale, hcoefficient⟩ := normalize_scale_of_whole hn
      exact ⟨hscale, by rw [if_neg (by simp)]; omega⟩

/-- A whole number that fits 64 bits is sent with all its digits and comes back. -/
theorem comesBack_of_fitsWhole {d : Decimal} (h : d.FitsWhole) :
    d.ComesBack ∧ d.sentDigits.value = d.magnitude := by
  obtain ⟨hscale, hfits⟩ := h.normalize
  obtain ⟨n, hjson, hvalue, hlow, hhigh⟩ := decimalJson_whole hscale hfits
  obtain ⟨echo, hread, hecho⟩ := Conversion.numberAs_whole hlow hhigh
  refine ⟨⟨echo, ?_, hecho.trans hvalue⟩, ?_⟩
  · rw [Value.toJson, hjson, Conversion.literal_num, hread]
  · rw [sentDigits, Value.toJson, hjson]
    dsimp only
    rw [DecimalDigits.value, zpow_zero, mul_one, Nat.cast_natAbs, Int.cast_abs, hvalue,
      ← value_normalize, value, magnitude_normalize]
    exact abs_signed (magnitude_nonneg d)

/-- Any other decimal number is sent with the shortest digits of a number of the binary64
format, the nearest one for at most fifteen digits with at most 22 places. -/
theorem exists_sentDigits_eq {d : Decimal} (h : ¬d.FitsWhole) :
    ∃ significand exponent, Binary64.Moderate significand exponent ∧
      Value.decimalJson d = .num (.binary (.finite d.normalize.negative significand exponent)) ∧
      d.sentDigits = DecimalDigits.shortest NumberLayout.json.tie significand exponent ∧
      (10 : ℚ) ^ (-28 : ℤ) ≤ d.sentDigits.value ∧
      (d.normalize.coefficient < 10 ^ 15 → d.normalize.scale ≤ 22 →
        (DecimalDigits.Interval.of significand exponent).Contains d.magnitude) := by
  have hlarge : d.normalize.scale = 0 →
      wholeBound d.normalize.negative ≤ d.normalize.coefficient := fun hscale => by
    by_contra hless
    obtain ⟨n, -, hvalue, hlow, hhigh⟩ := decimalJson_whole hscale (Nat.lt_of_not_le hless)
    exact h ⟨n, hvalue.symm, hlow, hhigh⟩
  obtain ⟨significand, exponent, hjson, hmoderate, hleast, hcontains⟩ := decimalJson_binary hlarge
  have hsent : d.sentDigits =
      DecimalDigits.shortest NumberLayout.json.tie significand exponent := by
    rw [sentDigits, Value.toJson, hjson]
  exact ⟨significand, exponent, hmoderate, hjson, hsent, hsent ▸ hleast, hcontains⟩

/-- A decimal number has no more places than it can have. -/
theorem placed_magnitude (d : Decimal) : placed d.magnitude = d.magnitude := by
  have hscale := d.scale_le
  exact placed_eq_self d.coefficient (by omega)

/-- Any other decimal number comes back exactly if the digits that are sent have its value when
rounded to 28 places. -/
theorem comesBack_iff_of_not_fitsWhole {d : Decimal} (h : ¬d.FitsWhole) :
    d.ComesBack ↔ placed d.sentDigits.value = d.magnitude := by
  obtain ⟨significand, exponent, hmoderate, hjson, hsent, hleast, -⟩ := exists_sentDigits_eq h
  have hvalue : d.value = signed d.normalize.negative d.magnitude := by
    rw [← value_normalize, value, magnitude_normalize]
  rw [hsent] at hleast ⊢
  rw [ComesBack, Value.toJson, hjson, Conversion.literal_num, hvalue]
  rcases Conversion.numberAs_binary d.normalize.negative hmoderate hleast with
    ⟨echo, hread, hecho⟩ | ⟨hlarge, hread⟩
  · rw [hread]
    constructor
    · rintro ⟨other, hother, hsame⟩
      obtain rfl := Value.dec.inj hother
      rw [hecho] at hsame
      exact signed_inj.1 hsame
    · intro hsame
      exact ⟨echo, rfl, by rw [hecho, hsame]⟩
  · -- beyond 96 bits nothing is read, and the digits are not those of the number
    rw [hread]
    constructor
    · rintro ⟨other, hother, -⟩
      cases hother
    · intro hsame
      rw [hsame] at hlarge
      exact absurd (magnitude_lt d) (not_lt.2 hlarge)

/-- Digits that are rounded to 28 places do not become more. -/
theorem exists_placed_eq (digits : DecimalDigits) :
    ∃ n place, n ≤ digits.coefficient ∧ placed digits.value = (n : ℚ) * 10 ^ (place : ℤ) := by
  by_cases hplaces : -28 ≤ digits.exponent
  · exact ⟨_, _, Nat.le_refl _, placed_eq_self digits.coefficient hplaces⟩
  · obtain ⟨k, hk⟩ := Int.eq_ofNat_of_zero_le (show 0 ≤ -digits.exponent - 29 by omega)
    have hquotient : digits.value * 10 ^ maxScale =
        (digits.coefficient : ℚ) / (10 ^ (k + 1) : Nat) := by
      have hsum : digits.exponent + (maxScale : ℤ) = -((k + 1 : Nat) : ℤ) := by
        unfold maxScale
        omega
      rw [DecimalDigits.value, mul_assoc, ← zpow_natCast 10 maxScale, ← zpow_add₀ (by norm_num),
        hsum, zpow_neg, zpow_natCast, Nat.cast_pow, div_eq_mul_inv]
      rfl
    have hwide : 2 ≤ 10 ^ (k + 1) := by
      rw [pow_succ]
      have hpositive : 0 < 10 ^ k := by positivity
      omega
    refine ⟨roundUpDiv digits.coefficient (10 ^ (k + 1)), -28, roundUpDiv_le hwide, ?_⟩
    rw [placed, hquotient, ← roundUpDiv_eq _ (by positivity), div_eq_mul_inv, zpow_neg]
    rfl

/-- Any other decimal number that comes back has at most seventeen digits. -/
theorem hasDigits_of_comesBack {d : Decimal} (h : ¬d.FitsWhole) (hback : d.ComesBack) :
    d.HasDigits 17 := by
  obtain ⟨significand, exponent, hmoderate, -, hsent, -, -⟩ := exists_sentDigits_eq h
  obtain ⟨-, -, hfew⟩ := DecimalDigits.shortest_spec NumberLayout.json.tie hmoderate
  obtain ⟨n, place, hle, hplaced⟩ := exists_placed_eq d.sentDigits
  rw [(comesBack_iff_of_not_fitsWhole h).1 hback] at hplaced
  rw [hsent] at hle
  exact ⟨n, place, Nat.lt_of_le_of_lt hle hfew, hplaced⟩

/-- At most fifteen digits with at most 22 places are all sent. -/
theorem sentDigits_of_fewDigits {d : Decimal} (h : ¬d.FitsWhole)
    (hdigits : d.normalize.coefficient < 10 ^ 15) (hplaces : d.normalize.scale ≤ 22) :
    d.sentDigits.value = d.magnitude := by
  obtain ⟨significand, exponent, hmoderate, -, hsent, -, hcontains⟩ := exists_sentDigits_eq h
  have hown := hcontains hdigits hplaces
  rw [← magnitude_normalize] at hown ⊢
  rw [hsent]
  exact DecimalDigits.shortest_value_eq NumberLayout.json.tie hmoderate hdigits hown

/-- The amount `12.30`. -/
def amount : Decimal :=
  ⟨false, 1230, 2, by decide, by decide⟩

/-- What is received for a decimal number, from its text, the number that this is read as, and
the text of that. -/
theorem literal_toJson_eq {d echo : Decimal} (whole fraction sent : List Char)
    (significand : Nat) (exponent : Int)
    (htext : d.normalize.text.toList = whole ++ pointed fraction)
    (hwhole : IsWholePart whole) (hfraction : ∀ c ∈ fraction, c.isDigit = true)
    (hread : Json.numberOf? ⟨false, whole, fraction, 0⟩ fraction.isEmpty =
      some (.binary (.finite false significand exponent)))
    (hsent : NumberLayout.json.writeDigits
      (DecimalDigits.shortest NumberLayout.json.tie significand exponent) = sent)
    (hecho : ofPlainText? sent = some echo) :
    Conversion.literal .decimal (Value.dec d).toJson = .dec echo := by
  have hjson : Value.decimalJson d = .num (.binary (.finite false significand exponent)) := by
    have hparse := Json.parse?_written false hwhole hfraction
    rw [signChars, if_neg (by simp), List.nil_append, ← htext, hread] at hparse
    rw [Value.decimalJson, hparse]
    rfl
  have hback : ofText? (JsonNumber.binary (.finite false significand exponent)).text =
      some echo := by
    rw [JsonNumber.text, NumberLayout.write, hsent, ofText?, String.toList_ofList]
    simp only [Bool.false_eq_true, if_false, List.nil_append, hecho]
  rw [Value.toJson, hjson, Conversion.literal_num, Conversion.numberAs, hback]
  rfl

/-- A number that is received with another value does not come back. -/
theorem not_comesBack_of_literal {d echo : Decimal}
    (hecho : Conversion.literal .decimal (Value.dec d).toJson = .dec echo)
    (hvalue : echo.value ≠ d.value) : ¬d.ComesBack := by
  rintro ⟨other, hother, hsame⟩
  rw [hecho] at hother
  obtain rfl := Value.dec.inj hother
  exact hvalue hsame

/-- A number of sixteen digits, `9803739.975693997`. -/
def sixteenDigits : Decimal :=
  ⟨false, 9803739975693997, 9, by decide, by decide⟩

/-- What is received for the number of sixteen digits, `9803739.975693995`. -/
def changedDigits : Decimal :=
  ⟨false, 9803739975693995, 9, by decide, by decide⟩

/-- A number of sixteen digits is received with another last digit: its digits do not fit 53 bits,
so they are rounded once before the power of ten divides them. -/
theorem not_comesBack_sixteenDigits :
    Conversion.literal .decimal (Value.dec sixteenDigits).toJson = .dec changedDigits ∧
      ¬sixteenDigits.ComesBack := by
  have hecho : Conversion.literal .decimal (Value.dec sixteenDigits).toJson =
      .dec changedDigits := by
    refine literal_toJson_eq "9803739".toList "975693997".toList "9803739.975693995".toList
      5263342821761693 (-29) ?_ ?_ ?_ ?_ ?_ ?_
    · rw [text, String.toList_ofList]
      decide
    · exact ⟨List.all_eq_true.1 (by decide), .inr ⟨'9', "803739".toList, by decide, by decide⟩⟩
    · exact List.all_eq_true.1 (by decide)
    · decide
    · decide
    · decide
  refine ⟨hecho, not_comesBack_of_literal hecho ?_⟩
  norm_num [value, signed, magnitude, sixteenDigits, changedDigits]

/-- A number of eighteen digits, `1234567890.12345678`. -/
def eighteenDigits : Decimal :=
  ⟨false, 123456789012345678, 8, by decide, by decide⟩

/-- What is received for the number of eighteen digits, `1234567890.1234567`. -/
def seventeenDigits : Decimal :=
  ⟨false, 12345678901234567, 7, by decide, by decide⟩

end Decimal

end ApiBinding
