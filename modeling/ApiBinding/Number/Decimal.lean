import ApiBinding.Number.Power
import ApiBinding.Number.Reader
import ApiBinding.Number.Shortest

/-!
# Decimal numbers

A decimal number has a sign, a coefficient of at most 96 bits and at most 28
places after the point.  The scale is kept, so `1.50` and `1.5` are different
values of equal size; normalizing drops the trailing zeros.

Reading rounds a fraction that has more digits than fit, looking at the first
digit left out only.  A binary64 number is taken over to the digits that it carries.
-/

namespace ApiBinding

/-- A decimal number `± coefficient * 10 ^ -scale`. -/
structure Decimal where
  negative : Bool
  coefficient : Nat
  scale : Nat
  coefficient_lt : coefficient < powerOfTwo 96
  scale_le : scale ≤ 28
deriving DecidableEq

namespace Decimal

/-- The most places after the point. -/
def maxScale : Nat := 28

/-- Zero without places. -/
def zero : Decimal := ⟨false, 0, 0, by decide, by decide⟩

instance : Inhabited Decimal := ⟨zero⟩

/-- The number with the given parts, if they are within bounds.  Zero has no sign. -/
def make? (negative : Bool) (coefficient scale : Nat) : Option Decimal :=
  if h : coefficient < powerOfTwo 96 ∧ scale ≤ 28 then
    some ⟨negative && coefficient != 0, coefficient, scale, h.1, h.2⟩
  else none

/-! ## Text -/

/-- The digits of a number, at least as many as asked for. -/
def paddedDigits (width n : Nat) : List Char :=
  let digits := Nat.toDigits 10 n
  List.replicate (width - digits.length) '0' ++ digits

/-- The text of a number, with all its places. -/
def text (d : Decimal) : String :=
  let digits := paddedDigits (d.scale + 1) d.coefficient
  let split := digits.length - d.scale
  let fraction := if d.scale = 0 then [] else '.' :: digits.drop split
  String.ofList ((if d.negative then ['-'] else []) ++ digits.take split ++ fraction)

/-- Drop trailing zeros after the point, as far as there are places. -/
def stripZeros : Nat → Nat → Nat × Nat
  | coefficient, 0 => (coefficient, 0)
  | coefficient, scale + 1 =>
    if coefficient % 10 = 0 then stripZeros (coefficient / 10) scale else (coefficient, scale + 1)

/-- Dropping trailing zeros makes neither the coefficient nor the scale larger. -/
theorem stripZeros_le (coefficient scale : Nat) :
    (stripZeros coefficient scale).1 ≤ coefficient ∧ (stripZeros coefficient scale).2 ≤ scale := by
  induction scale generalizing coefficient with
  | zero => simp [stripZeros]
  | succ scale ih =>
    unfold stripZeros
    split
    · have := ih (coefficient / 10)
      omega
    · simp

/-- The number without trailing zeros; zero loses its sign and its places. -/
def normalize (d : Decimal) : Decimal :=
  if d.coefficient = 0 then zero
  else
    let stripped := stripZeros d.coefficient d.scale
    have bounds := stripZeros_le d.coefficient d.scale
    { negative := d.negative
      coefficient := stripped.1
      scale := stripped.2
      coefficient_lt := Nat.lt_of_le_of_lt bounds.1 d.coefficient_lt
      scale_le := Nat.le_trans bounds.2 d.scale_le }

/-! ## Reading -/

/-- Close a number whose next digit no longer fits, rounding by that digit. -/
def closeRounded (negative : Bool) (coefficient scale digit : Nat) : Option Decimal :=
  if digit < 5 then make? negative coefficient scale
  else if coefficient + 1 < powerOfTwo 96 then make? negative (coefficient + 1) scale
  else if scale = 0 then none
  else make? negative ((coefficient + 5) / 10) (scale - 1)

/-- Read digits, one point and separating underscores.  The flags tell whether the
point has been seen, and whether any digit has. -/
def readPlain (negative : Bool) (coefficient scale : Nat) (point seen : Bool) :
    List Char → Option Decimal
  | [] => if seen then make? negative coefficient scale else none
  | c :: rest =>
    if point && maxScale ≤ scale then
      if c.isDigit then closeRounded negative coefficient scale (c.toNat - 0x30)
      else if c = '_' then make? negative coefficient scale
      else none
    else if c.isDigit then
      let digit := c.toNat - 0x30
      let next := coefficient * 10 + digit
      if next < powerOfTwo 96 then readPlain negative next (if point then scale + 1 else 0) point true rest
      else if point then closeRounded negative coefficient scale digit
      else none
    else if c = '.' && !point then readPlain negative coefficient scale true seen rest
    else if c = '_' && seen then readPlain negative coefficient scale point seen rest
    else none

/-- Read a number without a power of ten. -/
def ofPlainText? (cs : List Char) : Option Decimal :=
  match cs with
  | '-' :: rest => readPlain true 0 0 false false rest
  | '+' :: rest => readPlain false 0 0 false false rest
  | _ => readPlain false 0 0 false false cs

/-- The quotient rounded to the nearest whole number, a half upwards. -/
def roundUpDiv (num den : Nat) : Nat :=
  (2 * num + den) / (2 * den)

/-- A rounded quotient by two or more is not larger than what was divided. -/
theorem roundUpDiv_le {num den : Nat} (wide : 2 ≤ den) : roundUpDiv num den ≤ num := by
  unfold roundUpDiv
  have positive : 0 < 2 * den := by omega
  rcases Nat.eq_zero_or_pos num with none | some
  · subst none
    simp only [Nat.mul_zero, Nat.zero_add]
    exact Nat.le_of_eq (Nat.div_eq_of_lt (by omega))
  · rw [← Nat.lt_add_one_iff, Nat.div_lt_iff_lt_mul positive]
    have product : 2 * num + den < (num + 1) * (2 * den) := by
      have split : (num + 1) * (2 * den) = num * (2 * den) + 2 * den := Nat.succ_mul ..
      have wider : num * 4 ≤ num * (2 * den) := Nat.mul_le_mul_left num (by omega)
      omega
    exact product

/-- The number rounded to fewer places, a half away from zero.  A number that becomes
zero keeps its sign. -/
def dropPlaces (d : Decimal) (count : Nat) : Decimal :=
  if count = 0 then d
  else
    have wide : 2 ≤ powerOfTen (count.pred + 1) := by
      have positive := powerOfTen_pos count.pred
      have step : powerOfTen (count.pred + 1) = powerOfTen count.pred * 10 := rfl
      omega
    { negative := d.negative
      coefficient := roundUpDiv d.coefficient (powerOfTen (count.pred + 1))
      scale := d.scale - count
      coefficient_lt := Nat.lt_of_le_of_lt (roundUpDiv_le wide) d.coefficient_lt
      scale_le := Nat.le_trans (Nat.sub_le ..) d.scale_le }

/-- The number times a power of ten, if the result is within bounds.  No exponent beyond
the most places is taken; digits that a negative one moves beyond the last place are
rounded away first. -/
def shift? (d : Decimal) (exponent : Int) : Option Decimal :=
  if maxScale < exponent.natAbs then none
  else if exponent < 0 then
    let fitted := d.dropPlaces (d.scale + exponent.natAbs - maxScale)
    if h : fitted.scale + exponent.natAbs ≤ 28 then
      some ⟨fitted.negative, fitted.coefficient, fitted.scale + exponent.natAbs,
        fitted.coefficient_lt, h⟩
    else none
  else if exponent ≤ d.scale then make? d.negative d.coefficient (d.scale - exponent.toNat)
  else make? d.negative (d.coefficient * powerOfTen (exponent.toNat - d.scale)) 0

/-- The exponent that follows the letter of a power of ten: a minus, a plus, and at least
one digit, of which the signs may be left out. -/
def readPower? (cs : List Char) : Option Int :=
  let minus := cs.head? == some '-'
  let signed := if minus then cs.drop 1 else cs
  let digits := if signed.head? == some '+' then signed.drop 1 else signed
  if digits.isEmpty || !digits.all Char.isDigit then none
  else some (if minus then -(digitsValue digits : Int) else digitsValue digits)

/-- Read a number, with or without a power of ten. -/
def ofText? (text : String) : Option Decimal :=
  let cs := text.toList
  match ofPlainText? cs with
  | some d => some d
  | none =>
    match cs.dropWhile fun c => c ≠ 'e' ∧ c ≠ 'E' with
    | [] => none
    | _ :: power => do
      let base ← ofPlainText? (cs.takeWhile fun c => c ≠ 'e' ∧ c ≠ 'E')
      base.shift? (← readPower? power)

/-! ## From binary64 -/

/-- Turn factors of one half into factors of one tenth, within 96 bits: an even
coefficient is halved, an odd one is taken five times as long as it fits, and else loses
its last bit.  The answer holds the coefficient and the number of tenths. -/
def tenths : Nat → Nat → Nat × Nat
  | 0, coefficient => (coefficient, 0)
  | halves + 1, coefficient =>
    if coefficient % 2 = 0 ∨ powerOfTwo 96 ≤ coefficient * 5 then
      tenths halves (coefficient / 2)
    else
      let rest := tenths halves (coefficient * 5)
      (rest.1, rest.2 + 1)

/-- Drop the last digit of a coefficient, rounding by it. -/
def dropDigit (coefficient : Nat) : Nat :=
  if coefficient % 10 < 5 then coefficient / 10 else coefficient / 10 + 1

/-- Drop digits one at a time until the places fit.  What has a single digit left then
vanishes. -/
def fitPlaces : Nat → Nat → Nat
  | 0, coefficient => coefficient
  | excess + 1, coefficient =>
    if coefficient < 10 then 0 else fitPlaces excess (dropDigit coefficient)

/-- Drop digits after the point one at a time until at most 52 bits are left. -/
def fitBits : Nat → Nat → Nat × Nat
  | 0, coefficient => (coefficient, 0)
  | scale + 1, coefficient =>
    if coefficient < powerOfTwo 52 then (coefficient, scale + 1)
    else fitBits scale (dropDigit coefficient)

/-- The decimal number for a binary64 number, to the fifteen or sixteen digits that the
format carries and without trailing zeros. -/
def ofBinary64? : Binary64 → Option Decimal
  | .finite negative significand exponent =>
    if 0 ≤ exponent then make? negative (significand * powerOfTwo exponent.toNat) 0
    else
      let exact := tenths exponent.natAbs significand
      let placed := fitPlaces (exact.2 - maxScale) exact.1
      let fitted := fitBits (min exact.2 maxScale) placed
      let stripped := stripZeros fitted.1 fitted.2
      if stripped.1 = 0 then some zero else make? negative stripped.1 stripped.2
  | _ => none

end Decimal

end ApiBinding
