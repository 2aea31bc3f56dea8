/-!
# Labels written in ASCII

A label beyond ASCII has a form of letters, digits and hyphens: first its ASCII
characters, then, after a hyphen, numbers of variable length that say which further
characters are inserted where.  How many values a digit can end a number with adapts to
the numbers that were read.
-/

namespace ApiBinding.Uri

namespace Punycode

/-! ## Digits -/

/-- The value of a digit: letters come before digits. -/
def digitValue? (c : Char) : Option Nat :=
  let code := c.toNat
  if 0x61 ≤ code && code ≤ 0x7A then some (code - 0x61)
  else if 0x41 ≤ code && code ≤ 0x5A then some (code - 0x41)
  else if 0x30 ≤ code && code ≤ 0x39 then some (code - 0x30 + 26)
  else none

/-- Below which value a digit at a position ends its number. -/
def threshold (position bias : Nat) : Nat :=
  if position ≤ bias then 1 else min (position - bias) 26

/-- How far positions lie apart. -/
def base : Nat := 36

/-- A number is read digit by digit, with the weight of the next digit; what comes before
it is added to. -/
def readNumber? (bias : Nat) : (position weight value : Nat) → List Char → Option (Nat × List Char)
  | _, _, _, [] => none
  | position, weight, value, c :: rest =>
    match digitValue? c with
    | none => none
    | some digit =>
      let value := value + digit * weight
      let limit := threshold position bias
      if digit < limit then some (value, rest)
      else readNumber? bias (position + base) (weight * (base - limit)) value rest

/-! ## Adapting -/

/-- Divide a difference until it is small, counting the positions. -/
def shrink (delta position : Nat) : Nat × Nat :=
  if 455 < delta then shrink (delta / 35) (position + base) else (delta, position)
termination_by delta
decreasing_by exact Nat.div_lt_self (by omega) (by omega)

/-- The bias after a difference was read for one of some characters. -/
def adapt (delta count : Nat) (first : Bool) : Nat :=
  let damped := if first then delta / 700 else delta / 2
  let shrunk := shrink (damped + damped / count) 0
  shrunk.2 + base * shrunk.1 / (shrunk.1 + 38)

/-! ## Reading -/

/-- Insert characters as numbers say: each goes on from the last code and the place after
it.  The first number bounds the steps. -/
def insertCodes : Nat → (bias code place : Nat) → List Char → List Char → Option (List Char)
  | 0, _, _, _, _, _ => none
  | _ + 1, _, _, _, text, [] => some text
  | fuel + 1, bias, code, place, text, digits => do
    let (value, rest) ← readNumber? bias base 1 place digits
    let count := text.length + 1
    let next := code + value / count
    if next.isValidChar then
      insertCodes fuel (adapt (value - place) count (place == 0)) next (value % count + 1)
        (text.insertIdx (value % count) (Char.ofNat next)) rest
    else none

/-- The text of a label's ASCII form. -/
def decode? (cs : List Char) : Option (List Char) :=
  let digits := (cs.reverse.takeWhile fun c => c ≠ '-').reverse
  let basic := cs.take (cs.length - digits.length - 1)
  let digits := if basic.isEmpty then cs else digits
  insertCodes (digits.length + 1) 72 0x80 0 basic digits

end Punycode

end ApiBinding.Uri
