import ApiBinding.Number.Layout
import ApiBinding.Number.Power
import ApiBinding.Number.Reader
import ApiBinding.Text.LetterCase

/-!
# Settings

The value of a setting as a source gives it.  Sources differ in what they can say:
variables of the environment are texts, files tell numbers from texts.  So every
setting is read from any form that has a sensible meaning: a truth value from a
number or a word, a number from a truth value or a word, a text from either.

Main results:

- Theorem `Setting.natural?_lt`: reading a natural number never gives more than 64 bits.
-/

namespace ApiBinding

/-- The value of a setting. -/
inductive Setting where
  | flag (b : Bool)
  | whole (n : Int)
  | real (x : Binary64)
  | word (text : String)
  /-- Nothing, a list or a table. -/
  | compound
deriving DecidableEq, Repr

namespace Setting

/-- The truth value that a word names. -/
def switch? (text : String) : Option Bool :=
  let word := Text.lowerCase text
  if word = "true" ∨ word = "on" ∨ word = "yes" then some true
  else if word = "false" ∨ word = "off" ∨ word = "no" then some false
  else none

/-- A natural number, if it has at most 64 bits. -/
def fits? (n : Nat) : Option Nat :=
  if n < naturalBound then some n else none

/-- The natural number of at most 64 bits that decimal digits write, perhaps after a plus. -/
def natural64? (text : String) : Option Nat :=
  let cs := text.toList
  let digits := if cs.head? == some '+' then cs.drop 1 else cs
  if digits.isEmpty || !digits.all Char.isDigit then none else fits? (digitsValue digits)

/-- A number rounded to the nearest natural number of 64 bits, a half upwards.  What
is negative or not a number gives zero, what is too great the greatest. -/
def roundNatural : Binary64 → Nat
  | .finite negative significand exponent =>
    if negative then 0
    else
      let ratio := Binary64.magnitudeRatio significand exponent
      min ((2 * ratio.1 + ratio.2) / (2 * ratio.2)) (naturalBound - 1)
  | .infinite negative => if negative then 0 else naturalBound - 1
  | .nan => 0

/-- The setting as a truth value. -/
def bool? : Setting → Option Bool
  | flag b => some b
  | whole n => some (n != 0)
  | real x => some (!x.isZero)
  | word text => if text = "1" then some true else if text = "0" then some false else switch? text
  | compound => none

/-- The setting as a natural number. -/
def natural? : Setting → Option Nat
  | flag b => some b.toNat
  | whole n => if n < 0 then none else fits? n.toNat
  | real x => some (roundNatural x)
  | word text =>
    match switch? text with
    | some b => some b.toNat
    | none => natural64? text
  | compound => none

/-- The setting as a text. -/
def text? : Setting → Option String
  | flag b => some (if b then "true" else "false")
  | whole n => some (toString n)
  | real x => some (NumberLayout.plain.write x)
  | word text => some text
  | compound => none

/-- A number that is rounded to a whole one is kept within 64 bits. -/
theorem roundNatural_lt (x : Binary64) : roundNatural x < naturalBound := by
  have positive : 0 < naturalBound := by decide
  unfold roundNatural
  split
  · split
    · exact positive
    · exact Nat.lt_of_le_of_lt (Nat.min_le_right _ _) (Nat.sub_lt positive Nat.one_pos)
  · split
    · exact positive
    · exact Nat.sub_lt positive Nat.one_pos
  · exact positive

/-- A whole number that fits has at most 64 bits. -/
theorem fits?_lt {k n : Nat} (h : fits? k = some n) : n < naturalBound := by
  unfold fits? at h
  split at h
  next hlt => exact Option.some.inj h ▸ hlt
  next => exact absurd h (by simp)

/-- A text is read as a whole number of at most 64 bits. -/
theorem natural64?_lt {text : String} {n : Nat} (h : natural64? text = some n) :
    n < naturalBound := by
  unfold natural64? at h
  simp only at h
  generalize (if (text.toList.head? == some '+') = true then _ else _ : List Char) = digits at h
  split at h
  · exact absurd h (by simp)
  · exact fits?_lt h

/-- A natural number that is read has at most 64 bits. -/
theorem natural?_lt {setting : Setting} {n : Nat} (h : setting.natural? = some n) :
    n < naturalBound := by
  have bit : ∀ b : Bool, b.toNat < naturalBound := by decide
  cases setting with
  | flag b => exact Option.some.inj h ▸ bit b
  | whole k =>
    simp only [natural?] at h
    split at h
    · exact absurd h (by simp)
    · exact fits?_lt h
  | real x => exact Option.some.inj h ▸ roundNatural_lt x
  | word text =>
    simp only [natural?] at h
    split at h
    next b _ => exact Option.some.inj h ▸ bit b
    next => exact natural64?_lt h
  | compound => simp [natural?] at h

end Setting

end ApiBinding
