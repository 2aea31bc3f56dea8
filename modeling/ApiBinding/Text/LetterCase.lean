/-!
# Letters of either case

Names are often compared with the case of their ASCII letters disregarded.  Every
other character only equals itself.

Main results:

- Theorem `lowered_lowered`: lowering a text that is lowered changes nothing.
- Theorem `equalAnyCase_iff`: two texts are equal apart from their case just when their lowered
  forms are equal.
-/

namespace ApiBinding.Text

/-- The characters with the ASCII capitals lowered. -/
def lowered (cs : List Char) : List Char :=
  cs.map Char.toLower

/-- The text in lower-case letters. -/
def lowerCase (text : String) : String :=
  String.ofList (lowered text.toList)

/-- Whether two texts are equal apart from their case. -/
def equalAnyCase (a b : String) : Bool :=
  lowered a.toList == lowered b.toList

/-- Lowering a character twice is lowering it once. -/
theorem toLower_toLower (c : Char) : c.toLower.toLower = c.toLower := by
  unfold Char.toLower
  split
  next capital =>
    have low : 65 ≤ c.val.toNat := UInt32.le_iff_toNat_le.1 capital.1
    have high : c.val.toNat ≤ 90 := UInt32.le_iff_toNat_le.1 capital.2
    have sum : (c.val + ('a'.val - 'A'.val)).toNat = c.val.toNat + 32 := by
      rw [UInt32.toNat_add, show ('a'.val - 'A'.val).toNat = 32 from rfl]
      omega
    rw [dif_neg]
    intro again
    have bound : (c.val + ('a'.val - 'A'.val)).toNat ≤ 90 := UInt32.le_iff_toNat_le.1 again.2
    omega
  next => rfl

/-- Lowering a text twice is lowering it once. -/
theorem lowered_lowered (cs : List Char) : lowered (lowered cs) = lowered cs := by
  simp only [lowered, List.map_map, Function.comp_def, toLower_toLower]

/-- Texts are equal apart from their case exactly if their lowered forms are equal. -/
theorem equalAnyCase_iff {a b : String} :
    equalAnyCase a b = true ↔ lowerCase a = lowerCase b := by
  rw [lowerCase, lowerCase, String.ofList_inj]
  exact beq_iff_eq

end ApiBinding.Text
