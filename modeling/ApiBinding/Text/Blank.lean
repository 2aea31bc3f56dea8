/-!
# Blank characters

Two notions of blank are used side by side: the Unicode property White_Space,
and the five ASCII blanks of byte streams.

Main results:

- Theorem `isBlank_of_isWhitespace`: every character that core calls whitespace is blank.
- Theorem `trimStart_eq_nil_iff`: trimming leaves nothing exactly of an all-blank text.
-/

namespace ApiBinding.Text

/-- The Unicode property White_Space. -/
def isBlank (c : Char) : Bool :=
  let code := c.toNat
  (9 ≤ code && code ≤ 13) || code == 0x20 || code == 0x85 || code == 0xA0 || code == 0x1680 ||
    (0x2000 ≤ code && code ≤ 0x200A) || code == 0x2028 || code == 0x2029 || code == 0x202F ||
    code == 0x205F || code == 0x3000

/-- The blanks of byte streams: space, tab, line feed, form feed, carriage return. -/
def isAsciiBlank (b : UInt8) : Bool :=
  b == 0x20 || b == 0x09 || b == 0x0A || b == 0x0C || b == 0x0D

/-- Core's whitespace is blank. -/
theorem isBlank_of_isWhitespace {c : Char} (h : c.isWhitespace = true) : isBlank c = true := by
  simp only [Char.isWhitespace, Bool.or_eq_true, decide_eq_true_eq] at h
  rcases h with ((h | h) | h) | h <;> subst h <;> decide

/-- The text without its leading blanks. -/
def trimStart (cs : List Char) : List Char :=
  cs.dropWhile isBlank

/-- The text without its trailing blanks. -/
def trimEnd (cs : List Char) : List Char :=
  (cs.reverse.dropWhile isBlank).reverse

/-- The text without the characters at its end that satisfy the test. -/
def dropWhileEnd (p : Char → Bool) (cs : List Char) : List Char :=
  (cs.reverse.dropWhile p).reverse

/-- Trimming leaves nothing exactly of a text that is all blank. -/
theorem trimStart_eq_nil_iff {cs : List Char} :
    trimStart cs = [] ↔ ∀ c ∈ cs, isBlank c = true := by
  induction cs with
  | nil => simp [trimStart]
  | cons c cs ih =>
    by_cases h : isBlank c = true
    · have step : trimStart (c :: cs) = trimStart cs := by simp [trimStart, h]
      rw [step, ih, List.forall_mem_cons]
      exact ⟨fun rest => ⟨h, rest⟩, And.right⟩
    · simp [trimStart, h]

end ApiBinding.Text
