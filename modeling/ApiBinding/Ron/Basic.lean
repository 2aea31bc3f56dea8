import ApiBinding.Number.Binary64

/-!
# RON values

Object notation with names for what is written: tuples and structures in parentheses,
sequences in brackets, maps in braces, and values that may be there or not.

Main results:

- Theorem `name?_isSome_iff`: only a text and a character can be the name of an entry.
-/

namespace ApiBinding.Ron

/-- A value. -/
inductive Value where
  /-- The unit, a bare name, or a value that is not there. -/
  | nothing
  | flag (b : Bool)
  | whole (n : Int)
  | real (x : Binary64)
  | character (c : Char)
  | text (s : String)
  /-- A value that is there where there might be none. -/
  | present (value : Value)
  | sequence (items : List Value)
  | table (entries : List (Value × Value))

/-- The name of an entry. -/
structure EntryName where
  /-- Whether it is written as a character, which differs from the text of it. -/
  isCharacter : Bool
  text : String
deriving DecidableEq, Repr

namespace Value

instance : Inhabited Value := ⟨nothing⟩

/-- The name that a key is. -/
def name? : Value → Option EntryName
  | text s => some ⟨false, s⟩
  | character c => some ⟨true, String.singleton c⟩
  | _ => none

/-- Only a text and a character can be the name of an entry. -/
theorem name?_isSome_iff {value : Value} :
    value.name?.isSome = true ↔ (∃ s, value = text s) ∨ ∃ c, value = character c := by
  cases value <;> simp [name?]

end Value

end ApiBinding.Ron
