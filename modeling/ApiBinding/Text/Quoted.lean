import ApiBinding.Text.Unprintable

/-!
# Quoted text

The form in which a text is shown inside a message: between double quotes, with
the quote and the backslash escaped, with names for the common control
characters, and with the code point of every other character that would not be
seen.
-/

namespace ApiBinding.Text

/-- The digits of a number in lower-case hexadecimal, without leading zeros. -/
def hexDigits (n : Nat) : List Char :=
  Nat.toDigits 16 n

/-- One character of a quoted text. -/
def quotedChar (c : Char) : List Char :=
  if c = '\x00' then ['\\', '0']
  else if c = '\t' then ['\\', 't']
  else if c = '\r' then ['\\', 'r']
  else if c = '\n' then ['\\', 'n']
  else if c = '\\' then ['\\', '\\']
  else if c = '\x22' then ['\\', '\x22']
  else if 0x20 ≤ c.toNat && c.toNat < 0x7F then [c]
  else if isCombining c || isUnprintable c then
    ['\\', 'u', '\x7b'] ++ hexDigits c.toNat ++ ['\x7d']
  else [c]

/-- A text between double quotes. -/
def quoted (text : String) : String :=
  String.ofList ('\x22' :: text.toList.flatMap quotedChar ++ ['\x22'])

/-- Several quoted texts in square brackets. -/
def quotedList (texts : List String) : String :=
  "[" ++ String.intercalate ", " (texts.map quoted) ++ "]"

/-- A quoted text after the word that says it is there, or the word that says it is not. -/
def quotedOption : Option String → String
  | some text => "Some(" ++ quoted text ++ ")"
  | none => "None"

end ApiBinding.Text
