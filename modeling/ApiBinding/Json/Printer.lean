import ApiBinding.Json.Basic

/-!
# JSON text

The compact text of a value: no blanks, members in their order, and of the
characters of a string only the quote, the backslash and the control characters
escaped.
-/

namespace ApiBinding

namespace Json

/-- A code below 256 as two lower-case hexadecimal digits. -/
def lowerHexPair (n : Nat) : List Char :=
  let digit := fun k : Nat => if k < 10 then Char.ofNat (0x30 + k) else Char.ofNat (0x61 + (k - 10))
  [digit (n / 16), digit (n % 16)]

/-- One character of a string. -/
def escapedChar (c : Char) : List Char :=
  if c = '\x22' then ['\\', '\x22']
  else if c = '\\' then ['\\', '\\']
  else if 0x20 ≤ c.toNat then [c]
  else if c = '\n' then ['\\', 'n']
  else if c = '\r' then ['\\', 'r']
  else if c = '\t' then ['\\', 't']
  else if c = '\x08' then ['\\', 'b']
  else if c = '\x0C' then ['\\', 'f']
  else ['\\', 'u', '0', '0'] ++ lowerHexPair c.toNat

/-- A string between quotes. -/
def quotedChars (s : String) : List Char :=
  '\x22' :: s.toList.flatMap escapedChar ++ ['\x22']

mutual

/-- The characters of a value's text. -/
def chars : Json → List Char
  | null => ['n', 'u', 'l', 'l']
  | bool true => ['t', 'r', 'u', 'e']
  | bool false => ['f', 'a', 'l', 's', 'e']
  | num n => n.text.toList
  | str s => quotedChars s
  | arr [] => ['[', ']']
  | arr (item :: rest) => '[' :: (item.chars ++ itemChars rest)
  | obj [] => ['\x7b', '\x7d']
  | obj ((name, value) :: rest) =>
    '\x7b' :: (quotedChars name ++ ':' :: (value.chars ++ memberChars rest))

/-- The items after the first, and the closing bracket. -/
def itemChars : List Json → List Char
  | [] => [']']
  | item :: rest => ',' :: (item.chars ++ itemChars rest)

/-- The members after the first, and the closing brace. -/
def memberChars : List (String × Json) → List Char
  | [] => ['\x7d']
  | (name, value) :: rest => ',' :: (quotedChars name ++ ':' :: (value.chars ++ memberChars rest))

end

/-- The compact text of a value. -/
def render (json : Json) : String :=
  String.ofList json.chars

end Json

end ApiBinding
