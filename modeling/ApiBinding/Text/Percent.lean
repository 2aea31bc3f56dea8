import ApiBinding.Text.Utf8

/-!
# Percent-encoding

Bytes outside a chosen set are written as a percent sign and two upper-case
hexadecimal digits.  Path segments and form fields differ only in the set of
bytes that stand for themselves and in how a space is written.  Each writer has
its reader beside it.
-/

namespace ApiBinding.Text

/-! ## Bytes that stand for themselves -/

/-- Visible ASCII: neither a control character nor a byte of a longer character. -/
def isVisibleAscii (b : UInt8) : Bool :=
  0x20 ≤ b.toNat && b.toNat < 0x7F

/-- Bytes kept in the path of an address. -/
def isPathByte (b : UInt8) : Bool :=
  isVisibleAscii b &&
    !([0x20, 0x22, 0x23, 0x3C, 0x3E, 0x3F, 0x60, 0x7B, 0x7D].contains b.toNat)

/-- Bytes kept in a single segment: those of a path without the separators and
the percent sign. -/
def isSegmentByte (b : UInt8) : Bool :=
  isPathByte b && !([0x2F, 0x25, 0x5C].contains b.toNat)

/-- Bytes kept in a form field. -/
def isFormByte (b : UInt8) : Bool :=
  let n := b.toNat
  (0x30 ≤ n && n ≤ 0x39) || (0x41 ≤ n && n ≤ 0x5A) || (0x61 ≤ n && n ≤ 0x7A) ||
    n == 0x2A || n == 0x2D || n == 0x2E || n == 0x5F

/-! ## Writing -/

/-- One hexadecimal digit, upper case. -/
def upperHexDigit (n : Nat) : Char :=
  if n < 10 then Char.ofNat (0x30 + n) else Char.ofNat (0x41 + (n - 10))

/-- A byte as a percent sign and two digits. -/
def percentByte (b : UInt8) : List Char :=
  ['%', upperHexDigit (b.toNat / 16), upperHexDigit (b.toNat % 16)]

/-- The bytes with those outside the set percent-encoded. -/
def percentEncode (keep : UInt8 → Bool) (bytes : List UInt8) : List Char :=
  bytes.flatMap fun b => if keep b then [Char.ofNat b.toNat] else percentByte b

/-- A form field: like percent-encoding, with a plus sign for a space. -/
def formEncode (bytes : List UInt8) : List Char :=
  bytes.flatMap fun b =>
    if b = 0x20 then ['+'] else if isFormByte b then [Char.ofNat b.toNat] else percentByte b

/-- One name and value of a form. -/
def formPair (pair : String × String) : List Char :=
  formEncode (utf8Bytes pair.1.toList) ++ '=' :: formEncode (utf8Bytes pair.2.toList)

/-- A form: its pairs joined by ampersands. -/
def formText (pairs : List (String × String)) : List Char :=
  List.intercalate ['&'] (pairs.map formPair)

/-! ## Reading -/

/-- The value of a hexadecimal digit of either case. -/
def hexValue? (c : Char) : Option Nat :=
  let n := c.toNat
  if 0x30 ≤ n ∧ n ≤ 0x39 then some (n - 0x30)
  else if 0x41 ≤ n ∧ n ≤ 0x46 then some (n - 0x41 + 10)
  else if 0x61 ≤ n ∧ n ≤ 0x66 then some (n - 0x61 + 10)
  else none

/-- The bytes of a percent-encoded text; a percent sign without two digits stands
for itself. -/
def percentDecode : List Char → List UInt8
  | [] => []
  | '%' :: hi :: lo :: rest =>
    match hexValue? hi, hexValue? lo with
    | some h, some l => UInt8.ofNat (h * 16 + l) :: percentDecode rest
    | _, _ => 0x25 :: percentDecode (hi :: lo :: rest)
  | c :: rest => String.utf8EncodeChar c ++ percentDecode rest

/-- The bytes of a form field: a plus sign is read as a space first. -/
def formDecode (cs : List Char) : List UInt8 :=
  percentDecode (cs.map fun c => if c = '+' then ' ' else c)

/-- The text of a form field; bytes that are no text are shown as the replacement
character. -/
def readField (cs : List Char) : String :=
  String.ofList (utf8DecodeLenient (formDecode cs))

/-- The name and value of a piece of a form, which is cut at its first equals sign;
without one there is only a name. -/
def readPair (piece : List Char) : String × String :=
  (readField (piece.takeWhile fun c => c ≠ '='),
    readField ((piece.dropWhile fun c => c ≠ '=').drop 1))

/-- The pairs of a form, one for each piece between ampersands that is not empty. -/
def readForm (form : List Char) : List (String × String) :=
  ((form.splitOn '&').filter fun piece => !piece.isEmpty).map readPair

end ApiBinding.Text
