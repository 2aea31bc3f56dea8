import ApiBinding.Number.Power
import ApiBinding.Text.Percent
import ApiBinding.Uri.Domain

/-!
# Hosts of addresses

Which hosts an address may have.  Addresses of the common schemes have a domain, a
number of four bytes or a bracketed number of sixteen; other addresses have an
opaque host, in which only a few characters are refused.
-/

namespace ApiBinding.Uri

/-! ## Numbers of sixteen bytes -/

/-- Whether a part is a group of up to four hexadecimal digits. -/
def isHexGroup (part : List Char) : Bool :=
  !part.isEmpty && part.length ≤ 4 && part.all fun c => (Text.hexValue? c).isSome

/-- Whether a part is a byte in decimal digits without leading zeros. -/
def isDecimalByte (part : List Char) : Bool :=
  part.all Char.isDigit && !part.isEmpty && part.length ≤ 3 &&
    (part.length == 1 || part.head? != some '0') &&
    part.foldl (fun n c => n * 10 + (c.toNat - 0x30)) 0 ≤ 255

/-- How many groups a list of parts stands for, where the last may be four bytes. -/
def groupCount? : List (List Char) → Option Nat
  | [] => some 0
  | [last] =>
    if isHexGroup last then some 1
    else
      let bytes := last.splitOn '.'
      if bytes.length = 4 && bytes.all isDecimalByte then some 2 else none
  | part :: rest => if isHexGroup part then (groupCount? rest).map (· + 1) else none

/-- Cut a text at its first double colon. -/
def cutDoubleColon : List Char → Option (List Char × List Char)
  | ':' :: ':' :: rest => some ([], rest)
  | c :: rest => (cutDoubleColon rest).map fun cut => (c :: cut.1, cut.2)
  | [] => none

/-- Parts between colons; an empty text has none. -/
def colonParts (cs : List Char) : List (List Char) :=
  if cs.isEmpty then [] else cs.splitOn ':'

/-- Whether a text is a number of sixteen bytes. -/
def isLongNumber (cs : List Char) : Bool :=
  match cutDoubleColon cs with
  | none => groupCount? (colonParts cs) == some 8
  | some (front, back) =>
    match groupCount? (colonParts front), groupCount? (colonParts back) with
    | some n, some m => !front.contains '.' && n + m ≤ 7
    | _, _ => false

/-! ## Numbers of four bytes -/

/-- The digits of a number with a prefix for its base. -/
def shortPart? (part : List Char) : Option Nat :=
  let read := fun (base : Nat) (digits : List Char) =>
    digits.foldlM (fun n c =>
      (Text.hexValue? c).bind fun d => if d < base then some (n * base + d) else none) 0
  match part with
  | [] => none
  | '0' :: 'x' :: digits | '0' :: 'X' :: digits => read 16 digits
  | '0' :: c :: digits => read 8 (c :: digits)
  | digits => read 10 digits

/-- The parts of a domain without the empty one after a final dot. -/
def domainParts (cs : List Char) : List (List Char) :=
  let parts := cs.splitOn '.'
  if parts.getLast? = some [] then parts.dropLast else parts

/-- Whether a domain has to be read as a number of four bytes. -/
def endsInNumber (cs : List Char) : Bool :=
  match (domainParts cs).getLast? with
  | none => false
  | some last => (!last.isEmpty && last.all Char.isDigit) || (shortPart? last).isSome

/-- Whether a text is a number of four bytes: up to four parts, the last of which
fills the bytes that are left. -/
def isShortNumber (cs : List Char) : Bool :=
  match (domainParts cs).mapM shortPart? with
  | none => false
  | some numbers =>
    match numbers.getLast? with
    | none => false
    | some last =>
      numbers.length ≤ 4 && last < powerOfTwo (8 * (5 - numbers.length)) &&
        numbers.dropLast.all (· ≤ 255)

/-! ## Hosts -/

/-- The plain form of the domain that a host is. -/
def plainDomain? (cs : List Char) : Option (List Char) :=
  (Text.utf8Decode? (Text.percentDecode cs)).bind Domain.plain?

/-- Whether an address of a common scheme may have the host. -/
def isHost (cs : List Char) : Bool :=
  match cs with
  | '[' :: rest => rest.getLast? == some ']' && isLongNumber rest.dropLast
  | _ =>
    match plainDomain? cs with
    | none => false
    | some plain =>
      !plain.isEmpty && Domain.isValid plain && (!endsInNumber plain || isShortNumber plain)

/-- Whether a host is the machine itself. -/
def isLocalHost (cs : List Char) : Bool :=
  plainDomain? cs == some "localhost".toList

/-- Whether an address of another scheme may have the host. -/
def isOpaqueHost (cs : List Char) : Bool :=
  match cs with
  | '[' :: rest => rest.getLast? == some ']' && isLongNumber rest.dropLast
  | _ => cs.all fun c =>
      !([' ', '#', '/', ':', '<', '>', '?', '@', '[', '\\', ']', '^', '|', '\x00'].contains c)

end ApiBinding.Uri
