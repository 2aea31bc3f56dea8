import ApiBinding.Json.Reader
import ApiBinding.Text.Blank
import ApiBinding.Text.Identifier

/-!
# Reading JSON5 texts

The relaxed form of JSON that people write by hand: comments, trailing commas, names
without quotes, either kind of quotes, numbers with a sign, without digits on one side of
the point or in base sixteen.  Whole numbers have 64 bits with sign, or 32 bits in base
sixteen; other numbers may be infinite if that is said in words.
-/

namespace ApiBinding.Json5

/-! ## Blanks and comments -/

/-- A character that ends a line. -/
def isLineEnd (c : Char) : Bool :=
  c = '\n' || c = '\r' || c = '\u2028' || c = '\u2029'

/-- A blank between tokens. -/
def isSpace (c : Char) : Bool :=
  (Text.isBlank c && c ≠ '\u0085') || c = '\uFEFF'

/-- What follows the end of a comment between stars. -/
def afterStars? : List Char → Option (List Char)
  | [] => none
  | '*' :: '/' :: rest => some rest
  | _ :: rest => afterStars? rest

/-- The text without the blanks and comments before it.  The number bounds the steps. -/
def skipGapWith : Nat → List Char → List Char
  | 0, cs => cs
  | fuel + 1, '/' :: '*' :: rest =>
    match afterStars? rest with
    | some rest => skipGapWith fuel rest
    | none => '/' :: '*' :: rest
  | fuel + 1, '/' :: '/' :: rest => skipGapWith fuel (rest.dropWhile fun c => !isLineEnd c)
  | fuel + 1, c :: rest => if isSpace c then skipGapWith fuel rest else c :: rest
  | _ + 1, [] => []

/-- The text without the blanks and comments before it. -/
def skipGap (cs : List Char) : List Char :=
  skipGapWith cs.length cs

/-! ## Texts and names -/

/-- The character that a single character after a backslash stands for. -/
def escapedChar? (c : Char) : Option Char :=
  if c = '0' then some '\x00'
  else if c = 'b' then some '\x08'
  else if c = 'f' then some '\x0C'
  else if c = 'n' then some '\n'
  else if c = 'r' then some '\r'
  else if c = 't' then some '\t'
  else if c = 'v' then some '\x0B'
  else if c.isDigit || c = 'x' || c = 'u' then none
  else some c

/-- The character that the code of two halves stands for. -/
def joinHalves? (high low : Nat) : Option Char :=
  if Json.isHighSurrogate high && Json.isLowSurrogate low then
    some (Char.ofNat (0x10000 + (high - 0xD800) * 0x400 + (low - 0xDC00)))
  else none

/-- The character that a code alone stands for. -/
def charOfCode? (code : Nat) : Option Char :=
  if Json.isHighSurrogate code || Json.isLowSurrogate code then none else some (Char.ofNat code)

/-- The characters of a text up to the closing quote, and what follows that. -/
def readString (quote : Char) : List Char → Option (List Char × List Char)
  | [] => none
  | '\\' :: 'u' :: a :: b :: c :: d :: rest => do
    let code ← Json.hexCode? a b c d
    match charOfCode? code with
    | some character =>
      let (cs, rest) ← readString quote rest
      return (character :: cs, rest)
    | none =>
      match rest with
      | '\\' :: 'u' :: e :: f :: g :: h :: rest => do
        let character ← joinHalves? code (← Json.hexCode? e f g h)
        let (cs, rest) ← readString quote rest
        return (character :: cs, rest)
      | _ => none
  | '\\' :: 'x' :: a :: b :: rest => do
    let code ← Json.hexCode? '0' '0' a b
    let (cs, rest) ← readString quote rest
    return (Char.ofNat code :: cs, rest)
  | '\\' :: '\r' :: '\n' :: rest => readString quote rest
  | '\\' :: c :: rest =>
    if isLineEnd c then readString quote rest
    else do
      let character ← escapedChar? c
      let (cs, rest) ← readString quote rest
      return (character :: cs, rest)
  | c :: rest =>
    if c = quote then some ([], rest)
    else if c = '\\' || isLineEnd c then none
    else do
      let (cs, rest) ← readString quote rest
      return (c :: cs, rest)

/-- The characters of a name without quotes, and what follows it. -/
def readName : (first : Bool) → List Char → Option (List Char × List Char)
  | _, '\\' :: 'u' :: a :: b :: c :: d :: rest => do
    let code ← Json.hexCode? a b c d
    match charOfCode? code with
    | some character =>
      let (cs, rest) ← readName false rest
      return (character :: cs, rest)
    | none =>
      match rest with
      | '\\' :: 'u' :: e :: f :: g :: h :: rest => do
        let character ← joinHalves? code (← Json.hexCode? e f g h)
        let (cs, rest) ← readName false rest
        return (character :: cs, rest)
      | _ => none
  | first, c :: rest =>
    if Text.isIdentifierStart c || (!first && Text.isIdentifierPart c) then do
      let (cs, rest) ← readName false rest
      return (c :: cs, rest)
    else if first then none
    else some ([], c :: rest)
  | first, [] => if first then none else some ([], [])

/-- The name of a member, and what follows it. -/
def readKey : List Char → Option (List Char × List Char)
  | '\x22' :: rest => readString '\x22' rest
  | '\x27' :: rest => readString '\x27' rest
  | cs => readName true cs

/-! ## Numbers -/

/-- The bound of the whole numbers in base sixteen. -/
def hexBound : Nat := powerOfTwo 32

/-- The number that digits of base sixteen write. -/
def hexNumber? (digits : List Char) : Option Nat :=
  digits.foldlM (fun n c => (Text.hexValue? c).map fun d => n * 16 + d) 0

/-- A number after its sign in digits and what follows it. -/
def readDecimal? (negative : Bool) (cs : List Char) : Option (JsonNumber × List Char) := do
  let whole ← if cs.head? == some '.' then some ([], cs) else Json.readWhole? cs
  let pointed := whole.2.head? == some '.'
  let afterPoint := if pointed then whole.2.drop 1 else whole.2
  let fraction := if pointed then afterPoint.takeWhile Char.isDigit else []
  let afterFraction := if pointed then afterPoint.dropWhile Char.isDigit else afterPoint
  if whole.1.isEmpty && fraction.isEmpty then none
  else
    let (power, rest) ← Json.readPower? afterFraction
    let written : WrittenNumber := ⟨negative, whole.1, fraction, power.getD 0⟩
    if pointed || power.isSome then
      return (← JsonNumber.ofBinary64? written.toBinary64, rest)
    else
      let magnitude : Int := digitsValue whole.1
      let n := if negative then -magnitude else magnitude
      if fitsInteger n then return (.whole n, rest) else none

/-- A number and what follows it.  A sign may stand before digits of base ten; the words
for what is not finite may only follow a minus. -/
def readNumber? (cs : List Char) : Option (JsonNumber × List Char) :=
  let signed := WrittenNumber.readSign cs
  let plus := cs.head? == some '+'
  match signed.2 with
  | '0' :: 'x' :: rest | '0' :: 'X' :: rest =>
    let digits := rest.takeWhile fun c => (Text.hexValue? c).isSome
    if digits.isEmpty || signed.1 || plus then none
    else do
      let n ← hexNumber? digits
      if n < hexBound then return (.whole n, rest.dropWhile fun c => (Text.hexValue? c).isSome)
      else none
  | 'I' :: rest =>
    if plus then none
    else (Json.expect? "nfinity".toList rest).map fun rest => (.binary (.infinite signed.1), rest)
  | 'N' :: rest =>
    if plus then none else (Json.expect? "aN".toList rest).map fun rest => (.binary .nan, rest)
  | cs => readDecimal? signed.1 cs

/-! ## Values -/

mutual

/-- A value and what follows it.  The number bounds the steps. -/
def readValue : Nat → List Char → Option (Json × List Char)
  | 0, _ => none
  | fuel + 1, cs =>
    match skipGap cs with
    | 'n' :: rest => (Json.expect? "ull".toList rest).map fun rest => (.null, rest)
    | 't' :: rest => (Json.expect? "rue".toList rest).map fun rest => (.bool true, rest)
    | 'f' :: rest => (Json.expect? "alse".toList rest).map fun rest => (.bool false, rest)
    | '\x22' :: rest =>
      (readString '\x22' rest).map fun read => (.str (String.ofList read.1), read.2)
    | '\x27' :: rest =>
      (readString '\x27' rest).map fun read => (.str (String.ofList read.1), read.2)
    | '[' :: rest =>
      match skipGap rest with
      | ']' :: rest => some (.arr [], rest)
      | rest => (readItems fuel rest).map fun read => (.arr read.1, read.2)
    | '\x7b' :: rest =>
      match skipGap rest with
      | '\x7d' :: rest => some (.obj [], rest)
      | rest => (readMembers fuel rest).map fun read => (.obj read.1, read.2)
    | cs => (readNumber? cs).map fun read => (.num read.1, read.2)

/-- Items up to the closing bracket, before which a comma may stand. -/
def readItems : Nat → List Char → Option (List Json × List Char)
  | 0, _ => none
  | fuel + 1, cs => do
    let (item, rest) ← readValue fuel cs
    match skipGap rest with
    | ',' :: rest =>
      match skipGap rest with
      | ']' :: rest => return ([item], rest)
      | rest =>
        let (items, rest) ← readItems fuel rest
        return (item :: items, rest)
    | ']' :: rest => return ([item], rest)
    | _ => none

/-- Members up to the closing brace, before which a comma may stand. -/
def readMembers : Nat → List Char → Option (List (String × Json) × List Char)
  | 0, _ => none
  | fuel + 1, cs => do
    let (name, rest) ← readKey (skipGap cs)
    match skipGap rest with
    | ':' :: rest =>
      let (value, rest) ← readValue fuel rest
      let member := (String.ofList name, value)
      match skipGap rest with
      | ',' :: rest =>
        match skipGap rest with
        | '\x7d' :: rest => return ([member], rest)
        | rest =>
          let (members, rest) ← readMembers fuel rest
          return (member :: members, rest)
      | '\x7d' :: rest => return ([member], rest)
      | _ => none
    | _ => none

end

/-- The value of a whole text. -/
def parse? (cs : List Char) : Option Json := do
  let (value, rest) ← readValue (2 * cs.length + 2) cs
  if (skipGap rest).isEmpty then some value.mergeRepeats else none

end ApiBinding.Json5
