import ApiBinding.Number.Reader
import ApiBinding.Ron.Basic
import ApiBinding.Text.Percent

/-!
# Reading RON texts

A text is one value, before which extensions of the notation may be switched on.  A word
is a truth value, an infinity or not a number, a value that may be there, or else a name,
which may stand before a structure or a tuple.  Whole numbers that do not fit 64 bits are
read in the binary64 format.  Nesting is bounded, where a collection counts once for
itself and once for each value in it.

Main results:

- Theorem `readName?_rest`: a name is read to its end: what follows it is no character of a name.
-/

namespace ApiBinding.Ron

/-! ## Blanks and comments -/

/-- A blank between tokens. -/
def isSpace (c : Char) : Bool :=
  c = ' ' || c = '\t' || c = '\n' || c = '\r'

/-- What follows the end of a comment between stars, in which further ones may stand. -/
def afterStars? : (depth : Nat) → List Char → Option (List Char)
  | _, [] => none
  | depth, '/' :: '*' :: rest => afterStars? (depth + 1) rest
  | depth, '*' :: '/' :: rest => if depth ≤ 1 then some rest else afterStars? (depth - 1) rest
  | depth, _ :: rest => afterStars? depth rest

/-- The text without the blanks and comments before it.  The number bounds the steps. -/
def skipGapWith : Nat → List Char → List Char
  | 0, cs => cs
  | fuel + 1, '/' :: '*' :: rest =>
    match afterStars? 1 rest with
    | some rest => skipGapWith fuel rest
    | none => '/' :: '*' :: rest
  | fuel + 1, '/' :: '/' :: rest => skipGapWith fuel (rest.dropWhile fun c => c ≠ '\n')
  | fuel + 1, c :: rest => if isSpace c then skipGapWith fuel rest else c :: rest
  | _ + 1, [] => []

/-- The text without the blanks and comments before it. -/
def skipGap (cs : List Char) : List Char :=
  skipGapWith cs.length cs

/-- A comma after a value, with the blanks and comments around it: whether there is one,
and what follows. -/
def readComma (cs : List Char) : Bool × List Char :=
  match skipGap cs with
  | ',' :: rest => (true, skipGap rest)
  | rest => (false, rest)

/-- The text after an expected word that may not go on. -/
def expect? : List Char → List Char → Option (List Char)
  | [], cs => some cs
  | _ :: _, [] => none
  | w :: word, c :: cs => if w = c then expect? word cs else none

/-! ## Names -/

/-- A character that a name may start with. -/
def isNameStart (c : Char) : Bool :=
  c.isAlpha || c = '_'

/-- A character of a name. -/
def isNameChar (c : Char) : Bool :=
  c.isAlphanum || c = '_'

/-- A character of a name that is marked as one. -/
def isRawNameChar (c : Char) : Bool :=
  isNameChar c || c = '.' || c = '+' || c = '-'

/-- The text after a word that is not the start of a longer name. -/
def afterWord? (word : String) (cs : List Char) : Option (List Char) :=
  (expect? word.toList cs).filter fun rest => !(rest.head?.any isNameChar)

/-- A name and what follows it.  A name that would go on with a point, a plus or a minus
has to be marked, and so does not start here; neither does one where a raw text does. -/
def readName? : List Char → Option (String × List Char)
  | 'r' :: '\x22' :: _ => none
  | 'r' :: '#' :: rest =>
    if rest.head?.any isRawNameChar then
      some (String.ofList (rest.takeWhile isRawNameChar), rest.dropWhile isRawNameChar)
    else none
  | cs =>
    let rest := cs.dropWhile isNameChar
    if !(cs.head?.any isNameStart) || rest.head?.any isRawNameChar then none
    else some (String.ofList (cs.takeWhile isNameChar), rest)

/-- A name is read to its end. -/
theorem readName?_rest {cs rest : List Char} {name : String}
    (h : readName? cs = some (name, rest)) : rest.head?.any isNameChar = false := by
  have raw_of_name : ∀ c, isNameChar c = true → isRawNameChar c = true := by
    intro c hc
    simp [isRawNameChar, hc]
  have not_name : ∀ {tail : List Char}, tail.head?.any isRawNameChar = false →
      tail.head?.any isNameChar = false := by
    intro tail ht
    cases tail with
    | nil => rfl
    | cons c tail =>
      cases hc : isNameChar c with
      | false => simp [hc]
      | true => simp [raw_of_name c hc] at ht
  unfold readName? at h
  split at h
  · exact absurd h (by simp)
  next tail =>
    split at h
    · cases h
      refine not_name ?_
      cases hd : tail.dropWhile isRawNameChar with
      | nil => rfl
      | cons c after =>
        have := List.head?_dropWhile_not isRawNameChar tail
        rw [hd] at this
        simpa using this
    · exact absurd h (by simp)
  next =>
    simp only at h
    split at h
    · exact absurd h (by simp)
    next hb =>
      cases h
      refine not_name ?_
      simp only [Bool.or_eq_true, not_or, Bool.not_eq_true] at hb
      exact hb.2

/-! ## Numbers -/

/-- A character of whole numbers in some base. -/
def isWholeChar (c : Char) : Bool :=
  (Text.hexValue? c).isSome || c = '_'

/-- A character of numbers with a point or a power of ten. -/
def isRealChar (c : Char) : Bool :=
  c.isDigit || c = 'e' || c = 'E' || c = '.' || c = '+' || c = '-' || c = '_'

/-- The number that digits of a base write; lines between them do not count. -/
def digitsOf? (base : Nat) (cs : List Char) : Option Nat :=
  (cs.filter fun c => c ≠ '_').foldlM (fun n c =>
    (Text.hexValue? c).bind fun d => if d < base then some (n * base + d) else none) 0

/-- The digits of a whole number without its sign in their base, and what follows. -/
def readMagnitude? (cs : List Char) : Option (Nat × List Char) :=
  let based := match cs with
    | '0' :: 'x' :: rest => (16, rest)
    | '0' :: 'b' :: rest => (2, rest)
    | '0' :: 'o' :: rest => (8, rest)
    | _ => (10, cs)
  let digits := based.2.takeWhile isWholeChar
  if digits.isEmpty || digits.head? == some '_' then none
  else (digitsOf? based.1 digits).map fun n => (n, based.2.dropWhile isWholeChar)

/-- A whole number of 64 bits and what follows it: with sign if one is written, else
without. -/
def readWhole? (cs : List Char) : Option (Int × List Char) :=
  let signed := WrittenNumber.readSign cs
  (readMagnitude? signed.2).bind fun read =>
    let n : Int := if signed.1 then -(read.1 : Int) else read.1
    let fits := if signed.2.length < cs.length then fitsInteger n else decide (n < naturalBound)
    if fits then some (n, read.2) else none

/-- The words for what is not finite, with the numbers that they name. -/
def realWords : List (String × Binary64) :=
  [("inf", .infinite false), ("+inf", .infinite false), ("-inf", .infinite true),
    ("NaN", .nan), ("+NaN", .nan), ("-NaN", .nan)]

/-- A number of the binary64 format and what follows it. -/
def readReal? (cs : List Char) : Option (Binary64 × List Char) :=
  match realWords.findSome? fun word => (afterWord? word.1 cs).map fun rest => (word.2, rest) with
  | some read => some read
  | none =>
    (WrittenNumber.ofText? (cs.takeWhile isRealChar)).map fun written =>
      (written.toBinary64, cs.dropWhile isRealChar)

/-- Whether a number has to be read in the binary64 format: more of it belongs to such a
number than to a whole one. -/
def isReal (cs : List Char) : Bool :=
  let unsigned := match cs with
    | '+' :: rest | '-' :: rest => rest
    | _ => cs
  (unsigned.takeWhile isWholeChar).length < (unsigned.takeWhile isRealChar).length

/-- A number as a value, and what follows it. -/
def readNumber? (cs : List Char) : Option (Value × List Char) :=
  let real := (readReal? cs).map fun read => (Value.real read.1, read.2)
  if isReal cs then real
  else
    match readWhole? cs with
    | none => real
    | some (n, rest) =>
      some (if fitsInteger n then .whole n else .real (Binary64.ofInt n), rest)

/-! ## Texts -/

/-- The code of up to six digits in braces, and what follows them. -/
def readBraces? (cs : List Char) : Option (Char × List Char) :=
  match cs with
  | '\x7b' :: rest =>
    let digits := (rest.takeWhile fun c => c ≠ '\x7d').take 6
    match rest.drop digits.length with
    | '\x7d' :: rest => do
      let code ← if digits.isEmpty then none else digitsOf? 16 digits
      if digits.all (fun c => c ≠ '_') && code.isValidChar then some (Char.ofNat code, rest)
      else none
    | _ => none
  | _ => none

/-- The character of an escape without its backslash, and what follows it. -/
def readEscape? : List Char → Option (Char × List Char)
  | '\x27' :: rest => some ('\x27', rest)
  | '\x22' :: rest => some ('\x22', rest)
  | '\\' :: rest => some ('\\', rest)
  | 'n' :: rest => some ('\n', rest)
  | 'r' :: rest => some ('\r', rest)
  | 't' :: rest => some ('\t', rest)
  | '0' :: rest => some ('\x00', rest)
  | 'x' :: a :: b :: rest => do
    let high ← Text.hexValue? a
    let low ← Text.hexValue? b
    return (Char.ofNat (16 * high + low), rest)
  | 'u' :: rest => readBraces? rest
  | _ => none

/-- The characters of a text up to its closing quote, and what follows that.  The number
bounds the steps. -/
def readText : Nat → List Char → Option (List Char × List Char)
  | 0, _ => none
  | _ + 1, [] => none
  | _ + 1, '\x22' :: rest => some ([], rest)
  | fuel + 1, '\\' :: rest => do
    let (c, rest) ← readEscape? rest
    let (cs, rest) ← readText fuel rest
    return (c :: cs, rest)
  | fuel + 1, c :: rest => do
    let (cs, rest) ← readText fuel rest
    return (c :: cs, rest)

/-- The characters up to a given ending, and what follows that. -/
def readUntil (ending : List Char) : List Char → Option (List Char × List Char)
  | [] => none
  | c :: rest =>
    if ending.isPrefixOf (c :: rest) then some ([], (c :: rest).drop ending.length)
    else (readUntil ending rest).map fun read => (c :: read.1, read.2)

/-- A raw text after its letter: it ends at a quote with as many signs as it began with. -/
def readRawText (cs : List Char) : Option (List Char × List Char) :=
  let signs := cs.takeWhile fun c => c = '#'
  match cs.drop signs.length with
  | '\x22' :: rest => readUntil ('\x22' :: signs) rest
  | _ => none

/-- A character after its opening quote, and what follows the closing one. -/
def readCharacter? (cs : List Char) : Option (Char × List Char) := do
  let (c, rest) ← match cs with
    | '\\' :: rest => readEscape? rest
    | '\x27' :: _ => none
    | c :: rest => some (c, rest)
    | [] => none
  match rest with
  | '\x27' :: rest => return (c, rest)
  | _ => none

/-! ## Extensions -/

/-- An extension of the notation. -/
inductive Extension where
  | unwrapNewtypes
  | implicitSome
  | unwrapVariantNewtypes
deriving DecidableEq, Repr

/-- The extension of a name. -/
def Extension.ofName? (name : String) : Option Extension :=
  if name = "unwrap_newtypes" then some unwrapNewtypes
  else if name = "implicit_some" then some implicitSome
  else if name = "unwrap_variant_newtypes" then some unwrapVariantNewtypes
  else none

/-- Words one after the other, with blanks and comments after each. -/
def afterWords? (words : List String) (cs : List Char) : Option (List Char) :=
  words.foldlM (fun cs word => (expect? word.toList cs).map skipGap) cs

/-- Names of extensions, separated by commas.  The number bounds the steps. -/
def readExtensionNames : Nat → List Char → Option (List Extension × List Char)
  | 0, _ => none
  | fuel + 1, cs => do
    let (name, rest) ← readName? cs
    let extension ← Extension.ofName? name
    let (comma, rest) := readComma rest
    if rest.head?.any isNameChar then
      if comma then
        let (extensions, rest) ← readExtensionNames fuel rest
        return (extension :: extensions, rest)
      else none
    else return ([extension], rest)

/-- The extensions that are switched on, and what follows.  The number bounds the
steps. -/
def readExtensions : Nat → List Char → Option (List Extension × List Char)
  | 0, _ => none
  | fuel + 1, '#' :: rest => do
    let rest ← afterWords? ["#", "!", "[", "enable", "("] ('#' :: rest)
    let (extensions, rest) ← readExtensionNames (rest.length + 1) rest
    let rest ← afterWords? [")", "]"] rest
    let (others, rest) ← readExtensions fuel rest
    return (extensions ++ others, rest)
  | _ + 1, cs => some ([], cs)

/-! ## Values -/

/-- Whether parentheses hold a structure: a name with a colon after it. -/
def isStructure (cs : List Char) : Bool :=
  match readName? (skipGap cs) with
  | some (_, rest) => (skipGap rest).head? == some ':'
  | none => false

/-- The greatest nesting. -/
def nestingLimit : Nat := 128

/-- What a value may start with, where it is a word. -/
def readWord? (cs : List Char) : Option (Value × List Char) :=
  let word := fun (name : String) (value : Value) =>
    (afterWord? name cs).map fun rest => (value, rest)
  (word "true" (.flag true)).orElse fun _ =>
  (word "false" (.flag false)).orElse fun _ =>
  (word "None" .nothing).orElse fun _ =>
  ((expect? "()".toList cs).map fun rest => (.nothing, rest)).orElse fun _ =>
  (word "inf" (.real (.infinite false))).orElse fun _ =>
  (word "-inf" (.real (.infinite true))).orElse fun _ =>
  word "NaN" (.real .nan)

mutual

/-- A value and what follows it.  The first number bounds the steps, the second is the
nesting still allowed. -/
def readValue (implicitSome : Bool) : Nat → Nat → List Char → Option (Value × List Char)
  | 0, _, _ => none
  | fuel + 1, nesting, cs =>
    match readWord? cs with
    | some read => some read
    | none =>
      match afterWord? "Some" cs with
      | some rest => readPresent implicitSome fuel nesting rest
      | none =>
        match readName? cs with
        | some (_, rest) =>
          match skipGap rest with
          | '(' :: rest => readParentheses implicitSome fuel nesting rest
          | rest => some (.nothing, rest)
        | none =>
          match cs with
          | '(' :: rest => readParentheses implicitSome fuel nesting rest
          | '[' :: rest =>
            if nesting = 0 then none
            else (readItems implicitSome fuel (nesting - 1) ']' true (skipGap rest)).map fun read =>
              (.sequence read.1, read.2)
          | '\x7b' :: rest =>
            if nesting = 0 then none
            else
              (readEntries implicitSome fuel (nesting - 1) '\x7d' true (skipGap rest)).map fun read =>
                (.table read.1, read.2)
          | '\x22' :: rest =>
            (readText (rest.length + 1) rest).map fun read => (.text (String.ofList read.1), read.2)
          | 'r' :: rest => (readRawText rest).map fun read => (.text (String.ofList read.1), read.2)
          | '\x27' :: rest => (readCharacter? rest).map fun read => (.character read.1, read.2)
          | '.' :: _ => (readReal? cs).map fun read => (.real read.1, read.2)
          | c :: _ => if c.isDigit || c = '+' || c = '-' then readNumber? cs else none
          | [] => none

/-- A value that is there, after the word for that. -/
def readPresent (implicitSome : Bool) : Nat → Nat → List Char → Option (Value × List Char)
  | 0, _, _ => none
  | fuel + 1, nesting, cs =>
    if nesting = 0 then none
    else
      match skipGap cs with
      | '(' :: rest => do
        let (value, rest) ← readValue implicitSome fuel (nesting - 1) (skipGap rest)
        match (readComma rest).2 with
        | ')' :: rest => return (.present value, rest)
        | _ => none
      | rest =>
        if implicitSome then
          (readValue implicitSome fuel (nesting - 1) rest).map fun read => (.present read.1, read.2)
        else none

/-- A structure or a tuple after its opening parenthesis. -/
def readParentheses (implicitSome : Bool) : Nat → Nat → List Char → Option (Value × List Char)
  | 0, _, _ => none
  | fuel + 1, nesting, cs =>
    if nesting = 0 then none
    else if isStructure cs then
      (readEntries implicitSome fuel (nesting - 1) ')' true (skipGap cs)).map fun read =>
        (.table read.1, read.2)
    else
      (readItems implicitSome fuel (nesting - 1) ')' true (skipGap cs)).map fun read =>
        (.sequence read.1, read.2)

/-- Items up to the closing sign; there must be a comma between two, and there may be
one at the end.  The flag says whether an item may follow. -/
def readItems (implicitSome : Bool) :
    Nat → Nat → (closing : Char) → Bool → List Char → Option (List Value × List Char)
  | 0, _, _, _, _ => none
  | fuel + 1, nesting, closing, mayFollow, cs =>
    if cs.head? == some closing then some ([], cs.drop 1)
    else if !mayFollow || nesting = 0 then none
    else do
      let (item, rest) ← readValue implicitSome fuel (nesting - 1) cs
      let (comma, rest) := readComma rest
      let (items, rest) ← readItems implicitSome fuel nesting closing comma rest
      return (item :: items, rest)

/-- Entries up to the closing sign, with commas as between items.  The keys of a
structure are names, those of a map are values. -/
def readEntries (implicitSome : Bool) :
    Nat → Nat → (closing : Char) → Bool → List Char → Option (List (Value × Value) × List Char)
  | 0, _, _, _, _ => none
  | fuel + 1, nesting, closing, mayFollow, cs =>
    if cs.head? == some closing then some ([], cs.drop 1)
    else if !mayFollow || nesting = 0 then none
    else do
      let (key, rest) ←
        if closing = ')' then (readName? cs).map fun read => (Value.text read.1, read.2)
        else readValue implicitSome fuel (nesting - 1) cs
      match skipGap rest with
      | ':' :: rest =>
        let (value, rest) ← readValue implicitSome fuel (nesting - 1) (skipGap rest)
        let (comma, rest) := readComma rest
        let (entries, rest) ← readEntries implicitSome fuel nesting closing comma rest
        return ((key, value) :: entries, rest)
      | _ => none

end

/-- The value of a whole text. -/
def parse? (cs : List Char) : Option Value := do
  let start := skipGap cs
  let (extensions, rest) ← readExtensions (start.length + 1) start
  let isImplicit := extensions.contains .implicitSome
  let (value, rest) ← readValue isImplicit (2 * rest.length + 2) nestingLimit rest
  if (skipGap rest).isEmpty then some value else none

end ApiBinding.Ron
