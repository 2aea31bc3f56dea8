import ApiBinding.Text.Percent
import ApiBinding.Yaml.Cursor

/-!
# Written scalars

A scalar is written plainly, between quotes, or as a block of lines.  In plain and
quoted scalars a line break is folded to a space, and further breaks are kept; a
block keeps its breaks or folds them, and its end is clipped, kept or stripped.
-/

namespace ApiBinding.Yaml

/-! ## Gaps -/

/-- Blanks and breaks between the words of a scalar. -/
structure Gap where
  /-- The blanks, as long as there is no break. -/
  blanks : List Char := []
  /-- The first break. -/
  leading : List Char := []
  /-- The breaks after the first. -/
  trailing : List Char := []
  /-- Whether there is a break. -/
  broken : Bool := false

namespace Gap

/-- What a gap stands for once another word follows. -/
def folded (gap : Gap) : List Char :=
  if gap.broken then
    if gap.leading.head? == some '\n' then
      if gap.trailing.isEmpty then [' '] else gap.trailing
    else gap.leading ++ gap.trailing
  else gap.blanks

/-- Read a gap further.  With a limit, no tab may stand before that column of a new
line. -/
def read (limit : Option Nat) : Nat → Gap → Cursor → Option (Gap × Cursor)
  | 0, gap, cursor => some (gap, cursor)
  | fuel + 1, gap, cursor =>
    match cursor.peek? 0 with
    | none => some (gap, cursor)
    | some c =>
      if isBlank c then
        if gap.broken then
          if c = '\t' && limit.any (cursor.column < ·) then none
          else read limit fuel gap (cursor.skip 1)
        else read limit fuel { gap with blanks := gap.blanks ++ [c] } (cursor.skip 1)
      else if cursor.isBreak c then
        let gap :=
          if gap.broken then { gap with trailing := gap.trailing ++ cursor.breakText }
          else { leading := cursor.breakText, broken := true }
        read limit fuel gap cursor.skipLine
      else some (gap, cursor)

end Gap

/-! ## Plain scalars -/

/-- Characters that end a plain scalar inside brackets. -/
def isFlowIndicator (c : Char) : Bool :=
  c = ',' || c = '[' || c = ']' || c = '\x7b' || c = '\x7d'

/-- Whether the colon at this place ends a key: a gap stands after it, or in the simple
dialect an indicator between brackets. -/
def Cursor.endsKey (cursor : Cursor) (inFlow : Bool) : Bool :=
  cursor.isGap 1 || (cursor.isSimple && inFlow && (cursor.peek? 1).any isFlowIndicator)

/-- A word of a plain scalar, and the place after it. -/
def readPlainWord (inFlow : Bool) : Nat → Cursor → Option (List Char × Cursor)
  | 0, cursor => some ([], cursor)
  | fuel + 1, cursor =>
    match cursor.peek? 0 with
    | none => some ([], cursor)
    | some c =>
      if cursor.isGap 0 then some ([], cursor)
      else if !cursor.isSimple && inFlow && c = ':' &&
          (cursor.peek? 1).any (fun next => isFlowIndicator next || next = '?') then none
      else if c = ':' && cursor.endsKey inFlow then some ([], cursor)
      else if inFlow && isFlowIndicator c then some ([], cursor)
      else (readPlainWord inFlow fuel (cursor.skip 1)).map fun read => (c :: read.1, read.2)

/-- The words of a plain scalar after those read so far.  The answer tells whether
the scalar ended on a new line. -/
def readPlainWords (inFlow : Bool) (limit : Nat) :
    Nat → List Char → Gap → Cursor → Option (List Char × Bool × Cursor)
  | 0, text, gap, cursor => some (text, gap.broken, cursor)
  | fuel + 1, text, gap, cursor =>
    if cursor.isDocumentMark || cursor.sees '#' 0 then some (text, gap.broken, cursor)
    else do
      let (word, after) ← readPlainWord inFlow cursor.rest.length cursor
      let text := if word.isEmpty then text else text ++ gap.folded ++ word
      let gap := if word.isEmpty then gap else {}
      if after.seesAny fun c => isBlank c || cursor.isBreak c then
        let (gap, next) ← gap.read (some limit) after.rest.length after
        if !inFlow && next.column < limit then some (text, gap.broken, next)
        else readPlainWords inFlow limit fuel text gap next
      else some (text, gap.broken, after)

/-! ## Quoted scalars -/

/-- The character of an escape that needs no digits.  The dialects differ in whether a
slash or a single quote can be escaped. -/
def escapedChar? (dialect : Dialect) (c : Char) : Option Char :=
  match c with
  | '0' => some '\x00'
  | 'a' => some '\x07'
  | 'b' => some '\x08'
  | 't' | '\t' => some '\t'
  | 'n' => some '\n'
  | 'v' => some '\x0B'
  | 'f' => some '\x0C'
  | 'r' => some '\r'
  | 'e' => some '\x1B'
  | ' ' => some ' '
  | '\x22' => some '\x22'
  | '/' => if dialect = .full then some '/' else none
  | '\x27' => if dialect = .full then none else some '\x27'
  | '\\' => some '\\'
  | 'N' => some '\u0085'
  | '_' => some '\u00A0'
  | 'L' => some '\u2028'
  | 'P' => some '\u2029'
  | _ => none

/-- How many digits follow an escape that names a code point. -/
def escapeDigits? (c : Char) : Option Nat :=
  if c = 'x' then some 2 else if c = 'u' then some 4 else if c = 'U' then some 8 else none

/-- The character of a code point in hexadecimal digits. -/
def codePoint? (digits : List Char) : Option Char := do
  let code ← digits.foldlM (fun n c => (Text.hexValue? c).map fun d => n * 16 + d) 0
  if (0xD800 ≤ code && code ≤ 0xDFFF) || 0x10FFFF < code then none
  else some (Char.ofNat code)

/-- A word of a quoted scalar: its text, whether an escaped break ends it, and the
place after it. -/
def readQuotedWord (double : Bool) : Nat → Cursor → Option (List Char × Bool × Cursor)
  | 0, cursor => some ([], false, cursor)
  | fuel + 1, cursor =>
    match cursor.peek? 0 with
    | none => some ([], false, cursor)
    | some c =>
      if cursor.isGap 0 then some ([], false, cursor)
      else if !double && c = '\x27' && cursor.sees '\x27' 1 then
        (readQuotedWord double fuel (cursor.skip 2)).map fun read => ('\x27' :: read.1, read.2)
      else if c = (if double then '\x22' else '\x27') then some ([], false, cursor)
      else if double && c = '\\' then do
        let next ← cursor.peek? 1
        if cursor.isBreak next then some ([], true, (cursor.skip 1).skipLine)
        else
          match escapeDigits? next with
          | some count =>
            let digits := (cursor.rest.drop 2).take count
            if digits.length = count then
              let c ← codePoint? digits
              let read ← readQuotedWord double fuel (cursor.skip (2 + count))
              return (c :: read.1, read.2)
            else none
          | none =>
            let c ← escapedChar? cursor.dialect next
            let read ← readQuotedWord double fuel (cursor.skip 2)
            return (c :: read.1, read.2)
      else (readQuotedWord double fuel (cursor.skip 1)).map fun read => (c :: read.1, read.2)

/-- The words of a quoted scalar up to its closing quote. -/
def readQuotedWords (double : Bool) : Nat → List Char → Cursor → Option (List Char × Cursor)
  | 0, _, _ => none
  | fuel + 1, text, cursor =>
    if cursor.isDocumentMark || cursor.rest.isEmpty then none
    else do
      let (word, broken, after) ← readQuotedWord double cursor.rest.length cursor
      let text := text ++ word
      if after.sees (if double then '\x22' else '\x27') 0 then some (text, after.skip 1)
      else
        let (gap, next) ← ({ broken } : Gap).read none after.rest.length after
        readQuotedWords double fuel (text ++ gap.folded) next

/-! ## Blocks -/

/-- What happens to the breaks at the end of a block. -/
inductive Chomping where
  | strip
  | clip
  | keep
deriving DecidableEq, Repr

/-- The chomping that an indicator asks for. -/
def chomping? (c : Option Char) : Option Chomping :=
  if c = some '+' then some .keep else if c = some '-' then some .strip else none

/-- The indentation that an indicator asks for. -/
def indentation? (c : Option Char) : Option Nat :=
  match c with
  | some c => if c.isDigit then some (c.toNat - 0x30) else none
  | none => none

/-- The indicators after the one that opens a block. -/
def readBlockHeader (cursor : Cursor) : Option (Chomping × Option Nat × Cursor) :=
  let header : Chomping × Option Nat × Cursor :=
    match chomping? (cursor.peek? 0) with
    | some chomping =>
      match indentation? (cursor.peek? 1) with
      | some indentation => (chomping, some indentation, cursor.skip 2)
      | none => (chomping, none, cursor.skip 1)
    | none =>
      match indentation? (cursor.peek? 0) with
      | some indentation =>
        match chomping? (cursor.peek? 1) with
        | some chomping => (chomping, some indentation, cursor.skip 2)
        | none => (.clip, some indentation, cursor.skip 1)
      | none => (.clip, none, cursor)
  if header.2.1 == some 0 then none else some header

/-- The breaks and the indentation before a line of a block.  Without a known
indentation the deepest blank line is noted. -/
def readIndentation (indentation : Option Nat) :
    Nat → Nat → List Char → Cursor → Option (Nat × List Char × Cursor)
  | 0, deepest, breaks, cursor => some (deepest, breaks, cursor)
  | fuel + 1, deepest, breaks, cursor =>
    let blanks := cursor.span (· = ' ')
    let count := match indentation with
      | none => blanks.length
      | some n => min blanks.length (n - cursor.column)
    let cursor := cursor.skip count
    let deepest := max deepest cursor.column
    if indentation.all (cursor.column < ·) && cursor.sees '\t' 0 then none
    else if cursor.seesAny cursor.isBreak then
      readIndentation indentation fuel deepest (breaks ++ cursor.breakText) cursor.skipLine
    else some (deepest, breaks, cursor)

/-- The lines of a block after those read so far, and what its end consists of. -/
def readBlockLines (literal : Bool) (indentation : Nat) :
    Nat → List Char → List Char → List Char → Bool → Cursor →
      Option (List Char × List Char × List Char × Cursor)
  | 0, text, leading, trailing, _, cursor => some (text, leading, trailing, cursor)
  | fuel + 1, text, leading, trailing, leadingBlank, cursor =>
    if cursor.column ≠ indentation || cursor.rest.isEmpty then
      some (text, leading, trailing, cursor)
    else do
      let blank := cursor.seesAny isBlank
      let joint :=
        if !literal && leading.head? == some '\n' && !leadingBlank && !blank then
          if trailing.isEmpty then [' '] else trailing
        else leading ++ trailing
      let line := cursor.span fun c => !cursor.isBreak c
      let ended := cursor.skip line.length
      let next := if ended.rest.isEmpty then ended else ended.skipLine
      let (_, breaks, next') ← readIndentation (some indentation) next.rest.length 0 [] next
      readBlockLines literal indentation fuel (text ++ joint ++ line) ended.breakText breaks blank
        next'

/-- A block scalar after its opening indicator; the indentation around it is given. -/
def readBlock (literal : Bool) (outer : Int) (cursor : Cursor) :
    Option (List Char × Cursor) := do
  let (chomping, increment, cursor) ← readBlockHeader cursor
  let cursor := cursor.skipComment
  if !cursor.isLineEnd then none
  else
    let cursor := if cursor.rest.isEmpty then cursor else cursor.skipLine
    let given := increment.map fun n => if 0 ≤ outer then outer.toNat + n else n
    let (deepest, breaks, cursor) ← readIndentation given cursor.rest.length 0 [] cursor
    let indentation := given.getD (max deepest (max (outer + 1).toNat 1))
    let (text, leading, trailing, cursor) ←
      readBlockLines literal indentation (cursor.rest.length + 1) [] [] breaks false cursor
    let ending := match chomping with
      | .strip => []
      | .clip => leading
      | .keep => leading ++ trailing
    return (text ++ ending, cursor)

end ApiBinding.Yaml
