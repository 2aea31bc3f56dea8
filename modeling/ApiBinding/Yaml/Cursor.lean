/-!
# Places in a YAML text

A cursor is the rest of a text with the line and column of its first character.
Texts are read in one of two dialects.  In the full one lines end with a line feed, a
carriage return, both together, or one of three Unicode breaks; in the simple one a
new line only starts after a line feed.
-/

namespace ApiBinding.Yaml

/-- The rules that a text is read by, where there is a choice. -/
inductive Dialect where
  /-- The rules of documents. -/
  | full
  /-- The rules of settings: any character may stand in a text, tags and directives are
  not looked into, and a colon between brackets needs a gap after it. -/
  | simple
deriving DecidableEq, Repr

/-- A place in a text. -/
structure Cursor where
  dialect : Dialect := .full
  rest : List Char
  index : Nat := 0
  line : Nat := 0
  column : Nat := 0

/-- The characters a text may consist of. -/
def isAllowed (c : Char) : Bool :=
  let n := c.toNat
  n == 0x09 || n == 0x0A || n == 0x0D || (0x20 ≤ n && n ≤ 0x7E) || n == 0x85 ||
    (0xA0 ≤ n && n ≤ 0xFFFD) || 0x10000 ≤ n

/-- A space or a tab. -/
def isBlank (c : Char) : Bool :=
  c = ' ' || c = '\t'

/-- A character that ends a line. -/
def Dialect.isBreak (dialect : Dialect) (c : Char) : Bool :=
  c = '\n' || c = '\r' ||
    (dialect == .full && (c = '\u0085' || c = '\u2028' || c = '\u2029'))

/-- A character of names: a letter, a digit, a hyphen or an underscore. -/
def isNameChar (c : Char) : Bool :=
  c.isAlphanum || c = '_' || c = '-'

namespace Cursor

/-- Whether the text is read in the simple dialect. -/
def isSimple (cursor : Cursor) : Bool :=
  cursor.dialect == .simple

/-- Whether a character ends a line here. -/
def isBreak (cursor : Cursor) (c : Char) : Bool :=
  cursor.dialect.isBreak c

/-- The character at a distance. -/
def peek? (cursor : Cursor) (distance : Nat) : Option Char :=
  cursor.rest[distance]?

/-- Whether a given character stands at a distance. -/
def sees (cursor : Cursor) (c : Char) (distance : Nat) : Bool :=
  cursor.peek? distance == some c

/-- Whether a character of a class stands here. -/
def seesAny (cursor : Cursor) (p : Char → Bool) : Bool :=
  (cursor.peek? 0).any p

/-- Whether a space between tokens, or the end, is at a distance. -/
def isGap (cursor : Cursor) (distance : Nat) : Bool :=
  match cursor.peek? distance with
  | none => true
  | some c => isBlank c || cursor.isBreak c

/-- Whether the line or the text ends here. -/
def isLineEnd (cursor : Cursor) : Bool :=
  (cursor.peek? 0).all cursor.isBreak

/-- The place some characters further on the same line. -/
def skip (cursor : Cursor) (count : Nat) : Cursor :=
  { cursor with
    rest := cursor.rest.drop count
    index := cursor.index + count
    column := cursor.column + count }

/-- How many characters the break at this place has. -/
def breakLength (cursor : Cursor) : Nat :=
  if cursor.sees '\r' 0 && cursor.sees '\n' 1 then 2 else 1

/-- The place after the break at this place: the start of a line, unless a carriage
return does not start one. -/
def skipLine (cursor : Cursor) : Cursor :=
  if cursor.isSimple && cursor.sees '\r' 0 && cursor.breakLength == 1 then cursor.skip 1
  else
    { cursor with
      rest := cursor.rest.drop cursor.breakLength
      index := cursor.index + cursor.breakLength
      line := cursor.line + 1
      column := 0 }

/-- The text that the break at this place stands for. -/
def breakText (cursor : Cursor) : List Char :=
  match cursor.peek? 0 with
  | some '\u2028' => ['\u2028']
  | some '\u2029' => ['\u2029']
  | some _ => ['\n']
  | none => []

/-- The characters of a class at this place. -/
def span (cursor : Cursor) (p : Char → Bool) : List Char :=
  cursor.rest.takeWhile p

/-- The place after the characters of a class. -/
def skipWhile (cursor : Cursor) (p : Char → Bool) : Cursor :=
  cursor.skip (cursor.span p).length

/-- The place at the end of the line. -/
def skipToLineEnd (cursor : Cursor) : Cursor :=
  cursor.skipWhile fun c => !cursor.isBreak c

/-- The place after blanks and a comment. -/
def skipComment (cursor : Cursor) : Cursor :=
  let cursor := cursor.skipWhile isBlank
  if cursor.sees '#' 0 then cursor.skipToLineEnd else cursor

/-- Whether one of the two marks that separate documents stands at the start of a line. -/
def isDocumentMark (cursor : Cursor) : Bool :=
  cursor.column == 0 && cursor.isGap 3 &&
    (cursor.rest.take 3 == ['-', '-', '-'] || cursor.rest.take 3 == ['.', '.', '.'])

end Cursor

end ApiBinding.Yaml
