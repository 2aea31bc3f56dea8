import ApiBinding.Yaml.Text

/-!
# Tokens of YAML texts

A text is cut into tokens.  Indentation becomes tokens of its own: the start and the
end of a block stand where a line is indented more or less than the lines before.
That a scalar is a key shows only at the colon after it, on the same line and not
too far away; the tokens that say so are then inserted before the scalar.
-/

namespace ApiBinding.Yaml

/-- A token. -/
inductive Token where
  | versionDirective (major minor : Nat)
  | tagDirective (handle start : String)
  | documentStart
  | documentEnd
  | blockSequenceStart
  | blockMappingStart
  | blockEnd
  | flowSequenceStart
  | flowSequenceEnd
  | flowMappingStart
  | flowMappingEnd
  | blockEntry
  | flowEntry
  | key
  | value
  | alias (name : String)
  | anchor (name : String)
  | tag (handle suffix : String)
  | scalar (text : String) (plain : Bool)
deriving DecidableEq, Repr

/-! ## Tags and directives -/

/-- Characters of a tag; a bracket or a comma only in its full form. -/
def isTagChar (full : Bool) (c : Char) : Bool :=
  isNameChar c ||
    [';', '/', '?', ':', '@', '&', '=', '+', '$', '.', '%', '!', '~', '*', '\x27', '(', ')'].contains c ||
    (full && (c = ',' || c = '[' || c = ']'))

/-- The text of a tag, with its percent-encoded characters decoded. -/
def tagText? (written : List Char) : Option String := do
  let text ← Text.utf8Decode? (Text.percentDecode written)
  return String.ofList text

/-- Whether every percent sign is followed by two hexadecimal digits. -/
def isPercentEncoded : List Char → Bool
  | [] => true
  | '%' :: hi :: lo :: rest =>
    (Text.hexValue? hi).isSome && (Text.hexValue? lo).isSome && isPercentEncoded rest
  | '%' :: _ => false
  | _ :: rest => isPercentEncoded rest

/-- The characters of a tag at this place. -/
def readTagText (full : Bool) (cursor : Cursor) : Option (String × Cursor) := do
  let written := cursor.span (isTagChar full)
  if isPercentEncoded written then
    let text ← tagText? written
    return (text, cursor.skip written.length)
  else none

/-- A tag after its exclamation mark.  In the full dialect a comma between brackets may
follow it at once. -/
def readTag (inFlow : Bool) (cursor : Cursor) : Option (Token × Cursor) := do
  let (token, cursor) ←
    if cursor.sees '<' 0 then do
      let (text, after) ← readTagText true (cursor.skip 1)
      if text.isEmpty || !after.sees '>' 0 then none
      else some (Token.tag "" text, after.skip 1)
    else do
      let name := cursor.span isNameChar
      let after := cursor.skip name.length
      if after.sees '!' 0 then do
        let (text, next) ← readTagText false (after.skip 1)
        if text.isEmpty then none
        else some (Token.tag ("!" ++ String.ofList name ++ "!") text, next)
      else do
        let (text, next) ← readTagText false cursor
        some (if text.isEmpty then Token.tag "" "!" else Token.tag "!" text, next)
  if cursor.isGap 0 || (!cursor.isSimple && inFlow && cursor.sees ',' 0) then some (token, cursor)
  else none

/-- A number of a version. -/
def readVersionNumber (cursor : Cursor) : Option (Nat × Cursor) :=
  let digits := cursor.span Char.isDigit
  if digits.isEmpty || 9 < digits.length then none
  else some (digits.foldl (fun n c => n * 10 + (c.toNat - 0x30)) 0, cursor.skip digits.length)

/-- A directive after its percent sign, with the rest of its line.  The simple dialect
passes over a directive that it does not know. -/
def readDirective (cursor : Cursor) : Option (Token × Cursor) := do
  let name := cursor.span isNameChar
  let cursor := cursor.skip name.length
  if !cursor.isGap 0 then none
  else
    let cursor := cursor.skipWhile isBlank
    let (token, cursor) ←
      if name = ['Y', 'A', 'M', 'L'] then do
        let (major, cursor) ← readVersionNumber cursor
        if !cursor.sees '.' 0 then none
        else do
          let (minor, cursor) ← readVersionNumber (cursor.skip 1)
          some (Token.versionDirective major minor, cursor)
      else if name = ['T', 'A', 'G'] then do
        if !cursor.sees '!' 0 then none
        else do
          let inner := (cursor.skip 1).span isNameChar
          let after := (cursor.skip 1).skip inner.length
          let handle := '!' :: inner ++ (if after.sees '!' 0 then ['!'] else [])
          let after := if after.sees '!' 0 then after.skip 1 else after
          if handle ≠ ['!'] && handle.getLast? ≠ some '!' || !after.seesAny isBlank then none
          else do
            let (start, next) ← readTagText true (after.skipWhile isBlank)
            if start.isEmpty || !next.isGap 0 then none
            else some (Token.tagDirective (String.ofList handle) start, next)
      else if cursor.isSimple && !name.isEmpty then
        some (Token.tagDirective "" "", cursor.skipToLineEnd)
      else none
    let cursor := cursor.skipComment
    if !cursor.isLineEnd then none
    else some (token, if cursor.rest.isEmpty then cursor else cursor.skipLine)

/-- The name after an ampersand or an asterisk. -/
def readName (cursor : Cursor) : Option (String × Cursor) :=
  let name := cursor.span isNameChar
  let after := cursor.skip name.length
  if name.isEmpty then none
  else if after.isGap 0 ||
      after.seesAny fun c => ['?', ':', ',', ']', '\x7d', '%', '@', '\x60'].contains c then
    some (String.ofList name, after)
  else none

/-! ## Indentation and keys -/

/-- A place where a key without indicator may have started. -/
structure KeyPlace where
  /-- How many tokens stand before it. -/
  position : Nat
  /-- Whether the line cannot be anything but a key. -/
  required : Bool
  cursor : Cursor

/-- The tokens read so far, with the open blocks and brackets. -/
structure Lexer where
  cursor : Cursor
  tokens : Array Token := #[]
  /-- The indentation of the innermost block. -/
  indent : Int := -1
  /-- The indentations of the blocks around it. -/
  outer : List Int := []
  /-- The place of a possible key, for the text outside all brackets. -/
  base : Option KeyPlace := none
  /-- The place of a possible key inside each open bracket, innermost first. -/
  brackets : List (Option KeyPlace) := []
  /-- Whether a key may start here. -/
  keyAllowed : Bool := true
  /-- The place after the last quoted scalar. -/
  quoteEnd : Nat := 0

namespace Lexer

/-- Whether a bracket is open. -/
def inFlow (lexer : Lexer) : Bool :=
  !lexer.brackets.isEmpty

/-- Whether the text is read in the simple dialect. -/
def isSimple (lexer : Lexer) : Bool :=
  lexer.cursor.isSimple

/-- Add a token at the end. -/
def push (lexer : Lexer) (token : Token) : Lexer :=
  { lexer with tokens := lexer.tokens.push token }

/-- Go on from another place. -/
def moveTo (lexer : Lexer) (cursor : Cursor) : Lexer :=
  { lexer with cursor }

/-- Allow or forbid a key at the next place. -/
def allowKey (lexer : Lexer) (allowed : Bool) : Lexer :=
  { lexer with keyAllowed := allowed }

/-- The possible key of the innermost bracket, or of the text outside. -/
def keyPlace? (lexer : Lexer) : Option KeyPlace :=
  match lexer.brackets with
  | [] => lexer.base
  | place :: _ => place

/-- Set the possible key of the innermost bracket, or of the text outside. -/
def setKeyPlace (lexer : Lexer) (place : Option KeyPlace) : Lexer :=
  match lexer.brackets with
  | [] => { lexer with base := place }
  | _ :: rest => { lexer with brackets := place :: rest }

/-- Give up the possible key, unless it is required. -/
def dropKeyPlace (lexer : Lexer) : Option Lexer :=
  if lexer.keyPlace?.any KeyPlace.required then none else some (lexer.setKeyPlace none)

/-- Note that a key may start here.  What stands at the column of the innermost block has
to be a key, outside brackets, and in the simple dialect inside them. -/
def noteKeyPlace (lexer : Lexer) : Option Lexer :=
  if lexer.keyAllowed then
    let place : KeyPlace :=
      { position := lexer.tokens.size
        required := lexer.inFlow == lexer.isSimple && lexer.indent == (lexer.cursor.column : Int)
        cursor := lexer.cursor }
    lexer.dropKeyPlace.map fun lexer => lexer.setKeyPlace (some place)
  else some lexer

/-- The greatest distance between the start of a key and its colon. -/
def keyReach : Nat := 1024

/-- Whether a possible key is on an earlier line or too far away. -/
def isStale (lexer : Lexer) (place : KeyPlace) : Bool :=
  place.cursor.line < lexer.cursor.line || place.cursor.index + keyReach < lexer.cursor.index

/-- A possible key, unless it is stale; none at all if a stale one was required. -/
def refresh (lexer : Lexer) (place : Option KeyPlace) : Option (Option KeyPlace) :=
  match place with
  | none => some none
  | some place =>
    if lexer.isStale place then (if place.required then none else some none) else some (some place)

/-- Give up the possible keys that are stale. -/
def dropStale (lexer : Lexer) : Option Lexer := do
  let base ← lexer.refresh lexer.base
  let brackets ← lexer.brackets.mapM lexer.refresh
  return { lexer with base, brackets }

/-- Open a block at a column, inserting its token where a key starts. -/
def openBlock (lexer : Lexer) (column : Nat) (position : Nat) (token : Token) : Lexer :=
  if lexer.inFlow || (column : Int) ≤ lexer.indent then lexer
  else
    { lexer with
      tokens := lexer.tokens.insertIdxIfInBounds position token
      indent := column
      outer := lexer.indent :: lexer.outer }

/-- Close the blocks that are indented more than a column. -/
def closeBlocks (column : Int) : List Int → Lexer → Lexer
  | [], lexer => lexer
  | outer :: rest, lexer =>
    if !lexer.inFlow && column < lexer.indent then
      closeBlocks column rest
        { lexer with tokens := lexer.tokens.push .blockEnd, indent := outer, outer := rest }
    else lexer

/-- Close the blocks that are indented more than a column. -/
def unindent (lexer : Lexer) (column : Int) : Lexer :=
  closeBlocks column lexer.outer lexer

/-- Skip blanks, comments and breaks.  At the start of a line in a block a tab is not
skipped.  The mark of a byte order is only skipped in the full dialect. -/
def skipGap : Nat → Lexer → Lexer
  | 0, lexer => lexer
  | fuel + 1, lexer =>
    let cursor := if lexer.cursor.index == 0 && !lexer.isSimple && lexer.cursor.sees '\uFEFF' 0
      then lexer.cursor.skip 1 else lexer.cursor
    let cursor := cursor.skipWhile fun c =>
      c = ' ' || ((lexer.inFlow || !lexer.keyAllowed) && c = '\t')
    let cursor := if cursor.sees '#' 0 then cursor.skipToLineEnd else cursor
    if cursor.seesAny cursor.isBreak then
      skipGap fuel { lexer with
        cursor := cursor.skipLine
        keyAllowed := lexer.keyAllowed || !lexer.inFlow }
    else lexer.moveTo cursor

/-! ## Single tokens -/

/-- A token that ends all blocks: a directive or a mark between documents. -/
def readMark (lexer : Lexer) (token : Token) (cursor : Cursor) : Option Lexer := do
  let lexer ← (lexer.unindent (-1)).dropKeyPlace
  return ((lexer.allowKey false).moveTo cursor).push token

/-- How many brackets may be open in the simple dialect. -/
def bracketLimit : Nat := 255

/-- An opening bracket. -/
def readOpening (lexer : Lexer) (token : Token) : Option Lexer := do
  let lexer ← lexer.noteKeyPlace
  if lexer.isSimple && bracketLimit ≤ lexer.brackets.length then none
  else return ({ lexer with
    brackets := none :: lexer.brackets
    keyAllowed := true
    cursor := lexer.cursor.skip 1 }).push token

/-- A closing bracket. -/
def readClosing (lexer : Lexer) (token : Token) : Option Lexer := do
  let lexer ← lexer.dropKeyPlace
  return ({ lexer with
    brackets := lexer.brackets.drop 1
    keyAllowed := false
    cursor := lexer.cursor.skip 1 }).push token

/-- A comma between brackets. -/
def readComma (lexer : Lexer) : Option Lexer := do
  let lexer ← lexer.dropKeyPlace
  return ((lexer.allowKey true).moveTo (lexer.cursor.skip 1)).push .flowEntry

/-- The hyphen before an item of a block. -/
def readHyphen (lexer : Lexer) : Option Lexer := do
  if !lexer.inFlow && !lexer.keyAllowed then none
  else
    let lexer := lexer.openBlock lexer.cursor.column lexer.tokens.size .blockSequenceStart
    let lexer ← lexer.dropKeyPlace
    return ((lexer.allowKey true).moveTo (lexer.cursor.skip 1)).push .blockEntry

/-- The question mark before a key. -/
def readQuestion (lexer : Lexer) : Option Lexer := do
  if !lexer.inFlow && !lexer.keyAllowed then none
  else
    let lexer := lexer.openBlock lexer.cursor.column lexer.tokens.size .blockMappingStart
    let lexer ← lexer.dropKeyPlace
    return ((lexer.allowKey (!lexer.inFlow)).moveTo (lexer.cursor.skip 1)).push .key

/-- The colon before a value: it makes a key of what was noted as one. -/
def readColon (lexer : Lexer) : Option Lexer :=
  match lexer.keyPlace? with
  | some place =>
    let keyed := { lexer with tokens := lexer.tokens.insertIdxIfInBounds place.position .key }
    let lexer := (keyed.openBlock place.cursor.column place.position .blockMappingStart).setKeyPlace none
    some (((lexer.allowKey false).moveTo (lexer.cursor.skip 1)).push .value)
  | none =>
    if !lexer.inFlow && !lexer.keyAllowed then none
    else
      let lexer := lexer.openBlock lexer.cursor.column lexer.tokens.size .blockMappingStart
      some (((lexer.allowKey (!lexer.inFlow)).moveTo (lexer.cursor.skip 1)).push .value)

/-- A token that may be the start of a key. -/
def readKeyPart (lexer : Lexer) (read : Option (Token × Cursor)) : Option Lexer := do
  let lexer ← lexer.noteKeyPlace
  let (token, cursor) ← read
  return ((lexer.allowKey false).moveTo cursor).push token

/-- A scalar between quotes. -/
def readQuotedScalar (double : Bool) (cursor : Cursor) : Option (Token × Cursor) :=
  (readQuotedWords double (cursor.rest.length + 1) [] (cursor.skip 1)).map fun read =>
    (.scalar (String.ofList read.1) false, read.2)

/-- A quoted scalar, after which a colon may stand without a gap. -/
def readQuoted (lexer : Lexer) (double : Bool) : Option Lexer :=
  (lexer.readKeyPart (readQuotedScalar double lexer.cursor)).map fun lexer =>
    { lexer with quoteEnd := lexer.cursor.index }

/-- A block scalar. -/
def readBlockScalar (lexer : Lexer) (literal : Bool) : Option Lexer := do
  let lexer ← lexer.dropKeyPlace
  let (text, cursor) ← readBlock literal lexer.indent (lexer.cursor.skip 1)
  return ((lexer.allowKey true).moveTo cursor).push (.scalar (String.ofList text) false)

/-- A plain scalar; if it ends on a new line a key may start there. -/
def readPlainScalar (lexer : Lexer) : Option Lexer := do
  let lexer ← lexer.noteKeyPlace
  let cursor := lexer.cursor
  let (text, broken, cursor) ←
    readPlainWords lexer.inFlow (lexer.indent + 1).toNat cursor.rest.length [] {} cursor
  return ((lexer.allowKey broken).moveTo cursor).push (.scalar (String.ofList text) true)

/-- Whether a plain scalar may start here, where no other token does. -/
def startsPlain (lexer : Lexer) : Bool :=
  match lexer.cursor.peek? 0 with
  | none => false
  | some c =>
    if lexer.isSimple then !(['%', '@', '\x60'].contains c)
    else
      let indicators := ['-', '?', ':', ',', '[', ']', '\x7b', '\x7d', '#', '&', '*', '!', '|', '>',
        '\x27', '\x22', '%', '@', '\x60']
      (!lexer.cursor.isGap 0 && !indicators.contains c) ||
        (c = '-' && !((lexer.cursor.peek? 1).any isBlank)) ||
        (!lexer.inFlow && (c = '?' || c = ':') && !lexer.cursor.isGap 1)

/-- Whether a question mark at this place stands before a key. -/
def isQuestion (lexer : Lexer) : Bool :=
  lexer.cursor.isGap 1 || (lexer.inFlow && !lexer.isSimple)

/-- Whether a colon at this place stands before a value. -/
def isColon (lexer : Lexer) : Bool :=
  if lexer.isSimple then
    lexer.cursor.endsKey lexer.inFlow || (lexer.inFlow && lexer.cursor.index == lexer.quoteEnd)
  else lexer.inFlow || lexer.cursor.isGap 1

/-- The token at this place, where the text does not end. -/
def readToken (lexer : Lexer) : Option Lexer :=
  let cursor := lexer.cursor
  match cursor.peek? 0 with
  | none => none
  | some c =>
    if cursor.column == 0 && c = '%' then do
      let (token, after) ← readDirective (cursor.skip 1)
      lexer.readMark token after
    else if cursor.isDocumentMark then
      lexer.readMark (if c = '-' then .documentStart else .documentEnd) (cursor.skip 3)
    else if c = '[' then lexer.readOpening .flowSequenceStart
    else if c = '\x7b' then lexer.readOpening .flowMappingStart
    else if c = ']' then lexer.readClosing .flowSequenceEnd
    else if c = '\x7d' then lexer.readClosing .flowMappingEnd
    else if c = ',' then lexer.readComma
    else if c = '-' && cursor.isGap 1 then lexer.readHyphen
    else if c = '?' && lexer.isQuestion then lexer.readQuestion
    else if c = ':' && lexer.isColon then lexer.readColon
    else if c = '*' then
      lexer.readKeyPart ((readName (cursor.skip 1)).map fun read => (.alias read.1, read.2))
    else if c = '&' then
      lexer.readKeyPart ((readName (cursor.skip 1)).map fun read => (.anchor read.1, read.2))
    else if c = '!' then lexer.readKeyPart (readTag lexer.inFlow (cursor.skip 1))
    else if c = '|' && !lexer.inFlow then lexer.readBlockScalar true
    else if c = '>' && !lexer.inFlow then lexer.readBlockScalar false
    else if c = '\x27' then lexer.readQuoted false
    else if c = '\x22' then lexer.readQuoted true
    else if lexer.startsPlain then lexer.readPlainScalar
    else none

/-- All tokens from this place on. -/
def readAll : Nat → Lexer → Option (Array Token)
  | 0, _ => none
  | fuel + 1, lexer => do
    let lexer ← (skipGap (lexer.cursor.rest.length + 1) lexer).dropStale
    if lexer.cursor.rest.isEmpty then
      let lexer ← (lexer.unindent (-1)).dropKeyPlace
      return lexer.tokens
    else
      let lexer ← (lexer.unindent lexer.cursor.column).readToken
      readAll fuel lexer

end Lexer

/-- The tokens of a text.  In the full dialect some characters may not stand in a text;
in the simple one a zero ends it. -/
def tokens? (dialect : Dialect) (cs : List Char) : Option (List Token) :=
  if dialect = .full && !cs.all isAllowed then none
  else
    let cs := if dialect = .simple then cs.takeWhile (· ≠ '\x00') else cs
    (Lexer.readAll (cs.length + 2) { cursor := { dialect, rest := cs } }).map Array.toList

end ApiBinding.Yaml
