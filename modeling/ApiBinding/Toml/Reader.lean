import ApiBinding.Toml.Scalar

/-!
# Reading TOML texts

A text is a sequence of lines: headers, assignments of a value to a path of keys, and
lines without content.  A header says which table the assignments below it belong
to.  Lists may go on over several lines, tables between braces may not.
-/

namespace ApiBinding.Toml

/-- What follows a comment, if one stands here. -/
def skipComment : List Char → List Char
  | '#' :: rest => rest.dropWhile isVisible
  | cs => cs

/-- What follows the end of a line, before which only blanks and a comment may stand. -/
def endLine? (cs : List Char) : Option (List Char) :=
  match skipComment (skipBlanks cs) with
  | [] => some []
  | rest => lineBreak? rest

/-- What follows blanks, line breaks and comments. -/
def skipGaps : Nat → List Char → List Char
  | 0, cs => cs
  | fuel + 1, cs =>
    match lineBreak? (skipComment (skipBlanks cs)) with
    | some rest => skipGaps fuel rest
    | none => skipBlanks cs

mutual

/-- A value, and what follows it.  The number bounds the steps. -/
def readValue? : Nat → List Char → Option (Value × List Char)
  | 0, _ | _, [] => none
  | fuel + 1, c :: rest =>
    if c = '\x22' ∨ c = '\x27' then
      (readText? (c :: rest)).map fun read => (.text read.1, read.2)
    else if c = '[' then
      (readList? fuel rest).map fun read => (.list read.1, read.2)
    else if c = '\x7b' then
      match skipBlanks rest with
      | '\x7d' :: rest => some (.table .inline [], rest)
      | rest => do
        let (pairs, rest) ← readPairs? fuel rest
        let table ← inlineTable? pairs
        return (table, rest)
    else if c = 't' then
      (Json.expect? ['r', 'u', 'e'] rest).map fun rest => (.flag true, rest)
    else if c = 'f' then
      (Json.expect? ['a', 'l', 's', 'e'] rest).map fun rest => (.flag false, rest)
    else readScalar? (c :: rest)

/-- The values of a list after its opening bracket or a comma, and what follows the
closing one. -/
def readList? : Nat → List Char → Option (List Value × List Char)
  | 0, _ => none
  | fuel + 1, cs =>
    match skipGaps cs.length cs with
    | ']' :: rest => some ([], rest)
    | cs => do
      let (value, rest) ← readValue? fuel cs
      match skipGaps rest.length rest with
      | ',' :: rest =>
        let (values, rest) ← readList? fuel rest
        return (value :: values, rest)
      | ']' :: rest => return ([value], rest)
      | _ => none

/-- The assignments of a table between braces, and what follows the closing one. -/
def readPairs? : Nat → List Char → Option (List (List String × String × Value) × List Char)
  | 0, _ => none
  | fuel + 1, cs => do
    let (path, key, rest) ← readPath? (cs.length + 1) cs
    match rest with
    | '=' :: rest =>
      let (value, rest) ← readValue? fuel (skipBlanks rest)
      match skipBlanks rest with
      | ',' :: rest =>
        let (pairs, rest) ← readPairs? fuel rest
        return ((path, key, value) :: pairs, rest)
      | '\x7d' :: rest => return ([(path, key, value)], rest)
      | _ => none
    | _ => none

end

/-- The path of a header after its opening brackets, and what follows its line. -/
def readHeader? (closing cs : List Char) : Option (List String × String × List Char) := do
  let (path, key, rest) ← readPath? (cs.length + 1) cs
  let rest ← Json.expect? closing rest
  let rest ← endLine? rest
  return (path, key, rest)

/-- An assignment, and what follows its line. -/
def readAssignment? (cs : List Char) : Option (List String × String × Value × List Char) := do
  let (path, key, rest) ← readPath? (cs.length + 1) cs
  match rest with
  | '=' :: rest =>
    let (value, rest) ← readValue? (2 * rest.length + 2) (skipBlanks rest)
    let rest ← endLine? rest
    return (path, key, value, rest)
  | _ => none

/-- The entries of a text, the lines read so far under their headers.  The number
bounds the steps. -/
def readDocument? : Nat → List String → Entries → List Char → Option Entries
  | 0, _, _, _ => none
  | fuel + 1, header, entries, cs =>
    match skipBlanks cs with
    | [] => some entries
    | '[' :: '[' :: rest => do
      let (path, key, rest) ← readHeader? [']', ']'] rest
      let entries ← descend? false (startRow? key) .header path entries
      readDocument? fuel (path ++ [key]) entries rest
    | '[' :: rest => do
      let (path, key, rest) ← readHeader? [']'] rest
      let entries ← descend? false (startTable? key) .header path entries
      readDocument? fuel (path ++ [key]) entries rest
    | c :: rest =>
      if c = '#' ∨ c = '\n' ∨ c = '\r' then do
        let rest ← endLine? (c :: rest)
        readDocument? fuel header entries rest
      else do
        let (path, key, value, rest) ← readAssignment? (c :: rest)
        let entries ← descend? false (assign? path key value) .header header entries
        readDocument? fuel header entries rest

/-- The entries of a text, which may start with the mark of its byte order. -/
def parse? (cs : List Char) : Option Entries :=
  readDocument? (cs.length + 1) [] [] (Text.withoutOrderMark cs)

end ApiBinding.Toml
