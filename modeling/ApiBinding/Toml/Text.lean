import ApiBinding.Json.Reader

/-!
# Texts and keys of TOML

A text stands between double quotes, where a backslash escapes, or between single
quotes, where nothing does.  Three quotes of either kind start a text of several
lines, up to two quotes of which may stand before the three that end it.  A key is a
text on one line or a word of letters, digits, underscores and hyphens.

Main results:

- Theorem `readLine?_single`: a text in single quotes is read as it stands.
-/

namespace ApiBinding.Toml

/-- A space or a tab. -/
def isBlank (c : Char) : Bool :=
  c = ' ' || c = '\t'

/-- The text without its leading blanks. -/
def skipBlanks (cs : List Char) : List Char :=
  cs.dropWhile isBlank

/-- A character that may stand in comments and texts: none of the controls but the tab. -/
def isVisible (c : Char) : Bool :=
  c = '\t' || (0x20 ≤ c.toNat && c.toNat ≠ 0x7F)

/-- What follows a line break, if one stands here. -/
def lineBreak? : List Char → Option (List Char)
  | '\n' :: rest => some rest
  | '\r' :: '\n' :: rest => some rest
  | _ => none

/-- The character of a hexadecimal code. -/
def codeChar? (digits : List Char) : Option Char := do
  let code ← digits.foldlM (fun n c => (Text.hexValue? c).map fun d => n * 16 + d) 0
  if code.isValidChar then some (Char.ofNat code) else none

/-- The character that stands after a backslash as a letter. -/
def letterEscape? (c : Char) : Option Char :=
  if c = '/' then none else Json.simpleEscape? c

/-- The character of an escape after its backslash, and what follows. -/
def readEscape? : List Char → Option (Char × List Char)
  | 'u' :: rest =>
    if rest.length < 4 then none
    else (codeChar? (rest.take 4)).map fun c => (c, rest.drop 4)
  | 'U' :: rest =>
    if rest.length < 8 then none
    else (codeChar? (rest.take 8)).map fun c => (c, rest.drop 8)
  | c :: rest => (letterEscape? c).map fun c => (c, rest)
  | [] => none

/-- A text on one line after its opening quote, and what follows the closing one.  The
first number bounds the steps. -/
def readLine? (quote : Char) : Nat → List Char → Option (List Char × List Char)
  | 0, _ | _, [] => none
  | fuel + 1, c :: rest =>
    if c = quote then some ([], rest)
    else if c = '\\' ∧ quote = '\x22' then do
      let (c, rest) ← readEscape? rest
      let (cs, rest) ← readLine? quote fuel rest
      return (c :: cs, rest)
    else if isVisible c then do
      let (cs, rest) ← readLine? quote fuel rest
      return (c :: cs, rest)
    else none

/-- What follows blanks and line breaks. -/
def skipLines : Nat → List Char → List Char
  | 0, cs => cs
  | fuel + 1, cs =>
    match lineBreak? (skipBlanks cs) with
    | some rest => skipLines fuel rest
    | none => skipBlanks cs

/-- A text of several lines, after its opening quotes.  A break is a line feed; a
backslash at the end of a line takes the break and all blanks after it away. -/
def readLines? (quote : Char) : Nat → List Char → Option (List Char × List Char)
  | 0, _ | _, [] => none
  | fuel + 1, c :: rest =>
    if c = quote then
      let quotes := ((c :: rest).takeWhile (· == quote)).take 5
      if 3 ≤ quotes.length then some (quotes.drop 3, (c :: rest).drop quotes.length)
      else do
        let (cs, rest) ← readLines? quote fuel rest
        return (c :: cs, rest)
    else if c = '\\' ∧ quote = '\x22' then
      match lineBreak? (skipBlanks rest) with
      | some rest => readLines? quote fuel (skipLines rest.length rest)
      | none => do
        let (c, rest) ← readEscape? rest
        let (cs, rest) ← readLines? quote fuel rest
        return (c :: cs, rest)
    else
      match lineBreak? (c :: rest) with
      | some rest => do
        let (cs, rest) ← readLines? quote fuel rest
        return ('\n' :: cs, rest)
      | none =>
        if isVisible c then do
          let (cs, rest) ← readLines? quote fuel rest
          return (c :: cs, rest)
        else none

/-- A text of either kind, and what follows it. -/
def readText? (cs : List Char) : Option (String × List Char) :=
  match cs with
  | [] => none
  | quote :: rest =>
    if quote ≠ '\x22' ∧ quote ≠ '\x27' then none
    else
      let read :=
        if rest.take 2 = [quote, quote] then
          let body := rest.drop 2
          readLines? quote (body.length + 1) ((lineBreak? body).getD body)
        else readLine? quote (rest.length + 1) rest
      read.map fun read => (String.ofList read.1, read.2)

/-! ## Keys -/

/-- A character of a key without quotes. -/
def isKeyChar (c : Char) : Bool :=
  c.isAlphanum || c = '_' || c = '-'

/-- A key, and what follows it. -/
def readKey? (cs : List Char) : Option (String × List Char) :=
  match cs with
  | [] => none
  | c :: rest =>
    if c = '\x22' ∨ c = '\x27' then
      (readLine? c (rest.length + 1) rest).map fun read => (String.ofList read.1, read.2)
    else
      let word := cs.takeWhile isKeyChar
      if word.isEmpty then none else some (String.ofList word, cs.dropWhile isKeyChar)

/-- Keys with dots between them, as those before the last and the last, and what
follows them and the blanks after them. -/
def readPath? : Nat → List Char → Option (List String × String × List Char)
  | 0, _ => none
  | fuel + 1, cs => do
    let (key, rest) ← readKey? (skipBlanks cs)
    match skipBlanks rest with
    | '.' :: rest =>
      let (path, last, rest) ← readPath? fuel rest
      return (key :: path, last, rest)
    | rest => return ([], key, rest)

/-- A text in single quotes is read as it stands up to the closing quote. -/
theorem readLine?_single (cs : List Char)
    (h : ∀ c ∈ cs, c ≠ '\x27' ∧ isVisible c = true) (rest : List Char) :
    readLine? '\x27' (cs.length + 1) (cs ++ '\x27' :: rest) = some (cs, rest) := by
  induction cs with
  | nil => simp [readLine?]
  | cons c cs ih =>
    have hc := h c List.mem_cons_self
    have ht := ih fun d hd => h d (List.mem_cons_of_mem c hd)
    simp [readLine?, hc.1, hc.2, ht]

end ApiBinding.Toml
