import ApiBinding.Text.Blank
import ApiBinding.Text.Percent

/-!
# Reading INI texts

A text assigns values to keys, first in no section, then in the section whose name in
brackets stood last.  Values reach to the end of the line and may start with a quoted
part.  A backslash escapes a character anywhere.  Comments stand on lines of their
own, at the very start.

Main results:

- Theorem `readUntil?_plain`: text without special characters is read as it stands up to its
  stop.
-/

namespace ApiBinding.Ini

/-- The assignments of a text. -/
structure Contents where
  /-- What is assigned in no section. -/
  general : List (String × String) := []
  /-- What is assigned in each section, in the order in which sections are opened. -/
  sections : List (String × List (String × String)) := []

/-- The character that stands after a backslash as a letter. -/
def escaped (c : Char) : Char :=
  if c = '0' then '\x00'
  else if c = 'a' then '\x07'
  else if c = 'b' then '\x08'
  else if c = 't' then '\t'
  else if c = 'r' then '\r'
  else if c = 'n' then '\n'
  else c

/-- The character of a hexadecimal code. -/
def codeChar? (digits : List Char) : Option Char := do
  let code ← digits.foldlM (fun n c => (Text.hexValue? c).map fun d => n * 16 + d) 0
  if code.isValidChar then some (Char.ofNat code) else none

/-- The text up to a stop, and what follows from the stop on.  The end of the text is a
stop only where that is said. -/
def readUntil? (endStops : Bool) (stops : List Char) :
    List Char → Option (List Char × List Char)
  | [] => if endStops then some ([], []) else none
  | '\\' :: 'x' :: a :: b :: c :: d :: rest => do
    let code ← codeChar? [a, b, c, d]
    let (cs, rest) ← readUntil? endStops stops rest
    return (code :: cs, rest)
  | '\\' :: '\n' :: rest => readUntil? endStops stops rest
  | '\\' :: c :: rest => do
    if c = 'x' then none
    else
      let (cs, rest) ← readUntil? endStops stops rest
      return (escaped c :: cs, rest)
  | c :: rest =>
    if stops.contains c then some ([], c :: rest)
    else if c = '\\' then none
    else do
      let (cs, rest) ← readUntil? endStops stops rest
      return (c :: cs, rest)

/-- The text without blanks at its ends. -/
def trimmed (cs : List Char) : String :=
  String.ofList (Text.trimEnd (Text.trimStart cs))

/-- A blank that does not end a line. -/
def isLineBlank (c : Char) : Bool :=
  Text.isBlank c && c != '\n' && c != '\r'

/-- The value after an assignment sign, and what follows it. -/
def readValue? (cs : List Char) : Option (String × List Char) :=
  match cs.dropWhile isLineBlank with
  | [] => some ("", [])
  | c :: rest =>
    if c = '\x22' ∨ c = '\x27' then do
      let (quoted, rest) ← readUntil? false [c] rest
      let (tail, rest) ← readUntil? true ['\n', '\r'] (rest.drop 1)
      return (trimmed (quoted ++ tail), rest)
    else do
      let (value, rest) ← readUntil? true ['\n', '\r'] (c :: rest)
      return (trimmed value, rest)

/-- Add an assignment to the section that was opened last. -/
def assign (contents : Contents) (section? : Option String) (key value : String) : Contents :=
  match section? with
  | none => { contents with general := contents.general ++ [(key, value)] }
  | some name =>
    let entries := (contents.sections.lookup name).getD []
    { contents with sections :=
        contents.sections.filter (fun entry => entry.1 != name) ++
          [(name, entries ++ [(key, value)])] }

/-- Open a section. -/
def openSection (contents : Contents) (name : String) : Contents :=
  if (contents.sections.lookup name).isSome then contents
  else { contents with sections := contents.sections ++ [(name, [])] }

/-- The assignments of a text.  Beside what was read so far are kept the section, the
key that waits for its value, and whether a line starts here.  The number bounds the
steps. -/
def readAll? : Nat → Contents → Option String → String → Bool → List Char → Option Contents
  | 0, _, _, _, _, _ => none
  | _ + 1, contents, _, _, _, [] => some contents
  | fuel + 1, contents, section?, key, atStart, c :: rest =>
    if Text.isBlank c then readAll? fuel contents section? key (c = '\n') rest
    else if c = ';' ∨ c = '#' then
      if atStart then
        readAll? fuel contents section? key true ((rest.dropWhile (· != '\n')).drop 1)
      else none
    else if c = '[' then do
      let (name, rest) ← readUntil? false [']'] rest
      let name := trimmed name
      readAll? fuel (openSection contents name) (some name) key false (rest.drop 1)
    else if c = '=' ∨ c = ':' then
      if key.isEmpty then none
      else do
        let (value, rest) ← readValue? rest
        readAll? fuel (assign contents section? key value) section? "" false rest
    else do
      let (key, rest) ← readUntil? false ['=', ':'] (c :: rest)
      readAll? fuel contents section? (trimmed key) false rest

/-- The assignments of a text. -/
def parse? (cs : List Char) : Option Contents :=
  readAll? (cs.length + 1) {} none "" true cs

/-- Text without a backslash is read up to the stop. -/
theorem readUntil?_plain {stops cs : List Char} {stop : Char} (endStops : Bool)
    (hs : stop ∈ stops) (hb : stop ≠ '\\') (h : ∀ c ∈ cs, c ∉ stops ∧ c ≠ '\\') (rest : List Char) :
    readUntil? endStops stops (cs ++ stop :: rest) = some (cs, stop :: rest) := by
  induction cs with
  | nil =>
    rw [List.nil_append, readUntil?] <;> simp_all
  | cons c cs ih =>
    have hc := h c List.mem_cons_self
    have ht := ih fun d hd => h d (List.mem_cons_of_mem c hd)
    rw [List.cons_append, readUntil?] <;> simp_all

end ApiBinding.Ini
