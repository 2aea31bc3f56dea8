import ApiBinding.Configuration.Environment
import ApiBinding.Text.Blank
import ApiBinding.Text.CharacterClass
import ApiBinding.Text.Utf8

/-!
# Files of variables

A file may give variables that the environment lacks, one assignment a line.  Values
may be quoted, and a quoted value may go on over several lines.  Outside of single
quotes a dollar sign names a variable whose value is put in its place, and a
backslash escapes a few characters.  Reading stops at the first line that is no
assignment; what stands before it counts.

Main results:

- Theorem `cutLines_flatten`: cutting a text into lines loses nothing of it.
- Theorem `prefix_load`: a variable that is set keeps its place and its value.
-/

namespace ApiBinding.VariableFile

/-! ## Lines -/

/-- Where a character of a line stands. -/
inductive LineState where
  | plain
  /-- After a blank, where a comment may start. -/
  | blank
  | escape
  | single
  | singleEscape
  | double
  | doubleEscape
deriving DecidableEq, Repr

namespace LineState

/-- The state that a character outside of quotes leads to. -/
def opened (c : Char) : LineState :=
  if c = '\\' then escape
  else if c = '\x22' then double
  else if c = '\x27' then single
  else plain

/-- The state after a character; none where a comment starts. -/
def next (state : LineState) (c : Char) : Option LineState :=
  match state with
  | plain => some (if Text.isBlank c && c != '\n' && c != '\r' then blank else opened c)
  | blank => if c = '#' then none else some (opened c)
  | escape => some plain
  | single => some (if c = '\\' then singleEscape else if c = '\x27' then plain else single)
  | singleEscape => some single
  | double => some (if c = '\\' then doubleEscape else if c = '\x22' then plain else double)
  | doubleEscape => some double

/-- What stands before a comment, and the state at the end; none if there is a comment. -/
def scan (state : LineState) : List Char → List Char × Option LineState
  | [] => ([], some state)
  | c :: rest =>
    match state.next c with
    | none => ([], none)
    | some state =>
      let scanned := scan state rest
      (c :: scanned.1, scanned.2)

end LineState

/-- The lines of a text, each with the line feed at its end. -/
def cutLines (text : List Char) : List (List Char) :=
  match text with
  | [] => []
  | c :: rest =>
    if c = '\n' then [c] :: cutLines rest
    else
      match cutLines rest with
      | [] => [[c]]
      | line :: lines => (c :: line) :: lines

/-- The line without the line feed at its end and a carriage return before that. -/
def withoutBreak (line : List Char) : List Char :=
  match line.reverse with
  | '\n' :: '\r' :: rest => rest.reverse
  | '\n' :: rest => rest.reverse
  | _ => line

/-- Lines joined where a quote goes on, without their comments.  None stands for a
quote that is never closed. -/
def joinLines (started : List Char) (state : LineState) :
    List (List Char) → List (Option (List Char))
  | [] => if state = .plain then [] else [none]
  | line :: rest =>
    let joined := started ++ line
    if (Text.trimStart joined).head? == some '#' then some [] :: joinLines [] .plain rest
    else
      match state.scan line with
      | (kept, none) => some (started ++ kept) :: joinLines [] .plain rest
      | (_, some .plain) => some (withoutBreak joined) :: joinLines [] .plain rest
      | (_, some state) => joinLines joined state rest

/-! ## Values -/

/-- A value being read. -/
structure ValueState where
  written : List Char := []
  single : Bool := false
  double : Bool := false
  escaped : Bool := false
  /-- After the value only blanks and a comment may follow. -/
  ended : Bool := false
  /-- The name after a dollar sign, and whether it stands in braces. -/
  reference : Option (Bool × List Char) := none

/-- The value of a text.  The first argument gives the values of names. -/
def readValue? (value : String → String) (state : ValueState) : List Char → Option (List Char)
  | [] => finish state
  | c :: rest =>
    if state.ended then
      if c = ' ' ∨ c = '\t' then readValue? value state rest
      else if c = '#' then finish state
      else none
    else if state.escaped then
      if ['\\', '\x27', '\x22', '$', ' '].contains c then
        readValue? value { state with written := state.written ++ [c], escaped := false } rest
      else if c = 'n' then
        readValue? value { state with written := state.written ++ ['\n'], escaped := false } rest
      else none
    else if state.single then
      if c = '\x27' then readValue? value { state with single := false } rest
      else readValue? value { state with written := state.written ++ [c] } rest
    else
      match state.reference with
      | some (braced, name) =>
        if Text.isAlphanumeric c then
          readValue? value { state with reference := some (braced, name ++ [c]) } rest
        else if braced then
          if c = '\x7d' then
            readValue? value
              { state with written := state.written ++ valueOf name, reference := none } rest
          else readValue? value { state with reference := some (true, name ++ [c]) } rest
        else if c = '\x7b' ∧ name.isEmpty then
          readValue? value { state with reference := some (true, []) } rest
        else if c = '$' then
          readValue? value
            { state with written := state.written ++ valueOf name, reference := some (false, []) }
            rest
        else
          readValue? value
            { state with written := state.written ++ valueOf name ++ [c], reference := none } rest
      | none =>
        if c = '$' then readValue? value { state with reference := some (false, []) } rest
        else if state.double then
          if c = '\x22' then readValue? value { state with double := false } rest
          else if c = '\\' then readValue? value { state with escaped := true } rest
          else readValue? value { state with written := state.written ++ [c] } rest
        else if c = '\x27' then readValue? value { state with single := true } rest
        else if c = '\x22' then readValue? value { state with double := true } rest
        else if c = '\\' then readValue? value { state with escaped := true } rest
        else if c = ' ' ∨ c = '\t' then readValue? value { state with ended := true } rest
        else readValue? value { state with written := state.written ++ [c] } rest
where
  valueOf (name : List Char) : List Char := (value (String.ofList name)).toList
  /-- The whole value; a quote or a brace must not be left open. -/
  finish (state : ValueState) : Option (List Char) :=
    if state.single || state.double then none
    else
      match state.reference with
      | some (true, _) => none
      | some (false, name) => some (state.written ++ valueOf name)
      | none => some state.written

/-! ## Assignments -/

/-- The characters of names; the first one is a letter or an underscore. -/
def isNameChar (c : Char) : Bool :=
  c.isAlphanum || c = '_' || c = '.'

/-- A name and what follows it and the blanks after it. -/
def readName? (cs : List Char) : Option (String × List Char) :=
  match cs with
  | [] => none
  | c :: _ =>
    if c.isAlpha || c = '_' then
      some (String.ofList (cs.takeWhile isNameChar),
        Text.trimStart (cs.dropWhile isNameChar))
    else none

/-- The name of an assignment and what follows the equals sign.  The word `export` may
stand before the name, and may be a name itself. -/
def readTarget? (cs : List Char) : Option (String × List Char) := do
  let (name, rest) ← readName? cs
  match rest with
  | '=' :: rest => return (name, rest)
  | rest =>
    if name = "export" then
      match ← readName? rest with
      | (name, '=' :: rest) => return (name, rest)
      | _ => none
    else none

/-- The assignment of a line.  The outer answer is none for a line that is no
assignment, the inner one for a blank line or a comment. -/
def readLine? (value : String → String) (line : List Char) : Option (Option (String × String)) :=
  let line := Text.trimStart (Text.trimEnd line)
  if line.isEmpty || line.head? == some '#' then some none
  else do
    let (name, rest) ← readTarget? line
    let rest := Text.trimStart rest
    if rest.isEmpty || rest.head? == some '#' then return some (name, "")
    else
      let written ← readValue? value {} rest
      return some (name, String.ofList written)

/-- Set a variable that is not set. -/
def setNew (name value : String) (environment : Environment) : Environment :=
  if (Entries.find? name environment).isSome then environment else environment ++ [(name, value)]

/-- The environment with the assignments of lines, up to the first that is none. -/
def setLines (environment : Environment) : List (Option (List Char)) → Environment
  | [] | none :: _ => environment
  | some line :: rest =>
    match readLine? (fun name => (Entries.find? name environment).getD "") line with
    | none => environment
    | some none => setLines environment rest
    | some (some (name, value)) => setLines (setNew name value environment) rest

/-- The environment with the variables of a file, which may start with the mark of its
byte order. -/
def load (environment : Environment) (text : List Char) : Environment :=
  setLines environment (joinLines [] .plain (cutLines (Text.withoutOrderMark text)))

/-- Cutting a text into lines loses nothing of it. -/
theorem cutLines_flatten (text : List Char) : (cutLines text).flatten = text := by
  induction text with
  | nil => rfl
  | cons c rest ih =>
    unfold cutLines
    split
    · simp [ih]
    · split
      next h => simpa [h] using ih
      next line lines h => simpa [h] using ih

/-- The lines of a file only add variables behind those that are set. -/
theorem prefix_setLines (environment : Environment) (lines : List (Option (List Char))) :
    environment <+: setLines environment lines := by
  induction lines generalizing environment with
  | nil => exact List.prefix_refl _
  | cons line rest ih =>
    cases line with
    | none => exact List.prefix_refl _
    | some line =>
      unfold setLines
      split
      · exact List.prefix_refl _
      · exact ih _
      · refine List.IsPrefix.trans ?_ (ih _)
        unfold setNew
        split
        · exact List.prefix_refl _
        · exact List.prefix_append _ _

/-- What is set before stays, and in its place. -/
theorem prefix_load (environment : Environment) (text : List Char) :
    environment <+: load environment text :=
  prefix_setLines environment _

end ApiBinding.VariableFile
