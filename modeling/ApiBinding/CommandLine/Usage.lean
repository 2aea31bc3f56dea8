/-!
# Command lines

A command line names a command, its inputs and its options.  Options stand anywhere
after their command; the option for the configuration is taken before the command as
well, and the one that stands later counts.  An option has its value in the same word
or in the next one.  Two hyphens alone end the options.

What was read last is taken in only when the next word shows that it is complete, so
that a word that is not understood is reported before a fault in what stands before
it.

Main results:

- Theorem `length_inputs_of_readPart`: a command that is understood has all of its inputs.
-/

namespace ApiBinding.CommandLine

/-- What a command line asks for. -/
inductive Command where
  /-- The functions that a description gives. -/
  | functions (document : String) (namespaceName connection : Option String)
  /-- How one operation is called. -/
  | operation (document name : String) (namespaceName : Option String)
deriving DecidableEq, Repr

/-- A command line that is understood. -/
structure Invocation where
  /-- The path of the file of settings. -/
  configuration : Option String
  command : Command
deriving DecidableEq, Repr

/-- Why a command line is not carried out. -/
inductive UsageFault where
  /-- Help was asked for. -/
  | help
  /-- Nothing was asked for. -/
  | nothing
  | missingCommand
  | unknownCommand
  | unknownArgument
  | missingInput
  /-- A value is missing or empty. -/
  | invalidValue
  /-- A value was given where none is taken. -/
  | needlessValue
  | repeatedOption
deriving DecidableEq, Repr

/-! ## What commands take -/

/-- The options. -/
inductive OptionName where
  | configuration
  | namespaceName
  | connection
deriving DecidableEq, Repr

namespace OptionName

/-- The word after two hyphens. -/
def word : OptionName → String
  | configuration => "config"
  | namespaceName => "namespace"
  | connection => "connection-id"

/-- The letter after one hyphen, if there is one. -/
def letter? : OptionName → Option Char
  | namespaceName => some 'n'
  | _ => none

end OptionName

/-- The kinds of inputs. -/
inductive InputKind where
  /-- The path of a file, which is not empty. -/
  | path
  | text
deriving DecidableEq, Repr

/-- What may stand on a command line or in the part of it that belongs to a command. -/
structure Shape where
  options : List OptionName
  inputs : List InputKind
  commands : List String

namespace Shape

/-- The word that asks for help. -/
def helpWord : String := "help"

/-- The word of the command that lists functions. -/
def functionsWord : String := "functions"

/-- The word of the command that shows an operation. -/
def operationWord : String := "operation"

/-- A whole command line. -/
def line : Shape := ⟨[.configuration], [], [functionsWord, operationWord, helpWord]⟩

/-- The part of the command that lists functions. -/
def functions : Shape := ⟨[.configuration, .namespaceName, .connection], [.path], []⟩

/-- The part of the command that shows an operation. -/
def operation : Shape := ⟨[.configuration, .namespaceName], [.path, .text], []⟩

end Shape

/-! ## Reading words -/

/-- What a word is the value of. -/
inductive Target where
  | option (name : OptionName)
  | input (kind : InputKind)
deriving DecidableEq, Repr

/-- What has been read. -/
structure Collected where
  options : List (OptionName × String) := []
  inputs : List String := []
  /-- What was read last and its value, if that has been read. -/
  pending : Option (Target × Option String) := none

namespace Collected

/-- Take an option in. -/
def addOption (collected : Collected) (name : OptionName) (value : String) :
    Except UsageFault Collected :=
  if (collected.options.lookup name).isSome then .error .repeatedOption
  else .ok { collected with options := collected.options ++ [(name, value)] }

/-- Take in what was read last. -/
def settle (collected : Collected) : Except UsageFault Collected :=
  let settled := { collected with pending := none }
  match collected.pending with
  | none => .ok settled
  | some (_, none) => .error .invalidValue
  | some (.option name, some value) => settled.addOption name value
  | some (.input kind, some value) =>
    if kind = .path ∧ value.isEmpty then .error .invalidValue
    else .ok { settled with inputs := settled.inputs ++ [value] }

/-- The option that waits for its value. -/
def waiting? (collected : Collected) : Option OptionName :=
  match collected.pending with
  | some (.option name, none) => some name
  | _ => none

/-- How many inputs have been read. -/
def inputCount (collected : Collected) : Nat :=
  match collected.pending with
  | some (.input _, _) => collected.inputs.length + 1
  | _ => collected.inputs.length

/-- Read an option, whose value may stand in the same word. -/
def readOption (collected : Collected) (name : OptionName) (value : Option String) :
    Except UsageFault Collected := do
  let settled ← collected.settle
  match value with
  | some value => settled.addOption name value
  | none => return { settled with pending := some (.option name, none) }

/-- Read a word after two hyphens. -/
def readLong (shape : Shape) (collected : Collected) (cs : List Char) :
    Except UsageFault Collected :=
  let word := String.ofList (cs.takeWhile (· != '='))
  let value := match cs.dropWhile (· != '=') with
    | [] => none
    | _ :: value => some (String.ofList value)
  if word = Shape.helpWord then
    if value.isSome then .error .needlessValue
    else collected.settle.bind fun _ => .error .help
  else
    match shape.options.find? fun name => name.word == word with
    | some name => collected.readOption name value
    | none => .error .unknownArgument

/-- Read a letter after one hyphen, with what follows it. -/
def readShort (shape : Shape) (collected : Collected) (letter : Char) (cs : List Char) :
    Except UsageFault Collected :=
  if letter = 'h' then collected.settle.bind fun _ => .error .help
  else
    match shape.options.find? fun name => name.letter? == some letter with
    | some name =>
      let value := match cs with
        | [] => none
        | '=' :: value => some (String.ofList value)
        | value => some (String.ofList value)
      collected.readOption name value
    | none => .error .unknownArgument

/-- Read a word that is a value. -/
def readValue (shape : Shape) (optionsEnded : Bool) (collected : Collected) (word : String) :
    Except UsageFault Collected :=
  match shape.inputs[collected.inputCount]? with
  | some kind => do
    let settled ← collected.settle
    return { settled with pending := some (.input kind, some word) }
  | none =>
    if shape.commands.isEmpty || (optionsEnded && shape.commands.contains word) then
      .error .unknownArgument
    else .error .unknownCommand

/-- Read the words that belong to a shape, up to a command: what was read, and the
command with the words after it. -/
def readWords (shape : Shape) (optionsEnded : Bool) (collected : Collected) :
    List String → Except UsageFault (Collected × Option (String × List String))
  | [] => .ok (collected, none)
  | word :: rest =>
    if optionsEnded then do
      readWords shape true (← collected.readValue shape true word) rest
    else if collected.waiting?.isNone && shape.commands.contains word then
      .ok (collected, some (word, rest))
    else
      match word.toList with
      | ['-', '-'] => readWords shape true collected rest
      | '-' :: '-' :: cs => do
        readWords shape false (← collected.readLong shape cs) rest
      | '-' :: letter :: cs => do
        readWords shape false (← collected.readShort shape letter cs) rest
      | _ =>
        match collected.waiting? with
        | some name =>
          readWords shape false { collected with pending := some (.option name, some word) } rest
        | none => do
          readWords shape false (← collected.readValue shape false word) rest

/-- The value of an option. -/
def option? (collected : Collected) (name : OptionName) : Option String :=
  collected.options.lookup name

end Collected

/-- The part of a command line that belongs to a command. -/
def readPart (shape : Shape) (words : List String) : Except UsageFault Collected := do
  let (collected, _) ← Collected.readWords shape false {} words
  let collected ← collected.settle
  if collected.inputs.length < shape.inputs.length then .error .missingInput
  else return collected

/-- The command of a word with the words after it, and the path of the file of settings
that is given there. -/
def readCommand (word : String) (words : List String) :
    Except UsageFault (Command × Option String) := do
  if word = Shape.functionsWord then
    let part ← readPart Shape.functions words
    match part.inputs with
    | [document] =>
      return (.functions document (part.option? .namespaceName) (part.option? .connection),
        part.option? .configuration)
    | _ => .error .missingInput
  else if word = Shape.operationWord then
    let part ← readPart Shape.operation words
    match part.inputs with
    | [document, name] =>
      return (.operation document name (part.option? .namespaceName), part.option? .configuration)
    | _ => .error .missingInput
  else
    match words with
    | [] => .error .help
    | [command] => .error (if Shape.line.commands.contains command then .help else .unknownCommand)
    | _ => .error .unknownCommand

/-- The invocation of a command line. -/
def parse (words : List String) : Except UsageFault Invocation := do
  let (collected, found) ← Collected.readWords Shape.line false {} words
  match found with
  | none =>
    let collected ← collected.settle
    .error (if collected.options.isEmpty then .nothing else .missingCommand)
  | some (word, rest) =>
    let (command, later) ← readCommand word rest
    let collected ← collected.settle
    return ⟨later <|> collected.option? .configuration, command⟩

/-- A command that is understood has all of its inputs. -/
theorem length_inputs_of_readPart {shape : Shape} {words : List String} {part : Collected}
    (h : readPart shape words = .ok part) : shape.inputs.length ≤ part.inputs.length := by
  simp only [readPart, bind, Except.bind, pure, Except.pure] at h
  split at h
  · exact absurd h (by simp)
  · split at h
    · exact absurd h (by simp)
    · split at h
      · exact absurd h (by simp)
      next hn =>
        injection h with h
        exact h ▸ Nat.le_of_not_lt hn

end ApiBinding.CommandLine
