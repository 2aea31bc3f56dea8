import ApiBinding.Configuration.Format
import ApiBinding.Configuration.VariableFile
import ApiBinding.File.Access
import ApiBinding.File.Path

/-!
# Loading configurations

A configuration is made from a file of settings and from the environment, which
counts more, and what is asked for explicitly counts most.  The file is looked for
under its path as it stands and then with the endings of the known formats.  It may
be missing unless its path was asked for.
-/

namespace ApiBinding

/-- What is asked for when a configuration is loaded. -/
structure ConfigurationRequest where
  /-- The path of the file of settings. -/
  path : Option String := none
  /-- Whether the environment counts. -/
  usesEnvironment : Bool := true
  logLevel : Option String := none
  maxRows : Option Nat := none
  numberIsFloat : Option Bool := none

namespace Configuration

/-! ## Names of settings -/

/-- A character of the names in a path. -/
def isPathChar (c : Char) : Bool :=
  c.isAlphanum || c = ' ' || c = '_' || c = '-'

/-- A blank beside the number of a place. -/
def isSpace (c : Char) : Bool :=
  c = ' ' || c = '\t'

/-- Whether a text is a sequence of steps into a compound: names after dots and places
in brackets, whose numbers have at most 64 bits.  The number bounds the steps. -/
def isSteps : Nat → List Char → Bool
  | 0, _ => false
  | _ + 1, [] => true
  | fuel + 1, '.' :: rest =>
    !(rest.takeWhile isPathChar).isEmpty && isSteps fuel (rest.dropWhile isPathChar)
  | fuel + 1, '[' :: rest =>
    let inner := rest.dropWhile isSpace
    let minus := inner.head? == some '-'
    let digits := if minus then inner.drop 1 else inner
    let magnitude : Int := digitsValue (digits.takeWhile Char.isDigit)
    match (digits.dropWhile Char.isDigit).dropWhile isSpace with
    | ']' :: rest =>
      !(digits.takeWhile Char.isDigit).isEmpty &&
        fitsInteger (if minus then -magnitude else magnitude) && isSteps fuel rest
    | _ => false
  | _ + 1, _ => false

/-- The name that a written name starts with, and whether steps into it follow.  A
name that is no path is taken as a whole.  Names are in lower-case letters. -/
def cutPath (written : String) : String × Bool :=
  let cs := written.toList
  let steps := cs.dropWhile isPathChar
  if !(cs.takeWhile isPathChar).isEmpty && !steps.isEmpty && isSteps (steps.length + 1) steps then
    (Text.lowerCase (String.ofList (cs.takeWhile isPathChar)), true)
  else (Text.lowerCase written, false)

/-- Settings with some more that count more.  A setting that is put into another one
makes that a compound. -/
def overlay (settings added : List (String × Setting)) : List (String × Setting) :=
  added.foldl (fun settings entry =>
    let (name, inner) := cutPath entry.1
    Entries.set name (if inner then .compound else entry.2) settings) settings

/-! ## Files -/

/-- The path of the file of settings if none is asked for, without its ending. -/
def defaultPath : String := "rhythm-connectors"

/-- The name of a file of variables. -/
def variableFileName : String := ".env"

variable {m : Type → Type} [Monad m]

/-- The text of a file of settings and its format; none if there is no such file or its
format is not known. -/
def locate (files : FileAccess m) (path : String) : m (Option (SettingsFormat × List Char)) := do
  match ← files.readLenient path with
  | some text =>
    let format := (File.ending? path).bind SettingsFormat.ofEnding?
    return format.map fun format => (format, text)
  | none =>
    let candidates := SettingsFormat.all.flatMap fun format =>
      format.endings.filterMap fun ending =>
        (File.withEnding? path ending).map fun path => (path, format)
    files.readFirst candidates

/-- The settings of the file at a path; without a path, of the default file if there is
one. -/
def fileSettings (files : FileAccess m) (path : Option String) :
    m (Except ConfigurationFault (List (String × Setting))) := do
  match ← locate files (path.getD defaultPath) with
  | none => return if path.isSome then .error .unreadable else .ok []
  | some (format, text) => return format.settings text

/-- The environment with the variables of the nearest file of variables. -/
def fullEnvironment (files : FileAccess m) (environment : Environment) : m Environment := do
  let candidates := files.directories.map fun directory => (directory ++ "/" ++ variableFileName, ())
  match ← files.readFirst candidates with
  | none => return environment
  | some (_, text) => return VariableFile.load environment text

/-! ## Loading -/

/-- The configuration with what is asked for explicitly. -/
def adjust (configuration : Configuration) (request : ConfigurationRequest) : Configuration where
  logLevel := request.logLevel.getD configuration.logLevel
  maxRows := request.maxRows.getD configuration.maxRows
  numberIsFloat := request.numberIsFloat.getD configuration.numberIsFloat

/-- The configuration that a request gives. -/
def load (files : FileAccess m) (environment : Environment) (request : ConfigurationRequest) :
    m (Except ConfigurationFault Configuration) := do
  let environment ←
    if request.usesEnvironment then fullEnvironment files environment else pure []
  match ← fileSettings files request.path with
  | .error fault => return .error fault
  | .ok found =>
    match ofSettings? (overlay (overlay [] found) environment.settings) with
    | none => return .error .malformed
    | some configuration => return .ok (configuration.adjust request)

end Configuration

end ApiBinding
