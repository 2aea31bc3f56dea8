import ApiBinding.CommandLine.Run

/-!
# The program

The outermost layer: files and variables of the machine, and what is printed.
-/

namespace ApiBinding

/-- The fault behind an error of the machine. -/
def machineFault : IO.Error → FileFault
  | .noFileOrDirectory .. => .missing
  | .inappropriateType .. => .isDirectory
  | error => .system (toString error)

/-- A directory and those that enclose it, innermost first. -/
def enclosingDirectories (directory : String) : List String :=
  let parts := directory.splitOn "/"
  (List.range parts.length).map fun dropped =>
    String.intercalate "/" (parts.take (parts.length - dropped))

/-- The files of the machine. -/
def machineFiles : IO (FileAccess IO) := do
  let directory ← IO.currentDir
  return {
    directories := enclosingDirectories directory.toString
    read := fun path => do
      match ← (IO.FS.readBinFile path).toBaseIO with
      | .ok bytes => return .ok bytes.toList
      | .error error => return .error (machineFault error) }

/-- The variables that a block of texts, each ended by a zero, assigns. -/
def environmentOfBlock (cs : List Char) : Environment :=
  (cs.splitOn '\x00').filterMap fun entry =>
    match entry.dropWhile (· != '=') with
    | [] => none
    | _ :: value => some (String.ofList (entry.takeWhile (· != '=')), String.ofList value)

/-- The variables of the machine. -/
def machineEnvironment : IO Environment := do
  match ← (IO.FS.readBinFile "/proc/self/environ").toBaseIO with
  | .ok bytes => return environmentOfBlock (Text.utf8DecodeLenient bytes.toList)
  | .error _ => return []

/-- What is printed where a command line is not carried out. -/
def usage : String :=
  "Inspect the functions an API description binds to\n\n" ++
  "Usage: [--config <FILE>] functions <DOCUMENT> [-n <NAMESPACE>] [--connection-id <ID>]\n" ++
  "       [--config <FILE>] operation <DOCUMENT> <NAME> [-n <NAMESPACE>]\n"

end ApiBinding

open ApiBinding

/-- Carry out a command line, and answer with its status. -/
def main (arguments : List String) : IO UInt32 := do
  match CommandLine.parse arguments with
  | .error .help =>
    IO.print usage
    return 0
  | .error _ =>
    IO.eprint usage
    return 2
  | .ok invocation =>
    let ending ← invocation.run (← machineFiles) (← machineEnvironment)
    IO.print ending.output
    match ending.complaint? with
    | none => return 0
    | some complaint =>
      IO.eprintln complaint
      return ending.status.toUInt32
