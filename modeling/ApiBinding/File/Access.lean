import ApiBinding.Text.Utf8

/-!
# Access to files

What a program asks of a file system: the bytes of the file at a path.  The answer
comes in a monad of choice, so that the same program can run over files held in
memory and over those of a machine.  A text is strictly UTF-8; settings are read
leniently.
-/

namespace ApiBinding

/-- Why a file could not be read. -/
inductive FileFault where
  | missing
  /-- A part of the path that is followed by a slash is a file. -/
  | notDirectory
  | isDirectory
  | notText
  /-- Any other reason, in the words of the system. -/
  | system (message : String)
deriving DecidableEq, Repr

namespace FileFault

/-- The fault in words. -/
def message : FileFault → String
  | missing => "No such file or directory (os error 2)"
  | notDirectory => "Not a directory (os error 20)"
  | isDirectory => "Is a directory (os error 21)"
  | notText => "stream did not contain valid UTF-8"
  | system message => message

end FileFault

/-- A way to read files. -/
structure FileAccess (m : Type → Type) where
  /-- The bytes of the file at a path. -/
  read : String → m (Except FileFault (List UInt8))
  /-- The directory from which paths start and those that enclose it, innermost first. -/
  directories : List String := ["."]

namespace FileAccess

variable {m : Type → Type} [Monad m]

/-- The text of a file. -/
def readText (files : FileAccess m) (path : String) : m (Except FileFault (List Char)) := do
  match ← files.read path with
  | .error fault => return .error fault
  | .ok bytes =>
    match Text.utf8Decode? bytes with
    | none => return .error .notText
    | some text => return .ok text

/-- The text of a file, if there is one, with the replacement character for what is
not UTF-8. -/
def readLenient (files : FileAccess m) (path : String) : m (Option (List Char)) := do
  match ← files.read path with
  | .error _ => return none
  | .ok bytes => return some (Text.utf8DecodeLenient bytes)

/-- The first of several files that can be read leniently, with what it was given for. -/
def readFirst {α : Type} (files : FileAccess m) :
    List (String × α) → m (Option (α × List Char))
  | [] => return none
  | (path, given) :: rest => do
    match ← files.readLenient path with
    | some text => return some (given, text)
    | none => files.readFirst rest

end FileAccess

end ApiBinding
