import ApiBinding.Text.Percent

/-!
# Paths of addresses

A path is a list of written segments; the empty list is the root.  A path grows by
one segment at a time, percent-encoded so that it stays one segment.  Segments of
one or two dots do not name anything: a path is never extended by them, and in an
address they stand for the directory itself and for the one that encloses it.  A
drive letter is not left by going up.
-/

namespace ApiBinding.Uri

/-- The characters that are dropped wherever they stand in an address. -/
def isDropped (c : Char) : Bool :=
  c = '\t' || c = '\n' || c = '\r'

/-- A letter with a colon or a bar, as some file systems name their roots. -/
def isDriveLetter : List Char → Bool
  | [letter, mark] => letter.isAlpha && (mark = ':' || mark = '|')
  | _ => false

/-- A segment with the mark of a drive letter written as a colon. -/
def withDriveColon (segment : List Char) : List Char :=
  if isDriveLetter segment then segment.take 1 ++ [':'] else segment

/-- The directory that encloses a directory. -/
def enclosing (directory : List (List Char)) : List (List Char) :=
  match directory.getLast? with
  | none => []
  | some last => if isDriveLetter last then directory else directory.dropLast

/-- The path of a directory itself: an empty last segment, unless it is the root. -/
def directoryPath (directory : List (List Char)) : List (List Char) :=
  if directory.isEmpty then [] else directory ++ [[]]

/-- A segment as it is written. -/
def writtenSegment (segment : List Char) : List Char :=
  Text.percentEncode Text.isSegmentByte (Text.utf8Bytes (segment.filter fun c => !isDropped c))

/-- The path extended by one segment. -/
def push (path : List (List Char)) (segment : List Char) : List (List Char) :=
  if segment = ['.'] ∨ segment = ['.', '.'] then path
  else
    let written := writtenSegment segment
    if written = ['.', '.'] then directoryPath (enclosing path)
    else if written = ['.'] then directoryPath path
    else if path.isEmpty ∧ written.isEmpty then []
    else path ++ [written]

/-- The text of a path. -/
def pathText (path : List (List Char)) : List Char :=
  '/' :: List.intercalate ['/'] path

/-! ## Paths in addresses -/

/-- A segment with the encoded dots decoded. -/
def withPlainDots : List Char → List Char
  | '%' :: '2' :: 'e' :: rest | '%' :: '2' :: 'E' :: rest => '.' :: withPlainDots rest
  | c :: rest => c :: withPlainDots rest
  | [] => []

/-- A directory with one more segment.  The first segment of a path may be written in
another way. -/
def enter (first : List Char → List Char) (directory : List (List Char)) (segment : List Char) :
    List (List Char) :=
  directory ++ [if directory.isEmpty then first segment else segment]

/-- Walk the segments of an address from a directory. -/
def walk (first : List Char → List Char) (directory : List (List Char)) :
    List (List Char) → List (List Char)
  | [] => directoryPath directory
  | [last] =>
    if withPlainDots last = ['.', '.'] then directoryPath (enclosing directory)
    else if withPlainDots last = ['.'] then directoryPath directory
    else enter first directory last
  | segment :: rest =>
    if withPlainDots segment = ['.', '.'] then walk first (enclosing directory) rest
    else if withPlainDots segment = ['.'] then walk first directory rest
    else walk first (enter first directory segment) rest

end ApiBinding.Uri
