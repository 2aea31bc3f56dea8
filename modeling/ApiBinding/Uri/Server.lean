import ApiBinding.Text.Blank
import ApiBinding.Text.LetterCase
import ApiBinding.Uri.Host
import ApiBinding.Uri.Path

/-!
# Server addresses

The path of a server's address.  An absolute address is taken apart by its scheme:
those of the common schemes have an authority and a path in normal form, others may
have an opaque path.  What is not an absolute address is its own path if it starts
with a slash, and has none otherwise.
-/

namespace ApiBinding.Uri

/-- How an address is taken apart. -/
inductive SchemeKind where
  /-- The common schemes of remote servers. -/
  | remote
  /-- Local files. -/
  | file
  /-- Any other scheme. -/
  | other
deriving DecidableEq, Repr

namespace SchemeKind

/-- The kind of a scheme. -/
def ofName (name : String) : SchemeKind :=
  if ["http", "https", "ws", "wss", "ftp"].contains name then remote
  else if name == "file" then file
  else other

/-- Whether a backslash counts as a slash. -/
def foldsBackslash (kind : SchemeKind) : Bool := kind != other

/-- Whether a character separates the segments of a path. -/
def isSlash (kind : SchemeKind) (c : Char) : Bool :=
  c = '/' || (kind.foldsBackslash && c = '\\')

end SchemeKind

/-- The scheme of an address and what follows its colon. -/
def cutScheme? (cs : List Char) : Option (SchemeKind × List Char) :=
  let isSchemeChar := fun c : Char => c.isAlphanum || c = '+' || c = '-' || c = '.'
  match cs with
  | [] => none
  | c :: _ =>
    if c.isAlpha then
      match cs.dropWhile isSchemeChar with
      | ':' :: rest =>
        some (SchemeKind.ofName (String.ofList (Text.lowered (cs.takeWhile isSchemeChar))), rest)
      | _ => none
    else none

/-- The part of an address before its query or fragment. -/
def beforeQuery (cs : List Char) : List Char :=
  cs.takeWhile fun c => c ≠ '?' ∧ c ≠ '#'

/-- The written segments of a path in an address, without its leading slash. -/
def addressSegments (kind : SchemeKind) (cs : List Char) : List (List Char) :=
  let slashed := (beforeQuery cs).map fun c => if kind.isSlash c then '/' else c
  (slashed.splitOn '/').map fun segment =>
    Text.percentEncode Text.isPathByte (Text.utf8Bytes segment)

/-- The path after its leading slash, in normal form. -/
def normalPath (kind : SchemeKind) (cs : List Char) : List Char :=
  pathText (walk id [] (addressSegments kind cs))

/-- Whether a text after a colon is the number of a service of at most 16 bits, up to
the path. -/
def isServiceNumber (kind : SchemeKind) (cs : List Char) : Bool :=
  let isEnd := fun c : Char => c = '/' || c = '\\' || c = '?' || c = '#'
  let digits := cs.takeWhile Char.isDigit
  let rest := cs.dropWhile Char.isDigit
  (match rest with | [] => true | c :: _ => isEnd c || (kind.foldsBackslash && c = '\\')) &&
    digits.foldl (fun n c => n * 10 + (c.toNat - 0x30)) 0 ≤ 65535

/-- The host of an authority and what follows it.  A colon inside brackets belongs to
the host. -/
def cutHost (kind : SchemeKind) (inBrackets : Bool) : List Char → List Char × List Char
  | [] => ([], [])
  | c :: rest =>
    if (c = ':' && !inBrackets) || c = '?' || c = '#' || kind.isSlash c then ([], c :: rest)
    else
      let cut := cutHost kind (if c = '[' then true else if c = ']' then false else inBrackets) rest
      (c :: cut.1, cut.2)

/-- Drop the user information before the last at sign of an authority; none if
nothing but the sign stands before a path. -/
def dropUser? (kind : SchemeKind) (cs : List Char) : Option (Bool × List Char) :=
  let isEnd := fun c : Char => c = '?' || c = '#' || kind.isSlash c
  let authority := cs.takeWhile fun c => !isEnd c
  let rest := cs.dropWhile fun c => !isEnd c
  if authority.contains '@' then
    let host := (authority.reverse.takeWhile (· ≠ '@')).reverse
    let user := authority.length - host.length
    if user = 1 then
      if host.isEmpty && !rest.isEmpty then none else some (false, host ++ rest)
    else some (true, host ++ rest)
  else some (false, cs)

/-- The path of an address after its authority; none if the authority is malformed. -/
def authorityPath? (kind : SchemeKind) (cs : List Char) : Option (List Char) := do
  let (named, cs) ← dropUser? kind cs
  let (host, rest) := cutHost kind false cs
  let acceptable :=
    if kind = .other then
      isOpaqueHost host && !(host.isEmpty && (named || rest.head? == some ':'))
    else isHost host
  if !acceptable then none
  else
    let rest ← match rest with
      | ':' :: number =>
        if isServiceNumber kind number then some (number.dropWhile Char.isDigit) else none
      | _ => some rest
    if kind = .other then
      match rest with
      | [] | '?' :: _ | '#' :: _ => some []
      | '/' :: path => some (normalPath kind path)
      | path => some (normalPath kind path)
    else
      match rest with
      | c :: path => some (normalPath kind (if kind.isSlash c then path else rest))
      | [] => some (normalPath kind [])

/-- The path of a local file: a drive letter that comes first is written with a colon,
and leading empty segments are dropped. -/
def filePath (segments : List (List Char)) : List Char :=
  '/' :: (pathText (walk withDriveColon [] segments)).dropWhile (· = '/')

/-- The path of a local file's address; none if its host is malformed.  Where no host
is named between the slashes, the path starts with an empty segment. -/
def fileAddressPath? (cs : List Char) : Option (List Char) :=
  let isSlash := SchemeKind.file.isSlash
  let path := fun (cs : List Char) => filePath (addressSegments .file cs)
  let withoutSlash := fun (cs : List Char) => if cs.head?.any isSlash then cs.drop 1 else cs
  if cs.head?.any isSlash && (cs.drop 1).head?.any isSlash then
    let isEnd := fun c : Char => c = '?' || c = '#' || isSlash c
    let host := (cs.drop 2).takeWhile fun c => !isEnd c
    let rest := (cs.drop 2).dropWhile fun c => !isEnd c
    if isDriveLetter host then some (path (cs.drop 2))
    else if host.isEmpty || isLocalHost host then some (path rest)
    else if isHost host then some (path (withoutSlash rest))
    else none
  else some (path (withoutSlash cs))

/-- An opaque path: only control characters and what is not ASCII are encoded. -/
def opaquePath (cs : List Char) : List Char :=
  Text.percentEncode Text.isVisibleAscii (Text.utf8Bytes (beforeQuery cs))

/-- The path of an absolute address; none for any other text. -/
def absolutePath? (address : List Char) : Option (List Char) :=
  let trimmed := Text.dropWhileEnd (fun c => c.toNat ≤ 0x20)
    (address.dropWhile fun c => c.toNat ≤ 0x20)
  match cutScheme? (trimmed.filter fun c => !isDropped c) with
  | none => none
  | some (.remote, rest) => authorityPath? .remote (rest.dropWhile SchemeKind.remote.isSlash)
  | some (.file, rest) => fileAddressPath? rest
  | some (.other, '/' :: '/' :: rest) => authorityPath? .other rest
  | some (.other, '/' :: rest) => some (normalPath .other rest)
  | some (.other, rest) => some (opaquePath rest)

/-- The path of a server's address. -/
def serverPath (address : String) : String :=
  match absolutePath? address.toList with
  | some path => String.ofList path
  | none => if address.toList.head? = some '/' then address else ""

end ApiBinding.Uri
