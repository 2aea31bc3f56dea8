import ApiBinding.Configuration.Environment
import ApiBinding.Configuration.Fault
import ApiBinding.Yaml.Reader

/-!
# Settings in YAML texts

A text of settings is one mapping in the simple dialect.  Its scalars are read by rules
of their own: few words have a meaning, whole numbers have 64 bits, and numbers that
are infinite are refused.  The key of an entry is a text or a whole number.
-/

namespace ApiBinding.Yaml

/-! ## Scalars -/

/-- What a scalar of a text of settings says. -/
inductive ScalarContent where
  | word (text : String)
  | whole (n : Int)
  | real (text : String)
  | flag (b : Bool)
  | nothing
  /-- It is not what its tag asks for. -/
  | unfit
deriving DecidableEq, Repr

/-- The whole number of 64 bits that digits of a base write, perhaps after a sign. -/
def signed64? (base : Nat) (cs : List Char) : Option Int :=
  let signed := WrittenNumber.readSign cs
  (numeral? base signed.2).bind fun magnitude =>
    let n : Int := if signed.1 then -(magnitude : Int) else magnitude
    if fitsInteger n then some n else none

/-- The whole number that a plain scalar writes.  Bases are marked by a zero and a
letter, and a plus may stand before a sign. -/
def settingInteger? (cs : List Char) : Option Int :=
  let marked := match cs with
    | '0' :: 'x' :: digits => signed64? 16 digits
    | '0' :: 'o' :: digits => signed64? 8 digits
    | '+' :: rest => signed64? 10 rest
    | _ => none
  marked.orElse fun _ => signed64? 10 cs

/-- Whether a plain scalar writes a number of the binary64 format. -/
def isReal (text : String) : Bool :=
  [".inf", ".Inf", ".INF", "+.inf", "+.Inf", "+.INF", "-.inf", "-.Inf", "-.INF", ".nan",
    ".NAN"].contains text || (Binary64.ofText? text).isSome

/-- Whether a plain scalar is a word for nothing. -/
def isNothing (text : String) : Bool :=
  text = "~" || text = "null"

/-- The truth value that a plain scalar names. -/
def settingFlag? (text : String) : Option Bool :=
  if text = "true" then some true else if text = "false" then some false else none

/-- What a plain scalar without a tag says. -/
def plainContent (text : String) : ScalarContent :=
  match settingInteger? text.toList with
  | some n => .whole n
  | none =>
    if isNothing text then .nothing
    else
      match settingFlag? text with
      | some b => .flag b
      | none => if isReal text then .real text else .word text

/-- What a scalar says.  The tags of four standard kinds ask for a form; with any other
tag it is a text. -/
def scalarContent (tag : Option String) (plain : Bool) (text : String) : ScalarContent :=
  if !plain then .word text
  else
    match tag with
    | none => plainContent text
    | some tag =>
      if tag = standardTag ++ "bool" then (settingFlag? text).elim .unfit .flag
      else if tag = standardTag ++ "int" then (signed64? 10 text.toList).elim .unfit .whole
      else if tag = standardTag ++ "float" then if isReal text then .real text else .unfit
      else if tag = standardTag ++ "null" then if isNothing text then .nothing else .unfit
      else .word text

/-- The setting that the content of a scalar is. -/
def ScalarContent.setting : ScalarContent → Except ConfigurationFault Setting
  | word text => .ok (.word text)
  | whole n => .ok (.whole n)
  | real text =>
    match Binary64.ofText? text with
    | some x => .ok (.real x)
    | none => .error .unreadable
  | flag b => .ok (.flag b)
  | nothing | unfit => .ok .compound

/-! ## Entries -/

/-- The key of an entry. -/
inductive EntryKey where
  | word (text : String)
  | whole (n : Int)
  /-- A key that can be no name. -/
  | unnamed
  /-- What stands for nothing, so that the key is still to come. -/
  | missing
deriving DecidableEq, Repr

namespace EntryKey

/-- The key that a node is. -/
def ofNode : Node → EntryKey
  | .circular => missing
  | .scalar tag plain text =>
    match scalarContent tag plain text with
    | .word text => word text
    | .whole n => whole n
    | .unfit => missing
    | .real _ | .flag _ | .nothing => unnamed
  | .absent | .sequence _ _ | .mapping _ _ => unnamed

/-- The name that a key is. -/
def name : EntryKey → Except ConfigurationFault String
  | word text => .ok text
  | whole n => .ok (toString n)
  | unnamed | missing => .error .nameless

end EntryKey

/-- A node as a key and as a setting. -/
abbrev Reading := EntryKey × Except ConfigurationFault Setting

/-- Keys with their values, from the nodes of a mapping in order; a node that stands
for nothing is no key. -/
def pairUp : Option EntryKey → List Reading → List Reading
  | _, [] => []
  | none, (key, _) :: rest => if key = .missing then pairUp none rest else pairUp (some key) rest
  | some key, (_, setting) :: rest => (key, setting) :: pairUp none rest

/-- The entries without those whose key comes again. -/
def keepLast : List Reading → List Reading
  | [] => []
  | entry :: rest =>
    if rest.any fun later => later.1 == entry.1 then keepLast rest else entry :: keepLast rest

/-- The settings that the nodes of a mapping give; the first fault counts. -/
def namedSettings (parts : List Reading) : Except ConfigurationFault (List (String × Setting)) :=
  (keepLast (pairUp none parts)).mapM fun entry => do
    let name ← entry.1.name
    let setting ← entry.2
    return (name, setting)

/-- The setting that parts make up, if all of them can be read. -/
def wholeOf {α : Type} (parts : Except ConfigurationFault α) : Except ConfigurationFault Setting :=
  parts.map fun _ => .compound

mutual

/-- The setting that a node is; every part of it must be readable. -/
def Node.setting : Node → Except ConfigurationFault Setting
  | .absent | .circular => .ok .compound
  | .scalar tag plain text => (scalarContent tag plain text).setting
  | .sequence _ items => wholeOf ((itemReadings items).mapM fun reading => reading.2)
  | .mapping _ entries => wholeOf (namedSettings (entryReadings entries))

/-- The items of a sequence, each as a key and as a setting. -/
def itemReadings : List Node → List Reading
  | [] => []
  | item :: rest => (EntryKey.ofNode item, item.setting) :: itemReadings rest

/-- The nodes of a mapping in order, each as a key and as a setting. -/
def entryReadings : List (Node × Node) → List Reading
  | [] => []
  | (key, node) :: rest =>
    (EntryKey.ofNode key, key.setting) :: (EntryKey.ofNode node, node.setting) ::
      entryReadings rest

end

/-- The settings of a text: those of its only document, which is a mapping. -/
def settings (cs : List Char) : Except ConfigurationFault (List (String × Setting)) :=
  match tokens? .simple cs with
  | none => .error .unreadable
  | some [] => .ok []
  | some tokens =>
    match document? .simple tokens with
    | none => .error .unreadable
    | some (root, _) =>
      match root.node with
      | .mapping _ entries => namedSettings (entryReadings entries)
      | node => node.setting.bind fun _ => .error .unreadable

end ApiBinding.Yaml
